import Gateway.CommandLine.Execute
import Gateway.Session
import Gateway.Proofs.Snapshot.Alias
import Gateway.Proofs.Json.Integer
import Gateway.Proofs.Json.Quoted
import Gateway.Proofs.Json.Text
import Gateway.Proofs.Datum.Reader
import Gateway.Proofs.Snapshot.Document
import Gateway.Proofs.Gzip.Stored
import Gateway.Proofs.Snapshot.Codec
import Gateway.Proofs.Audit.Report
import Gateway.Proofs.Datum.Extent
import Gateway.Proofs.Json.Extent
import Gateway.Proofs.Config.Reader
import Gateway.Proofs.Text.Letters
import Gateway.Proofs.Config.Effective
import Gateway.Proofs.Audit.Reading
import Gateway.Proofs.Config.Rearranged
import Gateway.Proofs.Config.ClientPlugin
import Gateway.Proofs.Config.ClientTls
import Gateway.Proofs.Audit.RuleIdOrder
import Gateway.Proofs.Config.Form
import Gateway.Proofs.Audit.Footprint
import Gateway.Proofs.Audit.Padding
import Gateway.Proofs.Snapshot.AppendedAlias
import Gateway.Proofs.Config.Telemetry
import Gateway.Proofs.Config.Plugin
import Gateway.Proofs.Config.Settings
import Gateway.Proofs.Config.Loading
import Gateway.Proofs.Json.Pretty
import Gateway.Proofs.Audit.Document
import Gateway.Proofs.Gzip.Continuation
import Gateway.Proofs.Snapshot.Truncation
import Gateway.Proofs.Datum.Order
import Gateway.Proofs.Datum.Spelling
import Gateway.Proofs.Snapshot.Spelling
import Gateway.Proofs.Snapshot.Renamed
import Gateway.Proofs.Snapshot.Rewriting
import Gateway.Proofs.Audit.NumericRuleId
import Gateway.Proofs.Text.Trimmed
import Gateway.Proofs.Duration.Grammar
import Gateway.Proofs.Binary64.Whole
import Gateway.Proofs.Duration.Sum
import Gateway.Proofs.Config.Defaults
import Gateway.Proofs.Config.FlagBits
import Gateway.Proofs.Extension.Setting
import Gateway.Proofs.Extension.Form
import Gateway.Proofs.Bits
import Gateway.Proofs.Config.Cache
import Gateway.Proofs.Json.Path
import Gateway.Proofs.Extension.Expected
import Gateway.Proofs.Extension.Mistyped
