import Gateway.Gzip.Member
import Gateway.Json.Parser
import Gateway.Json.Printer
import Gateway.Snapshot.Alias
import Gateway.Snapshot.Document

namespace Gateway.Snapshot

inductive CodecError where
  | emptyInput
  | notPacked
  | unreadable (fault : Fault)
  deriving DecidableEq

def CodecError.message? : CodecError → Option String
  | .emptyInput => some "failed to decompress snapshot: empty input"
  | _ => none

def wire (s : Snapshot) : Bytes :=
  Json.compact (s.mapComponents shorten).toValue

def encode (pack : Bytes → Bytes) (s : Snapshot) : Bytes :=
  pack s.wire

def ofWire (text : Bytes) : Except Fault Snapshot :=
  ((Json.parse text).read read).map (·.mapComponents expand)

def decode (bs : Bytes) : Except CodecError Snapshot :=
  if bs.isEmpty then .error .emptyInput
  else match Gzip.unpack? bs with
    | none => .error .notPacked
    | some text => (ofWire text).mapError .unreadable

end Gateway.Snapshot
