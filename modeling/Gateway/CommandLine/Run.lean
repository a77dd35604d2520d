import Gateway.Audit.Document
import Gateway.CommandLine.Help
import Gateway.Config.Load
import Gateway.Snapshot.Codec
import Gateway.Text.Basic

namespace Gateway.CommandLine

inductive Outcome where
  | print (text : Bytes)
  | write (path : String) (contents : Bytes)
  | failure
  | misuse

def Outcome.code : Outcome → UInt32
  | .print _ | .write _ _ => 0
  | .failure => 1
  | .misuse => 2

def line (text : Bytes) : Bytes :=
  text ++ [Ascii.lineFeed]

def lines (texts : List String) : Bytes :=
  texts.flatMap fun text => line (Text.bytes text)

def twoDigits (n : Nat) : String :=
  if n < 10 then "0" ++ toString n else toString n

def recommendationLine (index : Nat) (r : Recommendation) : String :=
  twoDigits index ++ ": " ++ r.rule ++ " " ++ Text.alignLeft 8 r.severity.label ++ "\t" ++ r.message

def reportLines (r : Report) : List String :=
  r.recommendations.zipIdx.map fun (recommendation, index) =>
    recommendationLine index recommendation

def auditSettings (read : String → Option Bytes) (exclude : List String)
    (severities : List Severity) (settings : Option String) : Except LoadError Settings := do
  let t ← match settings with
    | some path => Settings.load (read path)
    | none => .ok {}
  let t := t.excluding exclude
  return if severities.isEmpty then t else t.reporting severities

def Command.inputs : Command → List String
  | .audit config _ _ settings _ => settings.toList ++ [config]
  | .encode config _ => [config]
  | .decode input => [input]

def Command.run (pack : Bytes → Bytes) (read : String → Option Bytes) : Command → Outcome
  | .audit config exclude severities settings json =>
      let report := do
        let t ← auditSettings read exclude severities settings
        let c ← Config.load config (read config)
        return c.audit t
      match report with
      | .ok r =>
          .print (if json then line (Json.pretty 0 r.toValue) else lines (reportLines r))
      | .error _ => .failure
  | .encode config output =>
      match Config.load config (read config) with
      | .ok c => .write output (c.snapshot.encode pack)
      | .error _ => .failure
  | .decode input =>
      match (read input).map Snapshot.decode with
      | some (.ok s) => .print (line (Json.pretty 0 s.toValue))
      | _ => .failure

def Request.inputs : Request → List String
  | .run command => command.inputs
  | _ => []

def Request.answer (pack : Bytes → Bytes) (read : String → Option Bytes) : Request → Outcome
  | .run command => command.run pack read
  | .help none => .print (lines programHelp)
  | .help (some verb) => .print (lines (verbHelp verb))
  | .helpOnHelp => .print (lines helpVerbHelp)
  | .misuse => .misuse

end Gateway.CommandLine
