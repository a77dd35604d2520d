import Gateway.Audit.Settings
import Gateway.Config.Basic
import Gateway.Config.Defaults
import Gateway.Config.Reader
import Gateway.Json.Parser
import Gateway.Text.Basic
import Gateway.Text.Quoted
import Gateway.Toml.Parser

namespace Gateway.Config

def supportedVersion : UInt32 :=
  3

inductive Defect where
  | unsupportedVersion (found expected : UInt32)
  | emptyPath (index : Nat)
  | relativePath (path : String)
  deriving DecidableEq

def Defect.message : Defect → String
  | .unsupportedVersion found expected =>
      "unsupported configuration version " ++ toString found.toNat ++
        " (expected " ++ toString expected.toNat ++ ")"
  | .emptyPath index => "endpoint #" ++ toString index ++ " has an empty path"
  | .relativePath path => "endpoint path " ++ Text.quoted path ++ " must start with '/'"

def versionDefects (version : UInt32) : List Defect :=
  if version = supportedVersion then [] else [.unsupportedVersion version supportedVersion]

def pathDefects (index : Nat) (path : String) : List Defect :=
  match path.toList with
  | [] => [.emptyPath index]
  | c :: _ => if c = '/' then [] else [.relativePath path]

def defects (c : Config) : List Defect :=
  versionDefects c.version ++
    (c.endpoints.zipIdx.flatMap fun (e, index) => pathDefects index e.path)

end Gateway.Config

namespace Gateway

inductive LoadError where
  | unreadableFile
  | badJson (fault : Fault)
  | badToml
  | unsupportedFormat (extension : String)
  | invalid (defects : List Config.Defect)
  deriving DecidableEq

def LoadError.message? : LoadError → Option String
  | .unsupportedFormat extension =>
      some ("unsupported configuration format: " ++ Text.quoted extension)
  | .invalid defects =>
      some ("validation failed: " ++ ", ".intercalate (defects.map Config.Defect.message))
  | _ => none

namespace Config

def fileExtension (path : String) : String :=
  let name := ((path.toList.reverse.dropWhile (· == '/')).takeWhile (· ≠ '/')).reverse
  let behind := (name.reverse.takeWhile (· ≠ '.')).reverse
  if behind.length + 1 < name.length then String.ofList behind else ""

def ofJson (text : Bytes) : Except LoadError Config :=
  ((Json.parse text).read read).mapError .badJson

def ofToml (text : String) : Except LoadError Config :=
  match Toml.parse? text with
  | some d => (read d).mapError fun _ => .badToml
  | none => .error .badToml

def accept (c : Config) : Except LoadError Config :=
  match c.defects with
  | [] => .ok c.withDefaults
  | defects => .error (.invalid defects)

def loadJson (text : Bytes) : Except LoadError Config :=
  (ofJson text).bind accept

def load (path : String) (contents : Option Bytes) : Except LoadError Config :=
  match contents.bind Text.ofBytes? with
  | none => .error .unreadableFile
  | some text =>
      match Text.lower (fileExtension path) with
      | "json" => (ofJson (Text.bytes text)).bind accept
      | "toml" => (ofToml text).bind accept
      | other => .error (.unsupportedFormat other)

end Config

namespace Settings

def load (contents : Option Bytes) : Except LoadError Settings :=
  match contents.bind Text.ofBytes? with
  | none => .error .unreadableFile
  | some text =>
      match Toml.parse? text with
      | some d => (read d).mapError fun _ => .badToml
      | none => .error .badToml

end Settings

end Gateway
