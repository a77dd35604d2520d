import Gateway.Datum.Reader
import Gateway.KeyMap
import Gateway.Text.Basic
import Gateway.Text.Quoted

namespace Gateway

inductive Severity where
  | critical
  | high
  | medium
  | low
  deriving DecidableEq

namespace Severity

def all : List Severity :=
  [.critical, .high, .medium, .low]

def label : Severity → String
  | .critical => "CRITICAL"
  | .high => "HIGH"
  | .medium => "MEDIUM"
  | .low => "LOW"

def rank : Severity → Nat
  | .critical => 0
  | .high => 1
  | .medium => 2
  | .low => 3

theorem mem_all (s : Severity) : s ∈ all := by
  cases s <;> simp [all]

def ofLabel? (text : String) : Option Severity :=
  all.find? fun s => Text.sameLetters s.label (Text.trim text)

def unknownMessage (text : String) : String :=
  "unknown severity: " ++ Text.quoted text ++ " (expected critical, high, medium or low)"

def read : Reader Severity := fun d => do
  let label ← d.readString
  match ofLabel? label with
  | some s => return s
  | none => .error .mistyped

end Severity

structure Settings where
  excluded : List String := []
  severities : List Severity := Severity.all
  deriving DecidableEq

namespace Settings

instance : Inhabited Settings := ⟨{}⟩

def excluding (t : Settings) (ids : List String) : Settings :=
  { t with excluded := t.excluded ++ ids }

def reporting (t : Settings) (severities : List Severity) : Settings :=
  { t with severities := severities }

def allows (t : Settings) (id : String) (severity : Severity) : Bool :=
  t.severities.contains severity && !t.excluded.contains id

def excludedIds (t : Settings) : List String :=
  (KeyMap.ofEntries (t.excluded.map (·, ()))).keys

def reported (t : Settings) : List Severity :=
  Severity.all.filter t.severities.contains

def layout : Layout Settings where
  start := {}
  fields := [
    .of "exclude" (Datum.readList Datum.readString) fun x s => { s with excluded := x },
    .of "severities" (Datum.readList Severity.read) fun x s => { s with severities := x }]

def read : Reader Settings :=
  layout.read

end Settings

end Gateway
