import Gateway.Datum.Reader
import Gateway.Json.Value

namespace Gateway.Datum

open Json (Value)

def numberValue : Number → Value
  | .double d => if d.isFinite then .number (.double d) else .null
  | n => .number n

mutual

def readValue : Datum → Except Fault Value
  | .broken | .deep _ | .number none | .text none => .error .malformed
  | .null => .ok .null
  | .bool b => .ok (.bool b)
  | .number (some n) => .ok (numberValue n)
  | .text (some s) => .ok (.string s)
  | .list items closing => do
      let values ← readValues items
      if closing = .missing then .error .malformed else return .array values
  | .record members closed => do
      let values ← readMemberValues members
      if closed then return .object (Entries.inOrder values) else .error .malformed

def readValues : List Datum → Except Fault (List Value)
  | [] => .ok []
  | d :: ds => do
      let v ← readValue d
      let vs ← readValues ds
      return v :: vs

def readMemberValues : List (Option String × Datum) → Except Fault (Entries Value)
  | [] => .ok []
  | (k, d) :: ms => do
      let k ← readKey k
      let v ← readValue d
      let vs ← readMemberValues ms
      return (k, v) :: vs

end

mutual

def ofValue : Value → Datum
  | .null => .null
  | .bool b => .bool b
  | .number n => .number (some n)
  | .string s => .text (some s)
  | .array items => .list (ofValues items) .exact
  | .object members => .record (ofMembers members) true

def ofValues : List Value → List Datum
  | [] => []
  | v :: vs => ofValue v :: ofValues vs

def ofMembers : List (String × Value) → List (Option String × Datum)
  | [] => []
  | (k, v) :: ms => (some k, ofValue v) :: ofMembers ms

end

end Gateway.Datum
