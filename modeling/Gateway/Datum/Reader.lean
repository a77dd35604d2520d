import Gateway.Datum.Basic
import Gateway.KeyMap

namespace Gateway

abbrev Reader (α : Type) := Datum → Except Fault α

namespace Datum

-- The fault of a datum that is not of the expected kind. A scalar is read to its end before its
-- kind is looked at.
def mismatch : Datum → Fault
  | .broken | .deep _ | .number none | .text none => .malformed
  | _ => .mistyped

def readBool : Reader Bool
  | .bool b => .ok b
  | d => .error d.mismatch

def readString : Reader String
  | .text (some s) => .ok s
  | d => .error d.mismatch

def readInt (low high : Int) : Reader Int
  | .number (some (.integer i)) =>
      if low ≤ i ∧ i ≤ high then .ok i else .error .mistyped
  | d => .error d.mismatch

def readInt64 : Reader Int64 := fun d =>
  (readInt Int64.minValue.toInt Int64.maxValue.toInt d).map Int64.ofInt

def readUInt32 : Reader UInt32 := fun d =>
  (readInt 0 (UInt32.size - 1) d).map fun i => UInt32.ofNat i.toNat

def readDouble : Reader Double
  | .number (some n) => .ok n.toDouble
  | d => .error d.mismatch

def readOption {α : Type} (read : Reader α) : Reader (Option α)
  | .null => .ok none
  | d => (read d).map some

def readEach {α : Type} (read : Reader α) : List Datum → Except Fault (List α)
  | [] => .ok []
  | d :: ds => do
      let x ← read d
      let xs ← readEach read ds
      return x :: xs

def readList {α : Type} (read : Reader α) : Reader (List α)
  | .list items closing => do
      let xs ← readEach read items
      if closing = .missing then .error .malformed else return xs
  | d => .error d.mismatch

def readKey : Option String → Except Fault String
  | some k => .ok k
  | none => .error .malformed

def readPairs {α : Type} (read : Reader α) :
    List (Option String × Datum) → Except Fault (Entries α)
  | [] => .ok []
  | (k, d) :: ms => do
      let k ← readKey k
      let x ← read d
      let xs ← readPairs read ms
      return (k, x) :: xs

def readMap {α : Type} (read : Reader α) : Reader (KeyMap α)
  | .record members closed => do
      let pairs ← readPairs read members
      if closed then return KeyMap.ofEntries pairs else .error .malformed
  | d => .error d.mismatch

end Datum

structure Field (σ : Type) where
  name : String
  read : Datum → σ → Except Fault σ

def Field.of {σ α : Type} (name : String) (read : Reader α) (put : α → σ → σ) : Field σ :=
  ⟨name, fun d s => (read d).map (put · s)⟩

structure Layout (σ : Type) where
  fields : List (Field σ)
  start : σ
  required : Bool := false

namespace Layout

variable {σ : Type}

def readMembers (fields : List (Field σ)) :
    List (Option String × Datum) → List String → σ → Except Fault (List String × σ)
  | [], seen, s => .ok (seen, s)
  | (k, d) :: ms, seen, s => do
      let k ← Datum.readKey k
      match fields.find? (·.name == k) with
      | none => if d.isComplete then readMembers fields ms seen s else .error .malformed
      | some f =>
          if seen.contains k then .error .mistyped
          else
            let s ← f.read d s
            readMembers fields ms (k :: seen) s

def readItems : List (Field σ) → List Datum → σ → Except Fault (Nat × Bool × σ)
  | f :: fs, d :: ds, s => do
      let s ← f.read d s
      readItems fs ds s
  | fs, ds, s => .ok (fs.length, !ds.isEmpty, s)

def read (layout : Layout σ) : Reader σ
  | .record members closed => do
      let (seen, s) ← readMembers layout.fields members [] layout.start
      if !closed then .error .malformed
      else if layout.required && seen.length < layout.fields.length then .error .mistyped
      else return s
  | .list items closing => do
      let (lacking, surplus, s) ← readItems layout.fields items layout.start
      if closing = .missing || (surplus && closing = .exact) then .error .malformed
      else if layout.required && 0 < lacking then .error .mistyped
      else return s
  | d => .error d.mismatch

end Layout

def Document.read {α : Type} (document : Document) (read : Reader α) : Except Fault α := do
  let x ← read document.root
  if document.ends then return x else .error .malformed

end Gateway
