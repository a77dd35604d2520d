import Gateway.Binary64.Double

namespace Gateway

inductive Closing where
  | missing
  | exact
  | lenient
  deriving DecidableEq

inductive Datum where
  | broken
  | deep (d : Datum)
  | null
  | bool (b : Bool)
  | number (n : Option Number)
  | text (s : Option String)
  | list (items : List Datum) (closing : Closing)
  | record (members : List (Option String × Datum)) (closed : Bool)

inductive Fault where
  | malformed
  | mistyped
  deriving DecidableEq

namespace Datum

instance : Inhabited Datum := ⟨.null⟩

mutual

def isComplete : Datum → Bool
  | .broken => false
  | .deep d => d.isComplete
  | .null | .bool _ | .number _ | .text _ => true
  | .list items closing => closing != .missing && allComplete items
  | .record members closed => closed && membersComplete members

def allComplete : List Datum → Bool
  | [] => true
  | d :: ds => d.isComplete && allComplete ds

def membersComplete : List (Option String × Datum) → Bool
  | [] => true
  | (_, d) :: ms => d.isComplete && membersComplete ms

end

end Datum

structure Document where
  root : Datum
  ends : Bool

end Gateway
