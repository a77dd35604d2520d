import Gateway.Bits
import Gateway.Duration
import Gateway.Json.Value

namespace Gateway.Extension

open Json

def isTrue (o : Object) (key : String) : Bool :=
  (o.get? key).bind Value.bool? == some true

def number? (o : Object) (key : String) : Option Double :=
  (o.get? key).bind Value.double?

def text? (o : Object) (key : String) : Option String :=
  (o.get? key).bind Value.string?

def list? (o : Object) (key : String) : Option (List Value) :=
  (o.get? key).bind Value.array?

def section? (o : Object) (key : String) : Option Object :=
  (o.get? key).bind Value.object?

def positive? (o : Object) (key : String) : Option Double :=
  (number? o key).filter Double.isPositive

def isPositive (o : Object) (key : String) : Bool :=
  (positive? o key).isSome

def whole (d : Option Double) : Int64 :=
  (d.map Double.toInt64).getD 0

def length (o : Object) (key : String) : Int64 :=
  Int64.ofNat ((list? o key).getD []).length

def hasItems (o : Object) (key : String) : Bool :=
  !((list? o key).getD []).isEmpty

def hasText (o : Object) (key : String) : Bool :=
  (text? o key).any (· ≠ "")

def milliseconds (o : Object) (key : String) : Int64 :=
  ((text? o key).bind Duration.milliseconds?).getD 0

def indicator (b : Bool) : Int64 :=
  if b then 1 else 0

def trueBits (o : Object) (table : List (String × Nat)) : List (Bool × Nat) :=
  table.map fun (key, bit) => (isTrue o key, bit)

def presentBits (o : Object) (table : List (String × Nat)) : List (Bool × Nat) :=
  table.map fun (key, bit) => (o.contains key, bit)

end Gateway.Extension
