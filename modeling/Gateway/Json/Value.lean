import Gateway.KeyMap
import Gateway.Binary64.Double

namespace Gateway.Json

inductive Value where
  | null
  | bool (b : Bool)
  | number (n : Number)
  | string (s : String)
  | array (items : List Value)
  | object (members : List (String × Value))

abbrev Object := Entries Value

namespace Value

instance : Inhabited Value := ⟨.null⟩

def bool? : Value → Option Bool
  | .bool b => some b
  | _ => none

def double? : Value → Option Double
  | .number n => some n.toDouble
  | _ => none

def string? : Value → Option String
  | .string s => some s
  | _ => none

def array? : Value → Option (List Value)
  | .array items => some items
  | _ => none

def object? : Value → Option Object
  | .object members => some members
  | _ => none

def ofInt64 (i : Int64) : Value :=
  .number (.integer i.toInt)

end Value

end Gateway.Json
