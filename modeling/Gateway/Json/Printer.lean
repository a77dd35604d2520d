import Gateway.Ascii
import Gateway.Binary64.Shortest
import Gateway.Json.Value
import Gateway.Text.Basic

namespace Gateway.Json

open Ascii Binary64

def hexDigit (n : Nat) : UInt8 :=
  if n < 10 then zero + UInt8.ofNat n else 0x57 + UInt8.ofNat n

def escaped (b : UInt8) : Bytes :=
  if b = quotationMark || b = backslash then [backslash, b]
  else if b = 0x08 then [backslash, byte 'b']
  else if b = 0x0C then [backslash, byte 'f']
  else if b = lineFeed then [backslash, byte 'n']
  else if b = carriageReturn then [backslash, byte 'r']
  else if b = tab then [backslash, byte 't']
  else if b < space then
    [backslash, byte 'u', zero, zero, hexDigit (b.toNat / 16), hexDigit (b.toNat % 16)]
  else [b]

def quoted (s : String) : Bytes :=
  quotationMark :: (Text.bytes s).flatMap escaped ++ [quotationMark]

def integer (i : Int) : Bytes :=
  if i < 0 then minus :: decimal i.natAbs else decimal i.natAbs

def signed (i : Int) : Bytes :=
  (if i < 0 then minus else plus) :: decimal i.natAbs

def magnitude (units : Nat) : Bytes :=
  if units = 0 then [zero, point, zero]
  else
    let d := Decimal.shortest units
    let digits := decimal d.digits
    let places := digits.length + d.exponent
    if 0 ≤ d.exponent && places ≤ 16 then
      digits ++ List.replicate d.exponent.toNat zero ++ [point, zero]
    else if 0 < places && places ≤ 16 then
      digits.take places.toNat ++ [point] ++ digits.drop places.toNat
    else if -5 < places && places ≤ 0 then
      [zero, point] ++ List.replicate (-places).toNat zero ++ digits
    else
      let fraction := match digits with
        | d :: e :: ds => d :: point :: e :: ds
        | ds => ds
      fraction ++ byte 'e' :: signed (places - 1)

def number : Number → Bytes
  | .integer i => integer i
  | .double (.number s (.finite units)) => (if s then [minus] else []) ++ magnitude units
  | .double _ => Text.bytes "null"

mutual

def compact : Value → Bytes
  | .null => Text.bytes "null"
  | .bool b => Text.bytes (if b then "true" else "false")
  | .number n => number n
  | .string s => quoted s
  | .array items => leftBracket :: compactItems items ++ [rightBracket]
  | .object members => leftBrace :: compactMembers members ++ [rightBrace]

def compactItems : List Value → Bytes
  | [] => []
  | [v] => compact v
  | v :: w :: vs => compact v ++ comma :: compactItems (w :: vs)

def compactMembers : List (String × Value) → Bytes
  | [] => []
  | [(k, v)] => quoted k ++ colon :: compact v
  | (k, v) :: m :: ms => quoted k ++ colon :: compact v ++ comma :: compactMembers (m :: ms)

end

def newLine (indent : Nat) : Bytes :=
  lineFeed :: List.replicate (2 * indent) space

mutual

def pretty (indent : Nat) : Value → Bytes
  | .array (v :: vs) =>
      leftBracket :: newLine (indent + 1) ++ prettyItems (indent + 1) (v :: vs) ++
        newLine indent ++ [rightBracket]
  | .object (m :: ms) =>
      leftBrace :: newLine (indent + 1) ++ prettyMembers (indent + 1) (m :: ms) ++
        newLine indent ++ [rightBrace]
  | v => compact v

def prettyItems (indent : Nat) : List Value → Bytes
  | [] => []
  | [v] => pretty indent v
  | v :: w :: vs => pretty indent v ++ comma :: newLine indent ++ prettyItems indent (w :: vs)

def prettyMembers (indent : Nat) : List (String × Value) → Bytes
  | [] => []
  | [(k, v)] => quoted k ++ [colon, space] ++ pretty indent v
  | (k, v) :: m :: ms =>
      quoted k ++ [colon, space] ++ pretty indent v ++ comma :: newLine indent ++
        prettyMembers indent (m :: ms)

end

end Gateway.Json
