import Gateway.Binary64.Magnitude

namespace Gateway

open Binary64

inductive Double where
  | number (negative : Bool) (magnitude : Magnitude)
  | nan (negative : Bool)
  deriving DecidableEq

namespace Double

def ofInt (i : Int) : Double :=
  .number (i < 0) (Magnitude.ofNat i.natAbs)

def isFinite : Double → Bool
  | .number _ (.finite _) => true
  | _ => false

def isPositive : Double → Bool
  | .number false m => !m.isZero
  | _ => false

def scale (d : Double) (n : Nat) : Double :=
  match d with
  | .number s m => .number s (m.mul (Magnitude.ofNat n))
  | .nan s => .nan s

def bits : Double → UInt64
  | .number s m => UInt64.ofNat (s.toNat <<< 63 + m.bits)
  | .nan s => UInt64.ofNat (s.toNat <<< 63 + 0x7FF8 <<< 48)

end Double

def saturate (negative : Bool) (n : Option Nat) : Int64 :=
  match negative, n with
  | false, some n => Int64.ofInt (min n Int64.maxValue.toInt)
  | true, some n => Int64.ofInt (max (-n) Int64.minValue.toInt)
  | false, none => Int64.maxValue
  | true, none => Int64.minValue

def Double.toInt64 : Double → Int64
  | .number s m => saturate s m.floor?
  | .nan _ => 0

inductive Number where
  | integer (value : Int)
  | double (value : Double)
  deriving DecidableEq

def Number.toDouble : Number → Double
  | .integer i => Double.ofInt i
  | .double d => d

end Gateway
