import Gateway.Binary64.Double

namespace Gateway.Json

open Binary64

structure Literal where
  negative : Bool
  whole : List Nat
  fraction : List Nat
  exponent : Option (Bool × List Nat)
  deriving DecidableEq

namespace Literal

def largestWord : Nat :=
  UInt64.size - 1

def take (acc : Nat) : List Nat → Nat × List Nat
  | [] => (acc, [])
  | d :: ds => if acc * 10 + d ≤ largestWord then take (acc * 10 + d) ds else (acc, d :: ds)

def powerOfTen (n : Nat) : Magnitude :=
  Magnitude.ofNat (Nat.pow 10 n)

-- Division by a power of ten, in steps that are themselves doubles.
def moveDown (m : Magnitude) (n : Nat) : Magnitude :=
  if n ≤ 308 then m.div (powerOfTen n)
  else if m.isZero then m
  else moveDown (m.div (powerOfTen 308)) (n - 308)
termination_by n
decreasing_by omega

def moveUp (m : Magnitude) (n : Nat) : Option Magnitude :=
  if n ≤ 308 then
    match m.mul (powerOfTen n) with
    | .infinite => none
    | product => some product
  else if m.isZero then some m
  else none

def assemble (significand : Nat) (exponent : Int) : Option Magnitude :=
  if 0 ≤ exponent then moveUp (Magnitude.ofNat significand) exponent.toNat
  else some (moveDown (Magnitude.ofNat significand) (-exponent).toNat)

def largestExponent : Nat :=
  Int32.maxValue.toInt.toNat

def clamp (e : Int) : Int :=
  max Int32.minValue.toInt (min e Int32.maxValue.toInt)

def exponentValue (acc : Nat) : List Nat → Option Nat
  | [] => some acc
  | d :: ds => if acc * 10 + d ≤ largestExponent then exponentValue (acc * 10 + d) ds else none

def magnitude? (l : Literal) : Option Magnitude :=
  let (head, ignored) := take 0 l.whole
  let (significand, unread) := take head l.fraction
  let shift : Int := ignored.length - (l.fraction.length - unread.length : Nat)
  match l.exponent with
  | none => assemble significand shift
  | some (down, digits) =>
      match exponentValue 0 digits with
      | some e => assemble significand (clamp (if down then shift - e else shift + e))
      | none => if significand ≠ 0 && !down then none else some .zero

def isWhole (l : Literal) : Bool :=
  l.fraction.isEmpty && l.exponent.isNone

def value? (l : Literal) : Option Number :=
  match take 0 l.whole with
  | (n, []) =>
      if l.isWhole && !l.negative then some (.integer n)
      else if l.isWhole && 0 < n && Int64.minValue.toInt ≤ -n then some (.integer (-n))
      else l.magnitude?.map fun m => .double (.number l.negative m)
  | _ => l.magnitude?.map fun m => .double (.number l.negative m)

end Literal

end Gateway.Json
