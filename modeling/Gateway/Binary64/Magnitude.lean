namespace Gateway.Binary64

inductive Magnitude where
  | finite (units : Nat)
  | infinite
  deriving DecidableEq

namespace Magnitude

def fractionBits : Nat :=
  1074

def totalBits : Nat :=
  1024 + fractionBits

def one : Nat :=
  1 <<< fractionBits

def nearestEven (num den : Nat) : Nat :=
  let quotient := num / den
  let remainder := num % den
  if 2 * remainder < den then quotient
  else if den < 2 * remainder then quotient + 1
  else if quotient % 2 = 0 then quotient
  else quotient + 1

def spareBits (units : Nat) : Nat :=
  units.log2 + 1 - 53

def round (num den : Nat) : Magnitude :=
  let step := 1 <<< spareBits (num / den)
  let units := nearestEven num (den * step) * step
  if units < 1 <<< totalBits then .finite units else .infinite

def zero : Magnitude :=
  .finite 0

def ofNat (n : Nat) : Magnitude :=
  round (n * one) 1

def ofRatio (num den : Nat) : Magnitude :=
  round (num * one) den

def add : Magnitude → Magnitude → Magnitude
  | .finite a, .finite b => round (a + b) 1
  | _, _ => .infinite

def mul : Magnitude → Magnitude → Magnitude
  | .finite a, .finite b => round (a * b) one
  | _, _ => .infinite

def div : Magnitude → Magnitude → Magnitude
  | .finite a, .finite b => round (a * one) b
  | _, _ => .infinite

def ofScientific (digits : Nat) (exponent : Int) : Magnitude :=
  let leading := (Nat.toDigits 10 digits).length + exponent
  if digits = 0 then zero
  else if 400 < leading then .infinite
  else if leading < -400 then zero
  else match exponent with
    | .ofNat e => ofNat (digits * Nat.pow 10 e)
    | .negSucc e => ofRatio digits (Nat.pow 10 (e + 1))

def floor? : Magnitude → Option Nat
  | .finite units => some (units / one)
  | .infinite => none

def nearest? : Magnitude → Option Nat
  | .finite units => some ((2 * units + one) / (2 * one))
  | .infinite => none

def isZero : Magnitude → Bool
  | .finite units => units == 0
  | .infinite => false

def bits : Magnitude → Nat
  | .finite units => spareBits units <<< 52 + units >>> spareBits units
  | .infinite => 0x7FF <<< 52

end Magnitude

end Gateway.Binary64
