import Gateway.Binary64.Double

namespace Gateway.Binary64

structure Decimal where
  digits : Nat
  exponent : Int
  deriving DecidableEq

namespace Decimal

def stripped (digits : Nat) (exponent : Int) : Decimal :=
  if h : digits ≠ 0 ∧ digits % 10 = 0 then stripped (digits / 10) (exponent + 1)
  else ⟨digits, exponent⟩
termination_by digits
decreasing_by omega

def leading (units : Nat) : Int :=
  (Nat.toDigits 10 (units * Nat.pow 10 324 / Magnitude.one)).length - 1 - 324

def candidate? (units : Nat) (exponent : Int) : Option Nat :=
  let step := 1 <<< Magnitude.spareBits units
  let even := units / step % 2 == 0
  let below := if units = step <<< 52 ∧ 1 < step then step else 2 * step
  let scale := Nat.pow 10 (-exponent).toNat
  let grid := 4 * Magnitude.one * Nat.pow 10 exponent.toNat
  let value := 4 * units * scale
  let low := (4 * units - below) * scale
  let high := (4 * units + 2 * step) * scale
  let inside (point : Nat) : Bool :=
    if even then low ≤ point && point ≤ high else low < point && point < high
  let lower := value / grid
  let upper := lower + 1
  let before := value - lower * grid
  let after := upper * grid - value
  let preferred := before < after || (before == after && lower % 2 == 0)
  let order := if preferred then [lower, upper] else [upper, lower]
  order.find? fun c => inside (c * grid)

def shortest (units : Nat) : Decimal :=
  let first := leading units
  let grids := (List.range 17).map fun n : Nat => first - n
  match grids.findSome? fun e => (candidate? units e).map (·, e) with
  | some (digits, exponent) => stripped digits exponent
  | none => ⟨0, 0⟩

end Decimal

end Gateway.Binary64
