import Gateway.Binary64.Double
import Gateway.Text.Basic

namespace Gateway.Duration

open Binary64 Text

inductive TimeUnit where
  | nanosecond
  | microsecond
  | millisecond
  | second
  | minute
  | hour
  deriving DecidableEq

namespace TimeUnit

def nanoseconds : TimeUnit → Nat
  | .nanosecond => 1
  | .microsecond => 1000
  | .millisecond => 1000000
  | .second => 1000000000
  | .minute => 60000000000
  | .hour => 3600000000000

def ofName? : List Char → Option TimeUnit
  | ['n', 's'] => some .nanosecond
  | ['u', 's'] | ['µ', 's'] | ['μ', 's'] => some .microsecond
  | ['m', 's'] => some .millisecond
  | ['s'] => some .second
  | ['m'] => some .minute
  | ['h'] => some .hour
  | _ => none

end TimeUnit

def isNumeral (c : Char) : Bool :=
  c.isDigit || c == '.'

def digitsValue (cs : List Char) : Nat :=
  cs.foldl (fun n c => 10 * n + (c.toNat - '0'.toNat)) 0

def numeral? (cs : List Char) : Option Magnitude :=
  let whole := cs.takeWhile Char.isDigit
  match cs.dropWhile Char.isDigit with
  | [] => if whole = [] then none else some (.ofScientific (digitsValue whole) 0)
  | point :: fraction =>
      if point = '.' && fraction.all Char.isDigit && !(whole ++ fraction).isEmpty then
        some (.ofScientific (digitsValue (whole ++ fraction)) (-fraction.length))
      else none

structure Part where
  amount : Magnitude
  unit : TimeUnit
  deriving DecidableEq

def Part.nanoseconds (p : Part) : Magnitude :=
  p.amount.mul (.ofNat p.unit.nanoseconds)

def parts? (cs : List Char) : Option (List Part) :=
  if cs = [] then some []
  else if _h : cs.takeWhile isNumeral = [] then none
  else do
    let rest := cs.dropWhile isNumeral
    let amount ← numeral? (cs.takeWhile isNumeral)
    let unit ← TimeUnit.ofName? (rest.takeWhile fun c => !isNumeral c)
    let parts ← parts? (rest.dropWhile fun c => !isNumeral c)
    return ⟨amount, unit⟩ :: parts
termination_by cs.length
decreasing_by
  have h₁ := List.takeWhile_append_dropWhile (p := isNumeral) (l := cs)
  have h₂ := congrArg List.length h₁
  have h₃ := (List.dropWhile_sublist (l := cs.dropWhile isNumeral) fun c => !isNumeral c).length_le
  have h₄ := List.length_pos_iff.mpr _h
  simp only [List.length_append] at h₂
  omega

def total (parts : List Part) : Magnitude :=
  parts.foldl (fun sum p => sum.add p.nanoseconds) .zero

def unsigned? (cs : List Char) : Option Int64 :=
  if cs = ['0'] then some 0
  else if cs = [] then none
  else (parts? cs).map fun parts => saturate false (total parts).nearest? / 1000000

def splitSign : List Char → Bool × List Char
  | c :: cs => if c = '-' then (true, cs) else if c = '+' then (false, cs) else (false, c :: cs)
  | [] => (false, [])

def milliseconds? (s : String) : Option Int64 :=
  let (negative, cs) := splitSign (trimmed s.toList)
  (unsigned? cs).map fun ms => if negative then -ms else ms

end Gateway.Duration
