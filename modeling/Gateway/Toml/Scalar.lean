import Gateway.Datum.Basic
import Gateway.Toml.Blank

namespace Gateway.Toml

open Binary64

def ungrouped? (isDigit : Char → Bool) (cs : List Char) : Option (List Char) :=
  let groups := cs.splitOn '_'
  if groups.all fun g => !g.isEmpty && g.all isDigit then some groups.flatten else none

def digitValue (c : Char) : Nat :=
  if c.isDigit then c.toNat - '0'.toNat else c.toLower.toNat - 'a'.toNat + 10

def numberValue (base : Nat) (cs : List Char) : Nat :=
  cs.foldl (fun n c => base * n + digitValue c) 0

def splitSign : List Char → Bool × List Char
  | '-' :: cs => (true, cs)
  | '+' :: cs => (false, cs)
  | cs => (false, cs)

def wholeDigits? (cs : List Char) : Option (List Char) := do
  let digits ← ungrouped? Char.isDigit cs
  if digits.head? = some '0' && 1 < cs.length then none else return digits

def word? (negative : Bool) (n : Nat) : Option Datum :=
  let i : Int := if negative then -n else n
  if Int64.minValue.toInt ≤ i ∧ i ≤ Int64.maxValue.toInt then
    some (.number (some (.integer i)))
  else none

def isDigitBelow (base : Nat) (c : Char) : Bool :=
  (c.isDigit || ('a' ≤ c.toLower && c.toLower ≤ 'f')) && digitValue c < base

def integer? : List Char → Option Datum
  | '0' :: 'x' :: cs => (ungrouped? (isDigitBelow 16) cs).bind (word? false ∘ numberValue 16)
  | '0' :: 'o' :: cs => (ungrouped? (isDigitBelow 8) cs).bind (word? false ∘ numberValue 8)
  | '0' :: 'b' :: cs => (ungrouped? (isDigitBelow 2) cs).bind (word? false ∘ numberValue 2)
  | cs =>
      let (negative, cs) := splitSign cs
      (wholeDigits? cs).bind (word? negative ∘ numberValue 10)

def splitAt? (p : Char → Bool) (cs : List Char) : List Char × Option (List Char) :=
  match cs.dropWhile fun c => !p c with
  | [] => (cs, none)
  | _ :: rest => (cs.takeWhile fun c => !p c, some rest)

def exponent? (cs : List Char) : Option Int := do
  let (negative, cs) := splitSign cs
  let digits ← ungrouped? Char.isDigit cs
  let n : Int := numberValue 10 digits
  return if negative then -n else n

def float? (cs : List Char) : Option Datum := do
  let (negative, cs) := splitSign cs
  let (mantissa, scale) := splitAt? (fun c => c == 'e' || c == 'E') cs
  let (whole, fraction) := splitAt? (· == '.') mantissa
  if fraction.isNone && scale.isNone then none
  else
    let whole ← wholeDigits? whole
    let fraction ← match fraction with
      | some cs => ungrouped? Char.isDigit cs
      | none => some []
    let exponent ← match scale with
      | some cs => exponent? cs
      | none => some 0
    let digits := numberValue 10 (whole ++ fraction)
    let m := Magnitude.ofScientific digits (exponent - fraction.length)
    if m = .infinite && !negative then none
    else return .number (some (.double (.number negative m)))

def special? (cs : List Char) : Option Datum :=
  let (negative, cs) := splitSign cs
  if cs = ['i', 'n', 'f'] then some (.number (some (.double (.number negative .infinite))))
  else if cs = ['n', 'a', 'n'] then some (.number (some (.double (.nan negative))))
  else none

def truth? : List Char → Option Datum
  | ['t', 'r', 'u', 'e'] => some (.bool true)
  | ['f', 'a', 'l', 's', 'e'] => some (.bool false)
  | _ => none

def fixedNumber? (width : Nat) (cs : List Char) : Option (Nat × List Char) :=
  let digits := cs.take width
  if digits.length = width && digits.all Char.isDigit then
    some (numberValue 10 digits, cs.drop width)
  else none

def skip? (c : Char) : List Char → Option (List Char)
  | d :: cs => if d = c then some cs else none
  | [] => none

def daysIn (year month : Nat) : Nat :=
  if month = 2 then
    if year % 4 = 0 && (year % 100 ≠ 0 || year % 400 = 0) then 29 else 28
  else if month = 4 || month = 6 || month = 9 || month = 11 then 30
  else 31

def date? (cs : List Char) : Option (List Char × List Char) := do
  let (year, rest) ← fixedNumber? 4 cs
  let rest ← skip? '-' rest
  let (month, rest) ← fixedNumber? 2 rest
  let rest ← skip? '-' rest
  let (day, rest) ← fixedNumber? 2 rest
  if 1 ≤ month && month ≤ 12 && 1 ≤ day && day ≤ daysIn year month then
    return (cs.take 10, rest)
  else none

def secondPlaces? : List Char → Option (List Char × List Char)
  | '.' :: cs =>
      let digits := cs.takeWhile Char.isDigit
      if digits.isEmpty then none
      else
        let kept := ((digits.take 9).reverse.dropWhile (· == '0')).reverse
        some (if kept.isEmpty then [] else '.' :: kept, cs.dropWhile Char.isDigit)
  | cs => some ([], cs)

def time? (cs : List Char) : Option (List Char × List Char) := do
  let (hour, rest) ← fixedNumber? 2 cs
  let rest ← skip? ':' rest
  let (minute, rest) ← fixedNumber? 2 rest
  let rest ← skip? ':' rest
  let (second, rest) ← fixedNumber? 2 rest
  let (places, rest) ← secondPlaces? rest
  if hour ≤ 23 && minute ≤ 59 && second ≤ 60 then return (cs.take 8 ++ places, rest) else none

def offset? : List Char → Option (List Char × List Char)
  | [] => some ([], [])
  | c :: cs =>
      if c = 'Z' || c = 'z' then some (['Z'], cs)
      else if c = '+' || c = '-' then do
        let (hour, rest) ← fixedNumber? 2 cs
        let rest ← skip? ':' rest
        let (minute, rest) ← fixedNumber? 2 rest
        let sign := if hour = 0 && minute = 0 then '+' else c
        if hour ≤ 23 && minute ≤ 59 then return (sign :: cs.take 5, rest) else none
      else none

def dateKey : String :=
  "$__toml_private_datetime"

def dateRecord (text : List Char) : Datum :=
  .record [(some dateKey, .text (some (String.ofList text)))] true

def timeAndOffset? (cs : List Char) : Option (List Char) := do
  let (time, rest) ← time? cs
  let (offset, rest) ← offset? rest
  if rest.isEmpty then return 'T' :: time ++ offset else none

def dateTime? (cs : List Char) : Option Datum :=
  match date? cs with
  | some (date, []) => some (dateRecord date)
  | some (date, c :: rest) =>
      if c = 'T' || c = 't' || c = ' ' then
        (timeAndOffset? rest).map fun time => dateRecord (date ++ time)
      else none
  | none =>
      match time? cs with
      | some (time, []) => some (dateRecord time)
      | _ => none

def isWordChar (c : Char) : Bool :=
  c.isAlphanum || c == '+' || c == '-' || c == '_' || c == '.' || c == ':'

def scalar? (word : List Char) : Option Datum :=
  truth? word <|> special? word <|> dateTime? word <|> integer? word <|> float? word

def scanScalar (cs : List Char) : Option (Datum × List Char) :=
  let word := cs.takeWhile isWordChar
  let rest := cs.dropWhile isWordChar
  let time := match rest with
    | ' ' :: more => more.takeWhile isWordChar
    | _ => []
  if ((date? word).any (·.2.isEmpty)) && !time.isEmpty then
    (dateTime? (word ++ ' ' :: time)).map (·, rest.drop (time.length + 1))
  else (scalar? word).map (·, rest)

end Gateway.Toml
