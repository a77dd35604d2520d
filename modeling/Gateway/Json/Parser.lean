import Gateway.Datum.Basic
import Gateway.Json.Number
import Gateway.Json.Piece

namespace Gateway.Json

open Ascii

def isBlank (b : UInt8) : Bool :=
  b == space || b == lineFeed || b == carriageReturn || b == tab

def skipBlanks (bs : Bytes) : Bytes :=
  bs.dropWhile isBlank

def scanDigits (bs : Bytes) : List Nat × Bytes :=
  ((bs.takeWhile isDigit).map digitValue, bs.dropWhile isDigit)

namespace Literal

def scanFraction : Bytes → Option (List Nat × Bytes)
  | b :: bs =>
      if b = point then
        match scanDigits bs with
        | ([], _) => none
        | found => some found
      else some ([], b :: bs)
  | [] => some ([], [])

def splitSign : Bytes → Bool × Bytes
  | s :: rest =>
      if s = minus then (true, rest) else if s = plus then (false, rest) else (false, s :: rest)
  | [] => (false, [])

def scanExponent : Bytes → Option (Option (Bool × List Nat) × Bytes)
  | b :: bs =>
      if b = byte 'e' || b = byte 'E' then
        match scanDigits (splitSign bs).2 with
        | ([], _) => none
        | (ds, rest) => some (some ((splitSign bs).1, ds), rest)
      else some (none, b :: bs)
  | [] => some (none, [])

def scan (negative : Bool) (bs : Bytes) : Option (Literal × Bytes) := do
  let (whole, bs) := scanDigits bs
  match whole with
  | [] | 0 :: _ :: _ => none
  | _ =>
      let (fraction, bs) ← scanFraction bs
      let (exponent, bs) ← scanExponent bs
      return (⟨negative, whole, fraction, exponent⟩, bs)

end Literal

def depthLimit : Nat :=
  127

def marked (level : Nat) (d : Datum) : Datum :=
  if level < depthLimit then d else .deep d

def scanKeyword (bs : Bytes) : Option (Datum × Bytes) :=
  match bs with
  | 0x6E :: 0x75 :: 0x6C :: 0x6C :: rest => some (.null, rest)
  | 0x74 :: 0x72 :: 0x75 :: 0x65 :: rest => some (.bool true, rest)
  | 0x66 :: 0x61 :: 0x6C :: 0x73 :: 0x65 :: rest => some (.bool false, rest)
  | _ => none

def scanNumber (bs : Bytes) : Option (Datum × Bytes) :=
  let found := match bs with
    | b :: rest => if b = minus then Literal.scan true rest else Literal.scan false bs
    | [] => none
  found.map fun (l, rest) => (.number l.value?, rest)

def scanScalar (bs : Bytes) : Option (Datum × Bytes) :=
  match bs with
  | b :: rest =>
      if b = quotationMark then
        (Piece.scan rest).map fun (ps, rest) => (.text (Piece.text? ps), rest)
      else if b = minus || isDigit b then scanNumber bs
      else scanKeyword bs
  | [] => none

def scanName (bs : Bytes) : Option (Option String × Option Bytes) :=
  match skipBlanks bs with
  | [] => none
  | b :: rest =>
      if b = quotationMark then
        (Piece.scan rest).map fun (ps, rest) =>
          (Piece.text? ps, match skipBlanks rest with
            | c :: rest => if c = colon then some rest else none
            | [] => none)
      else none

mutual

def scanValue : Nat → Nat → Bytes → Datum × Option Bytes
  | 0, _, _ => (.broken, none)
  | fuel + 1, level, bs =>
      match skipBlanks bs with
      | [] => (.broken, none)
      | b :: rest =>
          if b = leftBracket then
            let (items, rest) := scanItems fuel (level + 1) rest
            (marked level (.list items (if rest.isSome then .exact else .missing)), rest)
          else if b = leftBrace then
            let (members, rest) := scanMembers fuel (level + 1) rest
            (marked level (.record members rest.isSome), rest)
          else
            match scanScalar (b :: rest) with
            | some (d, rest) => (d, some rest)
            | none => (.broken, none)

def scanItems : Nat → Nat → Bytes → List Datum × Option Bytes
  | 0, _, _ => ([], none)
  | fuel + 1, level, bs =>
      match skipBlanks bs with
      | [] => ([], none)
      | b :: rest =>
          if b = rightBracket then ([], some rest) else scanMoreItems fuel level (b :: rest)

def scanMoreItems : Nat → Nat → Bytes → List Datum × Option Bytes
  | 0, _, _ => ([], none)
  | fuel + 1, level, bs =>
      match scanValue fuel level bs with
      | (d, none) => ([d], none)
      | (d, some rest) =>
          match skipBlanks rest with
          | [] => ([d], none)
          | b :: rest =>
              if b = comma then
                let (ds, rest) := scanMoreItems fuel level rest
                (d :: ds, rest)
              else if b = rightBracket then ([d], some rest)
              else ([d], none)

def scanMembers : Nat → Nat → Bytes → List (Option String × Datum) × Option Bytes
  | 0, _, _ => ([], none)
  | fuel + 1, level, bs =>
      match skipBlanks bs with
      | [] => ([], none)
      | b :: rest =>
          if b = rightBrace then ([], some rest) else scanMoreMembers fuel level (b :: rest)

def scanMoreMembers : Nat → Nat → Bytes → List (Option String × Datum) × Option Bytes
  | 0, _, _ => ([], none)
  | fuel + 1, level, bs =>
      match scanName bs with
      | none => ([], none)
      | some (name, none) => ([(name, .broken)], none)
      | some (name, some rest) =>
          match scanValue fuel level rest with
          | (d, none) => ([(name, d)], none)
          | (d, some rest) =>
              match skipBlanks rest with
              | [] => ([(name, d)], none)
              | b :: rest =>
                  if b = comma then
                    let (ms, rest) := scanMoreMembers fuel level rest
                    ((name, d) :: ms, rest)
                  else if b = rightBrace then ([(name, d)], some rest)
                  else ([(name, d)], none)

end

def parse (bs : Bytes) : Document :=
  match scanValue (3 * bs.length + 3) 0 bs with
  | (d, some rest) => ⟨d, (skipBlanks rest).isEmpty⟩
  | (d, none) => ⟨d, false⟩

end Gateway.Json
