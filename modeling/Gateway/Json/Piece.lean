import Gateway.Ascii
import Gateway.Text.Basic

namespace Gateway.Json

open Ascii

inductive Piece where
  | byte (b : UInt8)
  | unit (u : Nat)
  deriving DecidableEq

namespace Piece

def encodeCodePoint (n : Nat) : Bytes :=
  String.utf8EncodeChar (Char.ofNat n)

def decode : List Piece → Option Bytes
  | [] => some []
  | .byte b :: ps => (decode ps).map (b :: ·)
  | .unit u :: ps =>
      if 0xDC00 ≤ u && u ≤ 0xDFFF then none
      else if 0xD800 ≤ u && u ≤ 0xDBFF then
        match ps with
        | .unit v :: ps =>
            if 0xDC00 ≤ v && v ≤ 0xDFFF then
              (decode ps).map
                (encodeCodePoint (0x10000 + (u - 0xD800) * 0x400 + (v - 0xDC00)) ++ ·)
            else none
        | _ => none
      else (decode ps).map (encodeCodePoint u ++ ·)

def text? (ps : List Piece) : Option String :=
  (decode ps).bind Text.ofBytes?

def shortEscape? (b : UInt8) : Option UInt8 :=
  if b = quotationMark || b = backslash || b = slash then some b
  else if b = Ascii.byte 'b' then some 0x08
  else if b = Ascii.byte 'f' then some 0x0C
  else if b = Ascii.byte 'n' then some lineFeed
  else if b = Ascii.byte 'r' then some carriageReturn
  else if b = Ascii.byte 't' then some tab
  else none

def hexUnit? (a b c d : UInt8) : Option Nat := do
  let a ← hexValue? a
  let b ← hexValue? b
  let c ← hexValue? c
  let d ← hexValue? d
  return ((a * 16 + b) * 16 + c) * 16 + d

def scan : Bytes → Option (List Piece × Bytes)
  | [] => none
  | b :: bs =>
      if b = quotationMark then some ([], bs)
      else if b = backslash then
        match bs with
        | [] => none
        | e :: bs =>
            if e = Ascii.byte 'u' then
              match bs with
              | h₁ :: h₂ :: h₃ :: h₄ :: bs => do
                  let u ← hexUnit? h₁ h₂ h₃ h₄
                  let (ps, rest) ← scan bs
                  return (.unit u :: ps, rest)
              | _ => none
            else do
              let c ← shortEscape? e
              let (ps, rest) ← scan bs
              return (.byte c :: ps, rest)
      else if b < space then none
      else do
        let (ps, rest) ← scan bs
        return (.byte b :: ps, rest)

end Piece

end Gateway.Json
