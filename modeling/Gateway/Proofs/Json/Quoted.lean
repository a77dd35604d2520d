import Gateway.Json.Parser
import Gateway.Json.Printer

namespace Gateway.Json

open Ascii

namespace Piece

variable {bs rest : Bytes} {ps : List Piece}

theorem scan_quotationMark (bs : Bytes) : scan (quotationMark :: bs) = some ([], bs) := by
  rw [scan.eq_def]
  rfl

theorem scan_byte {b : UInt8} (hq : b ≠ quotationMark) (hs : b ≠ backslash) (hc : ¬ b < space)
    (h : scan bs = some (ps, rest)) : scan (b :: bs) = some (.byte b :: ps, rest) := by
  rw [scan.eq_def]
  simp [hq, hs, hc, h]

theorem scan_shortEscape {e b : UInt8} (he : shortEscape? e = some b)
    (h : scan bs = some (ps, rest)) :
    scan (backslash :: e :: bs) = some (.byte b :: ps, rest) := by
  have hu : e ≠ Ascii.byte 'u' := by
    rintro rfl
    have hnone : shortEscape? (Ascii.byte 'u') = none := by decide
    rw [hnone] at he
    cases he
  have hq : backslash ≠ quotationMark := by decide
  rw [scan.eq_def]
  simp [hq, hu, he, h]

theorem scan_unit {a b c d : UInt8} {u : Nat} (hu : hexUnit? a b c d = some u)
    (h : scan bs = some (ps, rest)) :
    scan (backslash :: Ascii.byte 'u' :: a :: b :: c :: d :: bs) = some (.unit u :: ps, rest) := by
  have hq : backslash ≠ quotationMark := by decide
  rw [scan.eq_def]
  simp [hq, hu, h]

theorem decode_unit {u : Nat} (h : u < 0xD800) (ps : List Piece) :
    decode (.unit u :: ps) = (decode ps).map (encodeCodePoint u ++ ·) := by
  rw [decode.eq_def]
  simp [Nat.not_le.mpr h]
  omega

theorem escaped_cases (b : UInt8) :
    (∃ e, shortEscape? e = some b ∧ escaped b = [backslash, e]) ∨
    (b.toNat < 32 ∧ escaped b = [backslash, Ascii.byte 'u', zero, zero,
      hexDigit (b.toNat / 16), hexDigit (b.toNat % 16)]) ∨
    (b ≠ quotationMark ∧ b ≠ backslash ∧ ¬ b < space ∧ escaped b = [b]) := by
  rw [escaped]
  split
  · next h =>
      refine .inl ⟨b, ?_, rfl⟩
      rcases Bool.or_eq_true_iff.mp h with h | h <;> rw [of_decide_eq_true h] <;> rfl
  · next hquote =>
      split
      · next h => exact .inl ⟨Ascii.byte 'b', h ▸ rfl, rfl⟩
      · split
        · next h => exact .inl ⟨Ascii.byte 'f', h ▸ rfl, rfl⟩
        · split
          · next h => exact .inl ⟨Ascii.byte 'n', h ▸ rfl, rfl⟩
          · split
            · next h => exact .inl ⟨Ascii.byte 'r', h ▸ rfl, rfl⟩
            · split
              · next h => exact .inl ⟨Ascii.byte 't', h ▸ rfl, rfl⟩
              · split
                · next h => exact .inr (.inl ⟨UInt8.lt_iff_toNat_lt.mp h, rfl⟩)
                · next h =>
                    simp only [Bool.or_eq_true, decide_eq_true_eq, not_or] at hquote
                    exact .inr (.inr ⟨hquote.1, hquote.2, h, rfl⟩)

theorem hexUnit?_control {n : Nat} (h : n < 32) :
    hexUnit? zero zero (hexDigit (n / 16)) (hexDigit (n % 16)) = some n := by
  revert n
  decide

theorem encodeCodePoint_control {n : Nat} (h : n < 32) :
    encodeCodePoint n = [UInt8.ofNat n] := by
  revert n
  decide

theorem scan_escaped (b : UInt8) (h : scan bs = some (ps, rest)) :
    ∃ p, scan (escaped b ++ bs) = some (p :: ps, rest) ∧
      ∀ qs, decode (p :: qs) = (decode qs).map (b :: ·) := by
  rcases escaped_cases b with ⟨e, he, htext⟩ | ⟨hb, htext⟩ | ⟨hq, hs, hc, htext⟩
  · refine ⟨.byte b, ?_, fun qs => rfl⟩
    rw [htext]
    exact scan_shortEscape he h
  · refine ⟨.unit b.toNat, ?_, fun qs => ?_⟩
    · rw [htext]
      exact scan_unit (hexUnit?_control hb) h
    · rw [decode_unit (by omega), encodeCodePoint_control hb, UInt8.ofNat_toNat]
      rfl
  · refine ⟨.byte b, ?_, fun qs => rfl⟩
    rw [htext]
    exact scan_byte hq hs hc h

theorem scan_flatMap_escaped (bs rest : Bytes) :
    ∃ ps, scan (bs.flatMap escaped ++ quotationMark :: rest) = some (ps, rest) ∧
      decode ps = some bs := by
  induction bs with
  | nil => exact ⟨[], scan_quotationMark rest, rfl⟩
  | cons b bs ih =>
      obtain ⟨ps, hscan, hdecode⟩ := ih
      obtain ⟨p, hp, hcons⟩ := scan_escaped b hscan
      refine ⟨p :: ps, ?_, by rw [hcons, hdecode]; rfl⟩
      rw [List.flatMap_cons, List.append_assoc]
      exact hp

theorem scan_quoted (s : String) (rest : Bytes) :
    ∃ tail ps, quoted s = quotationMark :: tail ∧ scan (tail ++ rest) = some (ps, rest) ∧
      text? ps = some s := by
  obtain ⟨ps, hscan, hdecode⟩ := scan_flatMap_escaped (Text.bytes s) rest
  refine ⟨(Text.bytes s).flatMap escaped ++ [quotationMark], ps, rfl, ?_, ?_⟩
  · rw [List.append_assoc]
    exact hscan
  · rw [text?, hdecode, Option.bind_some, Text.ofBytes?_bytes]

end Piece

end Gateway.Json
