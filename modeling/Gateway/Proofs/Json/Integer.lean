import Gateway.Json.Parser
import Gateway.Json.Printer
import Mathlib.Algebra.Group.Int.Defs
import Mathlib.Algebra.Group.Nat.Defs

namespace Gateway.Json

open Ascii

def EndsNumber (rest : Bytes) : Prop :=
  ∀ b ∈ rest.head?, isBlank b = true ∨ b = comma ∨ b = rightBracket ∨ b = rightBrace

theorem endsNumber_nil : EndsNumber [] := by
  simp [EndsNumber]

theorem endsNumber_cons {b : UInt8} (h : isBlank b = true ∨ b = comma ∨ b = rightBracket ∨
    b = rightBrace) (rest : Bytes) : EndsNumber (b :: rest) := by
  simpa [EndsNumber] using h

theorem EndsNumber.head {b : UInt8} {rest : Bytes} (h : EndsNumber (b :: rest)) :
    isDigit b = false ∧ b ≠ point ∧ b ≠ byte 'e' ∧ b ≠ byte 'E' := by
  have hb := h b rfl
  simp only [isBlank, Bool.or_eq_true, beq_iff_eq] at hb
  rcases hb with (((rfl | rfl) | rfl) | rfl) | rfl | rfl | rfl <;> decide

theorem isDigit_zero_add {n : Nat} (h : n < 10) :
    isDigit (zero + UInt8.ofNat n) = true ∧ digitValue (zero + UInt8.ofNat n) = n := by
  revert n
  decide

theorem isDigit_of_mem_decimal (n : Nat) : ∀ b ∈ decimal n, isDigit b = true := by
  induction n using decimal.induct with
  | case1 n hn =>
      rw [decimal, if_pos hn]
      simpa using (isDigit_zero_add hn).1
  | case2 n hn ih =>
      rw [decimal, if_neg hn]
      intro b hb
      rcases List.mem_append.mp hb with hb | hb
      · exact ih b hb
      · rw [List.mem_singleton.mp hb]
        exact (isDigit_zero_add (Nat.mod_lt n (by decide))).1

theorem decimal_ne_nil (n : Nat) : decimal n ≠ [] := by
  rw [decimal]
  split <;> simp

theorem decimal_cases (n : Nat) :
    n = 0 ∨ ∃ b bs, decimal n = b :: bs ∧ digitValue b ≠ 0 := by
  induction n using decimal.induct with
  | case1 n hn =>
      rcases Nat.eq_zero_or_pos n with h | h
      · exact .inl h
      · refine .inr ⟨_, [], by rw [decimal, if_pos hn], ?_⟩
        rw [(isDigit_zero_add hn).2]
        omega
  | case2 n hn ih =>
      rcases ih with h | ⟨b, bs, hdecimal, hb⟩
      · omega
      · exact .inr ⟨b, _, by rw [decimal, if_neg hn, hdecimal, List.cons_append], hb⟩

theorem scanDigits_append {ds rest : Bytes} (hds : ∀ b ∈ ds, isDigit b = true)
    (hrest : EndsNumber rest) : scanDigits (ds ++ rest) = (ds.map digitValue, rest) := by
  have hstop : rest.takeWhile isDigit = [] ∧ rest.dropWhile isDigit = rest := by
    cases rest with
    | nil => exact ⟨rfl, rfl⟩
    | cons b rest => simp [hrest.head.1]
  rw [scanDigits, List.takeWhile_append_of_pos hds, List.dropWhile_append_of_pos hds, hstop.1,
    hstop.2, List.append_nil]

namespace Literal

theorem take_append_singleton {acc m d : Nat} {ds : List Nat} (h : take acc ds = (m, []))
    (hd : m * 10 + d ≤ largestWord) : take acc (ds ++ [d]) = (m * 10 + d, []) := by
  induction ds generalizing acc with
  | nil =>
      cases h
      simp [take, hd]
  | cons c ds ih =>
      rw [List.cons_append, take]
      rw [take] at h
      split at h
      · next hc => rw [if_pos hc]; exact ih h
      · cases h

theorem take_decimal {n : Nat} (h : n ≤ largestWord) :
    take 0 ((decimal n).map digitValue) = (n, []) := by
  induction n using decimal.induct with
  | case1 n hn =>
      rw [decimal, if_pos hn, List.map_singleton, (isDigit_zero_add hn).2]
      simp [take, h]
  | case2 n hn ih =>
      have hmod := Nat.mod_lt n (show 0 < 10 by decide)
      have hsum : n / 10 * 10 + n % 10 = n := Nat.div_add_mod' n 10
      rw [decimal, if_neg hn, List.map_append, List.map_singleton, (isDigit_zero_add hmod).2]
      rw [take_append_singleton (ih (by omega)) (by omega), hsum]

theorem scan_decimal (negative : Bool) (n : Nat) {rest : Bytes} (hrest : EndsNumber rest) :
    scan negative (decimal n ++ rest) =
      some (⟨negative, (decimal n).map digitValue, [], none⟩, rest) := by
  have hfraction : scanFraction rest = some ([], rest) := by
    cases rest with
    | nil => rfl
    | cons b rest => rw [scanFraction, if_neg hrest.head.2.1]
  have hexponent : scanExponent rest = some (none, rest) := by
    cases rest with
    | nil => rfl
    | cons b rest =>
        rw [scanExponent.eq_def]
        simp [hrest.head.2.2]
  rw [scan, scanDigits_append (isDigit_of_mem_decimal n) hrest]
  rcases decimal_cases n with rfl | ⟨b, bs, hdecimal, hb⟩
  · simp [decimal, hfraction, hexponent]
  · obtain ⟨d, hd⟩ := Nat.exists_eq_succ_of_ne_zero hb
    simp [hdecimal, hd, hfraction, hexponent]

theorem value?_decimal {n : Nat} (h : n < 2 ^ 64) :
    value? ⟨false, (decimal n).map digitValue, [], none⟩ = some (.integer n) := by
  have hword : UInt64.size = 2 ^ 64 := rfl
  rw [value?, take_decimal (by rw [largestWord]; omega)]
  rfl

theorem value?_neg_decimal {n : Nat} (hpos : 0 < n) (h : n ≤ 2 ^ 63) :
    value? ⟨true, (decimal n).map digitValue, [], none⟩ = some (.integer (-n)) := by
  have hword : UInt64.size = 2 ^ 64 := rfl
  have hlow : Int64.minValue.toInt ≤ -n := by
    rw [Int64.toInt_minValue]
    omega
  rw [value?, take_decimal (by rw [largestWord]; omega)]
  simp only [isWhole, List.isEmpty_nil, Option.isNone_none, Bool.and_self, Bool.not_true,
    Bool.and_false, Bool.false_eq_true, if_false, decide_eq_true hpos, decide_eq_true hlow, if_true]

end Literal

theorem scanNumber_of_scan {b : UInt8} {bs rest : Bytes} {l : Literal} (hb : b ≠ minus)
    (h : Literal.scan false (b :: bs) = some (l, rest)) :
    scanNumber (b :: bs) = some (.number l.value?, rest) := by
  simp only [scanNumber, if_neg hb, h]
  rfl

theorem scanNumber_minus_of_scan {bs rest : Bytes} {l : Literal}
    (h : Literal.scan true bs = some (l, rest)) :
    scanNumber (minus :: bs) = some (.number l.value?, rest) := by
  simp only [scanNumber, if_true, h]
  rfl

theorem scanNumber_integer {i : Int} (hlow : -2 ^ 63 ≤ i) (hhigh : i < 2 ^ 64) {rest : Bytes}
    (hrest : EndsNumber rest) :
    scanNumber (integer i ++ rest) = some (.number (some (.integer i)), rest) := by
  have hscan := fun negative => Literal.scan_decimal negative i.natAbs hrest
  rw [integer]
  split
  · next hneg =>
      have hi : -(i.natAbs : Int) = i := by omega
      rw [List.cons_append, scanNumber_minus_of_scan (hscan true),
        Literal.value?_neg_decimal (by omega) (by omega), hi]
  · next hneg =>
      have hi : (i.natAbs : Int) = i := by omega
      obtain ⟨b, bs, hdecimal⟩ := List.exists_cons_of_ne_nil (decimal_ne_nil i.natAbs)
      have hdigit := isDigit_of_mem_decimal i.natAbs b (by rw [hdecimal]; simp)
      have hb : b ≠ minus := by
        rintro rfl
        exact absurd hdigit (by decide)
      have hscan := hscan false
      rw [hdecimal, List.cons_append, ← hdecimal] at hscan
      rw [hdecimal, List.cons_append, scanNumber_of_scan hb hscan,
        Literal.value?_decimal (by omega), hi]

end Gateway.Json
