import Gateway.Extension.Setting
import Gateway.Proofs.Binary64.Whole
import Gateway.Proofs.Bits
import Gateway.Proofs.Duration.Sum

namespace Gateway.Extension

open Json Bits

def NonNegative (word : Int64) : Prop :=
  0 ≤ word.toInt

def Within (low high : Int) (word : Int64) : Prop :=
  low ≤ word.toInt ∧ word.toInt ≤ high

instance (low high : Int) (word : Int64) : Decidable (Within low high word) :=
  inferInstanceAs (Decidable (_ ∧ _))

def items (o : Object) (key : String) : List Value :=
  (list? o key).getD []

def CountableLists (o : Object) : Prop :=
  ∀ key, (items o key).length < 2 ^ 63

theorem nonNegative_ofNat {n : Nat} (h : n < 2 ^ 63) : NonNegative (Int64.ofNat n) := by
  rw [NonNegative, Int64.toInt_ofNat_of_lt h]
  exact Int.natCast_nonneg n

theorem within_ofNat {n limit : Nat} (hle : n ≤ limit) (h : limit < 2 ^ 63) :
    Within 0 limit (Int64.ofNat n) := by
  rw [Within, Int64.toInt_ofNat_of_lt (Nat.lt_of_le_of_lt hle h)]
  exact ⟨Int.natCast_nonneg n, Int.ofNat_le.mpr hle⟩

theorem sum_toInt_ofNat {counts : List Nat} (h : ∀ n ∈ counts, n < 2 ^ 63) :
    ((counts.map Int64.ofNat).map Int64.toInt).sum = counts.sum := by
  induction counts with
  | nil => rfl
  | cons n counts ih =>
      obtain ⟨hn, hcounts⟩ := List.forall_mem_cons.mp h
      rw [List.map_cons, List.map_cons, List.sum_cons, ih hcounts, Int64.toInt_ofNat_of_lt hn,
        List.sum_cons, Int.natCast_add]

section Flags

variable {n : Nat} {high : Int} (hn : n < 64) (hhigh : 2 ^ n = high + 1)
include hn hhigh

theorem within_ofList {bits : List Nat} (h : ∀ b ∈ bits, b < n) :
    Within 0 high (ofList bits) := by
  obtain ⟨hnonneg, hlt⟩ := toInt_ofList_bounds h hn
  exact ⟨hnonneg, Int.lt_add_one_iff.mp (hhigh ▸ hlt)⟩

theorem within_ofConditions {conditions : List (Bool × Nat)} (h : ∀ c ∈ conditions, c.2 < n) :
    Within 0 high (ofConditions conditions) :=
  within_ofList hn hhigh (lt_of_mem_conditions h)

end Flags

section Setting

variable (o : Object) (key : String)

theorem within_indicator (b : Bool) : Within 0 1 (indicator b) := by
  cases b <;> decide

theorem nonNegative_positive : NonNegative (whole (positive? o key)) := by
  rw [NonNegative, whole]
  cases h : positive? o key with
  | none => decide
  | some d => exact toInt_toInt64_nonneg (Option.filter_eq_some_iff.mp h).2

theorem within_milliseconds :
    Within (-9223372036854) 9223372036854 (milliseconds o key) := by
  rw [milliseconds]
  cases h : (text? o key).bind Duration.milliseconds? with
  | none => decide
  | some ms =>
      obtain ⟨s, -, hs⟩ := Option.bind_eq_some_iff.mp h
      exact Duration.milliseconds?_bounds hs

variable {o}

theorem nonNegative_length (h : CountableLists o) : NonNegative (length o key) :=
  nonNegative_ofNat (h key)

end Setting

section Counting

variable {α κ : Type} [BEq κ] [LawfulBEq κ] (kind? : α → Option κ)

theorem countP_filter_not {j k : κ} (h : j ≠ k) (xs : List α) :
    (xs.filter fun x => !(kind? x == some k)).countP (fun x => kind? x == some j) =
      xs.countP fun x => kind? x == some j := by
  rw [List.countP_filter]
  refine List.countP_congr fun x _ => ?_
  rw [Bool.and_eq_true, beq_iff_eq, and_iff_left_iff_imp]
  intro hj
  simpa [hj] using h

theorem sum_countP_le {kinds : List κ} (h : kinds.Nodup) (xs : List α) :
    (kinds.map fun k => xs.countP fun x => kind? x == some k).sum ≤ xs.length := by
  induction kinds generalizing xs with
  | nil => exact Nat.zero_le _
  | cons k kinds ih =>
      obtain ⟨hk, hkinds⟩ := List.nodup_cons.mp h
      have hcounts : ∀ j ∈ kinds,
          (xs.filter fun x => !(kind? x == some k)).countP (fun x => kind? x == some j) =
            xs.countP fun x => kind? x == some j :=
        fun j hj => countP_filter_not kind? (ne_of_mem_of_not_mem hj hk) xs
      have hrest := ih hkinds (xs.filter fun x => !(kind? x == some k))
      rw [List.map_congr_left hcounts, ← List.countP_eq_length_filter] at hrest
      have hlength := List.length_eq_countP_add_countP (fun x => kind? x == some k) (l := xs)
      simp only [Bool.not_eq_true, Bool.decide_eq_false] at hlength
      rw [List.map_cons, List.sum_cons, hlength]
      exact Nat.add_le_add_left hrest _

end Counting

end Gateway.Extension
