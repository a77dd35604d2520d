import Gateway.Proofs.Audit.RuleId
import Mathlib.Algebra.Group.Nat.Defs
import Mathlib.Data.List.Forall2

namespace Gateway.RuleId

structure DigitsOf (cs : List Char) (n : Nat) : Prop where
  nonempty : cs ≠ []
  digits : ∀ c ∈ cs, c.isDigit = true
  value : Nat.ofDigitChars 10 cs 0 = n
  bound : n < 2 ^ 64

inductive Writes : List Char → Nat → Prop
  | plain {cs : List Char} {n : Nat} : DigitsOf cs n → Writes cs n
  | plus {cs : List Char} {n : Nat} : DigitsOf cs n → Writes ('+' :: cs) n

def WritesNumbers (id : String) (ns : List Nat) : Prop :=
  List.Forall₂ Writes (segments id) ns

section Number

variable {cs : List Char} {n : Nat}

def unsigned : List Char → List Char
  | '+' :: cs => cs
  | cs => cs

theorem number?_eq (segment : List Char) : number? segment =
    if !(unsigned segment).isEmpty && (unsigned segment).all Char.isDigit &&
      Nat.ofDigitChars 10 (unsigned segment) 0 < 2 ^ 64
    then some (Nat.ofDigitChars 10 (unsigned segment) 0) else none :=
  rfl

theorem number?_eq_some_iff_digitsOf {segment : List Char} :
    number? segment = some n ↔ DigitsOf (unsigned segment) n := by
  rw [number?_eq, Option.ite_none_right_eq_some, Option.some.injEq]
  simp only [Bool.and_eq_true, Bool.not_eq_true', List.isEmpty_eq_false_iff, List.all_eq_true,
    decide_eq_true_eq]
  constructor
  · rintro ⟨⟨⟨hne, hdigits⟩, hbound⟩, hvalue⟩
    exact ⟨hne, hdigits, hvalue, hvalue ▸ hbound⟩
  · rintro ⟨hne, hdigits, hvalue, hbound⟩
    exact ⟨⟨⟨hne, hdigits⟩, hvalue ▸ hbound⟩, hvalue⟩

theorem unsigned_of_digitsOf (h : DigitsOf cs n) : unsigned cs = cs := by
  rw [unsigned]
  rintro ds rfl
  cases h.digits '+' List.mem_cons_self

theorem number?_eq_some_iff {segment : List Char} :
    number? segment = some n ↔ Writes segment n := by
  rw [number?_eq_some_iff_digitsOf]
  constructor
  · intro h
    rw [unsigned.eq_def] at h
    split at h
    · exact .plus h
    · exact .plain h
  · intro h
    cases h with
    | plain h => rwa [unsigned_of_digitsOf h]
    | plus h => exact h

end Number

theorem numbers_of_writes {as : List (List Char)} {ns : List Nat} (h : List.Forall₂ Writes as ns) :
    (∀ a ∈ as, (number? a).isSome = true) ∧ as.filterMap number? = ns := by
  induction h with
  | nil => exact ⟨List.forall_mem_nil _, rfl⟩
  | cons hwrites _ ih =>
      have hnumber := number?_eq_some_iff.mpr hwrites
      rw [List.filterMap_cons_some hnumber, ih.2]
      exact ⟨List.forall_mem_cons.mpr ⟨Option.isSome_of_eq_some hnumber, ih.1⟩, rfl⟩

theorem compareLex_eq_lt_iff {ms ns : List Nat} :
    List.compareLex Ord.compare ms ns = .lt ↔ ms < ns := by
  induction ms generalizing ns with
  | nil =>
      cases ns with
      | nil => simp [List.compareLex_nil_nil]
      | cons n ns => simp [List.compareLex_nil_cons]
  | cons m ms ih =>
      cases ns with
      | nil => simp [List.compareLex_cons_nil]
      | cons n ns =>
          rw [List.compareLex_cons_cons, Ordering.then_eq_lt, ih, List.cons_lt_cons_iff,
            Nat.compare_eq_lt, Nat.compare_eq_eq]

section Order

variable {a b c : String} {ks ms ns : List Nat}

theorem compare_of_writes (ha : WritesNumbers a ms) (hb : WritesNumbers b ns) :
    compare a b = Ord.compare ms ns := by
  obtain ⟨hanumeric, rfl⟩ := numbers_of_writes ha
  obtain ⟨hbnumeric, rfl⟩ := numbers_of_writes hb
  exact compare_of_numeric hanumeric hbnumeric

theorem compare_lt_iff_of_writes (ha : WritesNumbers a ms) (hb : WritesNumbers b ns) :
    compare a b = .lt ↔ ms < ns := by
  rw [compare_of_writes ha hb]
  exact compareLex_eq_lt_iff

theorem compare_eq_iff_of_writes (ha : WritesNumbers a ms) (hb : WritesNumbers b ns) :
    compare a b = .eq ↔ ms = ns := by
  rw [compare_of_writes ha hb]
  exact Std.LawfulEqCmp.compare_eq_iff_eq

theorem compare_ne_gt_total (a b : String) : compare a b ≠ .gt ∨ compare b a ≠ .gt := by
  rw [compare_swap b a]
  cases compare a b <;> simp

theorem eq_of_compare_ne_gt (ha : WritesNumbers a ms) (hb : WritesNumbers b ns)
    (hab : compare a b ≠ .gt) (hba : compare b a ≠ .gt) : ms = ns := by
  rw [compare_swap b a] at hba
  refine (compare_eq_iff_of_writes ha hb).mp ?_
  cases h : compare a b with
  | lt => exact absurd (congrArg Ordering.swap h) hba
  | eq => rfl
  | gt => exact absurd h hab

theorem compare_ne_gt_trans (ha : WritesNumbers a ks) (hb : WritesNumbers b ms)
    (hc : WritesNumbers c ns) (hab : compare a b ≠ .gt) (hbc : compare b c ≠ .gt) :
    compare a c ≠ .gt := by
  rw [compare_of_writes ha hb, ne_eq, Ordering.ne_gt_iff_isLE] at hab
  rw [compare_of_writes hb hc, ne_eq, Ordering.ne_gt_iff_isLE] at hbc
  rw [compare_of_writes ha hc, ne_eq, Ordering.ne_gt_iff_isLE]
  exact Std.TransCmp.isLE_trans hab hbc

end Order

theorem compare_numbers_exact :
    (∀ a b ms ns, WritesNumbers a ms → WritesNumbers b ns →
      compare a b = Ord.compare ms ns ∧ (compare a b = .lt ↔ ms < ns) ∧
        (compare a b = .eq ↔ ms = ns) ∧ (compare a b ≠ .gt ∨ compare b a ≠ .gt) ∧
        (compare a b ≠ .gt → compare b a ≠ .gt → ms = ns)) ∧
    ∀ a b c ks ms ns, WritesNumbers a ks → WritesNumbers b ms → WritesNumbers c ns →
      compare a b ≠ .gt → compare b c ≠ .gt → compare a c ≠ .gt := by
  constructor
  · intro a b ms ns ha hb
    exact ⟨compare_of_writes ha hb, compare_lt_iff_of_writes ha hb, compare_eq_iff_of_writes ha hb,
      compare_ne_gt_total a b, eq_of_compare_ne_gt ha hb⟩
  · intro a b c ks ms ns ha hb hc
    exact compare_ne_gt_trans ha hb hc

theorem compare_numbers_exact_padded :
    (WritesNumbers "2.9" [2, 9] ∧ WritesNumbers "+2.010" [2, 10] ∧ WritesNumbers "2.10" [2, 10] ∧
      compare "2.9" "+2.010" ≠ .gt ∧ compare "+2.010" "2.10" ≠ .gt) ∧
    compare "2.9" "+2.010" = Ord.compare [2, 9] [2, 10] ∧
    (compare "+2.010" "2.10" = .eq ↔ [2, 10] = [2, 10]) ∧
    compare "2.9" "2.10" ≠ .gt := by
  have hwrites {cs : List Char} {n : Nat} (h : number? cs = some n) : Writes cs n :=
    number?_eq_some_iff.mp h
  have ha : WritesNumbers "2.9" [2, 9] := .cons (hwrites rfl) (.cons (hwrites rfl) .nil)
  have hb : WritesNumbers "+2.010" [2, 10] := .cons (hwrites rfl) (.cons (hwrites rfl) .nil)
  have hc : WritesNumbers "2.10" [2, 10] := .cons (hwrites rfl) (.cons (hwrites rfl) .nil)
  have hab : compare "2.9" "+2.010" ≠ .gt := by decide +kernel
  have hbc : compare "+2.010" "2.10" ≠ .gt := by decide +kernel
  obtain ⟨hexact, htrans⟩ := compare_numbers_exact
  exact ⟨⟨ha, hb, hc, hab, hbc⟩, (hexact _ _ _ _ ha hb).1, (hexact _ _ _ _ hb hc).2.2.1,
    htrans _ _ _ _ _ _ ha hb hc hab hbc⟩

end Gateway.RuleId
