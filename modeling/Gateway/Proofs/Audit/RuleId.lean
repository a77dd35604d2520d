import Gateway.Audit.RuleId

namespace Gateway.RuleId

def Numeric (id : String) : Prop :=
  ∀ segment ∈ segments id, (number? segment).isSome

instance (id : String) : Decidable (Numeric id) :=
  inferInstanceAs (Decidable (∀ segment ∈ segments id, (number? segment).isSome))

def numbers (id : String) : List Nat :=
  (segments id).filterMap number?

section Swap

variable {a b : List Char}

theorem compareText_eq (as bs : List Char) :
    compareText as bs = List.compareLex Ord.compare (as.map Char.toNat) (bs.map Char.toNat) := by
  induction as generalizing bs with
  | nil => cases bs <;> rfl
  | cons a as ih =>
      cases bs with
      | nil => rfl
      | cons b bs => rw [compareText, ih, List.map_cons, List.map_cons, List.compareLex_cons_cons]

instance : Std.TransCmp compareText where
  eq_swap := by
    intro a b
    rw [compareText_eq, compareText_eq]
    exact Std.OrientedCmp.eq_swap
  isLE_trans := by
    intro a b c hab hbc
    rw [compareText_eq] at *
    exact Std.TransCmp.isLE_trans hab hbc

instance : Std.LawfulEqCmp compareText where
  compare_self := by
    intro a
    rw [compareText_eq]
    exact Std.ReflCmp.compare_self
  eq_of_compare := by
    intro a b h
    rw [compareText_eq] at h
    exact (List.map_inj_right fun _ _ => Char.toNat_inj.mp).mp (Std.LawfulEqCmp.eq_of_compare h)

theorem compareSegments_numbers {m n : Nat} (ha : number? a = some m) (hb : number? b = some n) :
    compareSegments a b = Ord.compare m n := by
  rw [compareSegments, ha, hb]

theorem compareSegments_text_left (ha : number? a = none) :
    compareSegments a b = compareText a b := by
  rw [compareSegments, ha]

theorem compareSegments_text_right (hb : number? b = none) :
    compareSegments a b = compareText a b := by
  rw [compareSegments, hb]
  cases number? a <;> rfl

theorem compareSegments_swap (a b : List Char) :
    compareSegments a b = (compareSegments b a).swap := by
  cases ha : number? a with
  | none =>
      rw [compareSegments_text_left ha, compareSegments_text_right ha]
      exact Std.OrientedCmp.eq_swap
  | some m =>
      cases hb : number? b with
      | none =>
          rw [compareSegments_text_left hb, compareSegments_text_right hb]
          exact Std.OrientedCmp.eq_swap
      | some n =>
          rw [compareSegments_numbers ha hb, compareSegments_numbers hb ha]
          exact Std.OrientedCmp.eq_swap

theorem compareLists_swap (as bs : List (List Char)) :
    compareLists as bs = (compareLists bs as).swap := by
  induction as generalizing bs with
  | nil => cases bs <;> rfl
  | cons a as ih =>
      cases bs with
      | nil => rfl
      | cons b bs =>
          rw [compareLists, compareLists, Ordering.swap_then, ← compareSegments_swap, ← ih]

theorem compare_swap (a b : String) : compare a b = (compare b a).swap :=
  compareLists_swap (segments a) (segments b)

end Swap

theorem compareLists_of_numbers {as bs : List (List Char)}
    (has : ∀ a ∈ as, (number? a).isSome) (hbs : ∀ b ∈ bs, (number? b).isSome) :
    compareLists as bs =
      List.compareLex Ord.compare (as.filterMap number?) (bs.filterMap number?) := by
  induction as generalizing bs with
  | nil =>
      cases bs with
      | nil => rfl
      | cons b bs =>
          obtain ⟨n, hn⟩ := Option.isSome_iff_exists.mp (hbs b List.mem_cons_self)
          rw [List.filterMap_cons_some hn]
          rfl
  | cons a as ih =>
      obtain ⟨m, hm⟩ := Option.isSome_iff_exists.mp (has a List.mem_cons_self)
      rw [List.filterMap_cons_some hm]
      cases bs with
      | nil => rfl
      | cons b bs =>
          obtain ⟨n, hn⟩ := Option.isSome_iff_exists.mp (hbs b List.mem_cons_self)
          have htail := ih (fun x hx => has x (List.mem_cons_of_mem _ hx))
            (fun x hx => hbs x (List.mem_cons_of_mem _ hx))
          rw [List.filterMap_cons_some hn, List.compareLex_cons_cons, compareLists, htail,
            compareSegments, hm, hn]

section Numeric

variable {a b c : String}

theorem compare_of_numeric (ha : Numeric a) (hb : Numeric b) :
    compare a b = List.compareLex Ord.compare (numbers a) (numbers b) :=
  compareLists_of_numbers ha hb

theorem compare_lt_trans (ha : Numeric a) (hb : Numeric b) (hc : Numeric c)
    (hab : compare a b = .lt) (hbc : compare b c = .lt) : compare a c = .lt := by
  rw [compare_of_numeric ha hb] at hab
  rw [compare_of_numeric hb hc] at hbc
  rw [compare_of_numeric ha hc]
  exact Std.TransCmp.lt_trans hab hbc

theorem compare_eq_eq_iff (ha : Numeric a) (hb : Numeric b) :
    compare a b = .eq ↔ numbers a = numbers b := by
  rw [compare_of_numeric ha hb]
  exact Std.LawfulEqCmp.compare_eq_iff_eq

theorem compare_lt_or_gt (ha : Numeric a) (hb : Numeric b) (hne : numbers a ≠ numbers b) :
    compare a b = .lt ∨ compare b a = .lt := by
  have hcompare := mt (compare_eq_eq_iff ha hb).mp hne
  rw [compare_swap b a]
  cases h : compare a b with
  | lt => exact .inl rfl
  | eq => exact absurd h hcompare
  | gt => exact .inr rfl

end Numeric

end Gateway.RuleId
