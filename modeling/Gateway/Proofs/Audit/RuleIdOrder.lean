import Gateway.Proofs.Audit.RuleId

namespace Gateway.RuleId

section Segments

variable {a b c : List Char}

def value (segment : List Char) : Nat ⊕ List Char :=
  match number? segment with
  | some n => .inl n
  | none => .inr segment

theorem value_of_number {n : Nat} (ha : number? a = some n) : value a = .inl n := by
  rw [value, ha]

theorem value_of_text (ha : number? a = none) : value a = .inr a := by
  rw [value, ha]

theorem ne_of_text {n : Nat} (ha : number? a = none) (hb : number? b = some n) : a ≠ b := by
  rintro rfl
  cases ha.symm.trans hb

theorem compareSegments_eq_eq_iff : compareSegments a b = .eq ↔ value a = value b := by
  cases ha : number? a with
  | none =>
      rw [compareSegments_text_left ha, Std.LawfulEqCmp.compare_eq_iff_eq, value_of_text ha]
      cases hb : number? b with
      | none => rw [value_of_text hb, Sum.inr.injEq]
      | some n =>
          simp [value_of_number hb, ne_of_text ha hb]
  | some m =>
      cases hb : number? b with
      | none =>
          simp [compareSegments_text_right hb, Std.LawfulEqCmp.compare_eq_iff_eq,
            value_of_number ha, value_of_text hb, (ne_of_text hb ha).symm]
      | some n =>
          rw [compareSegments_numbers ha hb, Std.LawfulEqCmp.compare_eq_iff_eq, value_of_number ha,
            value_of_number hb, Sum.inl.injEq]

end Segments

theorem lt_of_isLE_of_isLE {α : Type} {cmp : α → α → Ordering} [Std.TransCmp cmp] {a b c : α}
    (hab : (cmp a b).isLE) (hbc : (cmp b c).isLE) (hne : ¬(cmp a b = .eq ∧ cmp b c = .eq)) :
    cmp a c = .lt := by
  rcases Ordering.isLE_iff_eq_lt_or_eq_eq.mp hab with hlt | heq
  · exact Std.TransCmp.lt_of_lt_of_isLE hlt hbc
  · rw [Std.TransCmp.congr_left heq]
    rcases Ordering.isLE_iff_eq_lt_or_eq_eq.mp hbc with hlt | heq'
    · exact hlt
    · exact absurd ⟨heq, heq'⟩ hne

def between (p t q : List Char) : Bool :=
  (number? p).isSome && (number? t).isNone && (number? q).isSome &&
    compareText p t == .lt && compareText t q == .lt

section Heads

variable {x y z : List Char}

theorem between_iff : between x y z = true ↔
    (number? x).isSome ∧ number? y = none ∧ (number? z).isSome ∧
      compareText x y = .lt ∧ compareText y z = .lt := by
  simp only [between, Bool.and_eq_true, Option.isNone_iff_eq_none, beq_iff_eq, and_assoc]

theorem compareText_lt_or_gt (hne : x ≠ y) :
    compareText x y = .lt ∨ compareText y x = .lt := by
  cases h : compareText x y with
  | lt => exact .inl rfl
  | eq => exact absurd (Std.LawfulEqCmp.eq_of_compare h) hne
  | gt => exact .inr (Std.OrientedCmp.gt_iff_lt.mp h)

theorem compareText_lt_of_isLE (hne : x ≠ y) (h : (compareText x y).isLE) :
    compareText x y = .lt := by
  rcases Ordering.isLE_iff_eq_lt_or_eq_eq.mp h with hlt | heq
  · exact hlt
  · exact absurd (Std.LawfulEqCmp.eq_of_compare heq) hne

theorem lt_or_between_of_text_first {m n : Nat} (hx : number? x = none) (hy : number? y = some m)
    (hz : number? z = some n) (hxy : (compareSegments x y).isLE) :
    compareSegments x z = .lt ∨ between z x y = true := by
  rw [compareSegments_text_left hx] at hxy
  have hlt := compareText_lt_of_isLE (ne_of_text hx hy) hxy
  rcases compareText_lt_or_gt (ne_of_text hx hz) with hxz | hzx
  · exact .inl ((compareSegments_text_left hx).trans hxz)
  · exact .inr (between_iff.mpr ⟨hz ▸ rfl, hx, hy ▸ rfl, hzx, hlt⟩)

theorem between_of_text_second {m n : Nat} (hx : number? x = some m) (hy : number? y = none)
    (hz : number? z = some n) (hxy : (compareSegments x y).isLE)
    (hyz : (compareSegments y z).isLE) : between x y z = true := by
  rw [compareSegments_text_right hy] at hxy
  rw [compareSegments_text_left hy] at hyz
  have hlt := compareText_lt_of_isLE (ne_of_text hy hx).symm hxy
  have hlt' := compareText_lt_of_isLE (ne_of_text hy hz) hyz
  exact between_iff.mpr ⟨hx ▸ rfl, hy, hz ▸ rfl, hlt, hlt'⟩

theorem lt_or_between_of_text_third {m n : Nat} (hx : number? x = some m) (hy : number? y = some n)
    (hz : number? z = none) (hyz : (compareSegments y z).isLE) :
    compareSegments x z = .lt ∨ between y z x = true := by
  rw [compareSegments_text_right hz] at hyz
  have hlt := compareText_lt_of_isLE (ne_of_text hz hy).symm hyz
  rcases compareText_lt_or_gt (ne_of_text hz hx) with hzx | hxz
  · exact .inr (between_iff.mpr ⟨hy ▸ rfl, hz, hx ▸ rfl, hlt, hzx⟩)
  · exact .inl ((compareSegments_text_right hz).trans hxz)

-- With two texts among the three each comparison has a text on one side, so all are of texts.
theorem compareSegments_lt_or_between (hxy : (compareSegments x y).isLE)
    (hyz : (compareSegments y z).isLE)
    (hne : ¬(compareSegments x y = .eq ∧ compareSegments y z = .eq)) :
    compareSegments x z = .lt ∨ between x y z = true ∨ between y z x = true ∨
      between z x y = true := by
  have texts (h₁ : compareSegments x y = compareText x y)
      (h₂ : compareSegments y z = compareText y z) (h₃ : compareSegments x z = compareText x z) :
      compareSegments x z = .lt := by
    rw [h₁] at hxy hne
    rw [h₂] at hyz hne
    rw [h₃]
    exact lt_of_isLE_of_isLE hxy hyz hne
  cases hx : number? x with
  | none =>
      have hxy' : compareSegments x y = compareText x y := compareSegments_text_left hx
      have hxz' : compareSegments x z = compareText x z := compareSegments_text_left hx
      cases hy : number? y with
      | none => exact .inl (texts hxy' (compareSegments_text_left hy) hxz')
      | some m =>
          cases hz : number? z with
          | none => exact .inl (texts hxy' (compareSegments_text_right hz) hxz')
          | some n =>
              rcases lt_or_between_of_text_first hx hy hz hxy with hlt | hbetween
              · exact .inl hlt
              · exact .inr (.inr (.inr hbetween))
  | some l =>
      cases hy : number? y with
      | none =>
          cases hz : number? z with
          | none =>
              exact .inl (texts (compareSegments_text_right hy) (compareSegments_text_left hy)
                (compareSegments_text_right hz))
          | some n => exact .inr (.inl (between_of_text_second hx hy hz hxy hyz))
      | some m =>
          cases hz : number? z with
          | none =>
              rcases lt_or_between_of_text_third hx hy hz hyz with hlt | hbetween
              · exact .inl hlt
              · exact .inr (.inr (.inl hbetween))
          | some n =>
              rw [compareSegments_numbers hx hy] at hxy hne
              rw [compareSegments_numbers hy hz] at hyz hne
              rw [compareSegments_numbers hx hz]
              exact .inl (lt_of_isLE_of_isLE hxy hyz hne)

end Heads

-- Where the three first differ, a text stands between the numbers of the outer ones, though the
-- last of them does not come after the first.
def circular : List (List Char) → List (List Char) → List (List Char) → Bool
  | p :: ps, t :: ts, q :: qs =>
      if value p = value t ∧ value t = value q then circular ps ts qs
      else between p t q && (compareLists (q :: qs) (p :: ps)).isLE
  | _, _, _ => false

section Lists

variable {as bs cs : List (List Char)}

theorem compareLists_isLE_trans (habc : circular as bs cs = false)
    (hbca : circular bs cs as = false) (hcab : circular cs as bs = false)
    (hab : (compareLists as bs).isLE) (hbc : (compareLists bs cs).isLE) :
    (compareLists as cs).isLE := by
  induction as generalizing bs cs with
  | nil => cases cs <;> rfl
  | cons a as ih =>
      cases bs with
      | nil => cases hab
      | cons b bs =>
          cases cs with
          | nil => cases hbc
          | cons c cs =>
              rw [circular] at habc hbca hcab
              by_cases hsame : value a = value b ∧ value b = value c
              · obtain ⟨hvab, hvbc⟩ := hsame
                have hvca := (hvab.trans hvbc).symm
                rw [if_pos ⟨hvab, hvbc⟩] at habc
                rw [if_pos ⟨hvbc, hvca⟩] at hbca
                rw [if_pos ⟨hvca, hvab⟩] at hcab
                simp only [compareLists, compareSegments_eq_eq_iff.mpr hvab,
                  compareSegments_eq_eq_iff.mpr hvbc,
                  compareSegments_eq_eq_iff.mpr (hvab.trans hvbc), Ordering.eq_then] at *
                exact ih habc hbca hcab hab hbc
              · have hbca' : ¬(value b = value c ∧ value c = value a) :=
                  fun h => hsame ⟨(h.1.trans h.2).symm, h.1⟩
                have hcab' : ¬(value c = value a ∧ value a = value b) :=
                  fun h => hsame ⟨h.2, (h.1.trans h.2).symm⟩
                rw [if_neg hsame] at habc
                rw [if_neg hbca', hab, Bool.and_true] at hbca
                rw [if_neg hcab', hbc, Bool.and_true] at hcab
                rcases compareSegments_lt_or_between
                  (Ordering.isLE_left_of_isLE_then hab) (Ordering.isLE_left_of_isLE_then hbc)
                  (by simpa only [compareSegments_eq_eq_iff] using hsame) with
                  hlt | hmid | hlast | hfirst
                · rw [compareLists, hlt]
                  rfl
                · rw [hmid, Bool.true_and, Ordering.isLE_eq_false] at habc
                  rw [compareLists_swap, habc]
                  rfl
                · cases hlast.symm.trans hbca
                · cases hfirst.symm.trans hcab

theorem compareLists_of_circular (h : circular as bs cs = true) :
    compareLists as bs = .lt ∧ compareLists bs cs = .lt ∧ (compareLists cs as).isLE := by
  induction as generalizing bs cs with
  | nil => cases h
  | cons a as ih =>
      cases bs with
      | nil => cases h
      | cons b bs =>
          cases cs with
          | nil => cases h
          | cons c cs =>
              rw [circular] at h
              split at h
              · next hsame =>
                  obtain ⟨hvab, hvbc⟩ := hsame
                  simp only [compareLists, compareSegments_eq_eq_iff.mpr hvab,
                    compareSegments_eq_eq_iff.mpr hvbc,
                    compareSegments_eq_eq_iff.mpr (hvab.trans hvbc).symm, Ordering.eq_then]
                  exact ih h
              · obtain ⟨hbetween, hle⟩ := Bool.and_eq_true_iff.mp h
                obtain ⟨-, hb, -, hab, hbc⟩ := between_iff.mp hbetween
                rw [compareLists, compareLists, compareSegments_text_right hb,
                  compareSegments_text_left hb, hab, hbc]
                exact ⟨rfl, rfl, hle⟩

end Lists

def Circular (a b c : String) : Prop :=
  circular (segments a) (segments b) (segments c) = true

instance (a b c : String) : Decidable (Circular a b c) :=
  inferInstanceAs (Decidable (circular (segments a) (segments b) (segments c) = true))

theorem compare_preorder_unless_circular :
    (∀ a b, compare a b = (compare b a).swap) ∧
    (∀ a b c, ¬Circular a b c → ¬Circular b c a → ¬Circular c a b →
      compare a b ≠ .gt → compare b c ≠ .gt → compare a c ≠ .gt) ∧
    ∀ a b c, Circular a b c → compare a b = .lt ∧ compare b c = .lt ∧ compare c a ≠ .gt := by
  refine ⟨compare_swap, ?_, ?_⟩
  · intro a b c habc hbca hcab hab hbc
    rw [ne_eq, Ordering.ne_gt_iff_isLE] at *
    exact compareLists_isLE_trans (Bool.eq_false_iff.mpr habc) (Bool.eq_false_iff.mpr hbca)
      (Bool.eq_false_iff.mpr hcab) hab hbc
  · intro a b c h
    obtain ⟨hab, hbc, hca⟩ := compareLists_of_circular h
    exact ⟨hab, hbc, Ordering.ne_gt_iff_isLE.mpr hca⟩

theorem compare_preorder_unless_circular_mixed :
    ((¬Circular "2.9" "2.10" "2.x" ∧ ¬Circular "2.10" "2.x" "2.9" ∧ ¬Circular "2.x" "2.9" "2.10" ∧
      compare "2.9" "2.10" ≠ .gt ∧ compare "2.10" "2.x" ≠ .gt) ∧ compare "2.9" "2.x" ≠ .gt) ∧
    Circular "2.10" "2.1a" "2.9" ∧ compare "2.10" "2.1a" = .lt ∧ compare "2.1a" "2.9" = .lt ∧
      compare "2.9" "2.10" ≠ .gt := by
  have hmixed : ¬Circular "2.9" "2.10" "2.x" ∧ ¬Circular "2.10" "2.x" "2.9" ∧
      ¬Circular "2.x" "2.9" "2.10" ∧ compare "2.9" "2.10" ≠ .gt ∧
      compare "2.10" "2.x" ≠ .gt := by
    decide +kernel
  have hcircular : Circular "2.10" "2.1a" "2.9" := by decide +kernel
  obtain ⟨-, htrans, hcycle⟩ := compare_preorder_unless_circular
  obtain ⟨habc, hbca, hcab, hab, hbc⟩ := hmixed
  exact ⟨⟨⟨habc, hbca, hcab, hab, hbc⟩, htrans _ _ _ habc hbca hcab hab hbc⟩, hcircular,
    hcycle _ _ _ hcircular⟩

theorem compare_cycle :
    compare "10" "1a" = .lt ∧ compare "1a" "9" = .lt ∧ compare "10" "9" = .gt := by
  decide +kernel

end Gateway.RuleId
