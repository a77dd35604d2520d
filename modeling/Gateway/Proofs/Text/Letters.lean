import Gateway.Text.Basic

namespace Gateway.Text

theorem toUpper_cases (c : Char) :
    c.toUpper = c ∧ c.isLower = false ∨ ∃ n < 26, c = Char.ofNat (97 + n) := by
  by_cases h : 'a'.val ≤ c.val ∧ c.val ≤ 'z'.val
  · refine .inr ⟨c.toNat - 97, ?_, ?_⟩
    · have hhigh : c.toNat ≤ 122 := UInt32.le_iff_toNat_le.mp h.2
      omega
    · have hlow : 97 ≤ c.toNat := UInt32.le_iff_toNat_le.mp h.1
      rw [Nat.add_sub_cancel' hlow, Char.ofNat_toNat]
  · refine .inl ⟨dif_neg h, ?_⟩
    change (decide (c.val ≥ 'a'.val) && decide (c.val ≤ 'z'.val)) = false
    rw [← Bool.decide_and, decide_eq_false h]

theorem toUpper_toUpper (c : Char) : c.toUpper.toUpper = c.toUpper := by
  rcases toUpper_cases c with ⟨h, -⟩ | ⟨n, hn, rfl⟩
  · rw [h, h]
  · revert n
    decide

theorem toLower_toUpper (c : Char) : c.toUpper.toLower = c.toLower := by
  rcases toUpper_cases c with ⟨h, -⟩ | ⟨n, hn, rfl⟩
  · rw [h]
  · revert n
    decide

theorem isLower_toUpper (c : Char) : c.toUpper.isLower = false := by
  rcases toUpper_cases c with ⟨h, hlower⟩ | ⟨n, hn, rfl⟩
  · rw [h, hlower]
  · revert n
    decide

theorem isBlank_toUpper (c : Char) : isBlank c.toUpper = isBlank c := by
  rcases toUpper_cases c with ⟨h, -⟩ | ⟨n, hn, rfl⟩
  · rw [h]
  · revert n
    decide

theorem trimmed_map_toUpper (cs : List Char) :
    trimmed (cs.map Char.toUpper) = (trimmed cs).map Char.toUpper := by
  have hblank : isBlank ∘ Char.toUpper = isBlank := funext isBlank_toUpper
  simp only [trimmed, List.dropWhile_map, ← List.map_reverse, hblank]

theorem upper_upper (s : String) : upper (upper s) = upper s := by
  have h : Char.toUpper ∘ Char.toUpper = Char.toUpper := funext toUpper_toUpper
  simp only [upper, String.toList_ofList, List.map_map, h]

theorem trim_upper (s : String) : trim (upper s) = upper (trim s) := by
  simp only [trim, upper, String.toList_ofList, trimmed_map_toUpper]

theorem upper_eq_empty_iff (s : String) : upper s = "" ↔ s = "" := by
  simp [upper]

theorem isLower_of_mem_upper (s : String) : ∀ c ∈ (upper s).toList, c.isLower = false := by
  intro c hc
  rw [upper, String.toList_ofList] at hc
  obtain ⟨d, -, rfl⟩ := List.mem_map.mp hc
  exact isLower_toUpper d

theorem sameLetters_refl (s : String) : sameLetters s s = true :=
  (sameLetters_iff s s).mpr rfl

theorem sameLetters_upper (a b : String) : sameLetters (upper a) b = sameLetters a b := by
  have h : Char.toLower ∘ Char.toUpper = Char.toLower := funext toLower_toUpper
  simp only [sameLetters, upper, String.toList_ofList, List.map_map, h]

end Gateway.Text
