import Gateway.Datum.Value

namespace Gateway

section Except

variable {ε ε' α β : Type} {x : Except ε α}

theorem bind_eq_ok_iff {f : α → Except ε β} {b : β} :
    x >>= f = .ok b ↔ ∃ a, x = .ok a ∧ f a = .ok b := by
  cases x with
  | error e =>
      constructor
      · intro h
        cases h
      · rintro ⟨a, ha, -⟩
        cases ha
  | ok a =>
      constructor
      · intro h
        exact ⟨a, rfl, h⟩
      · rintro ⟨c, hc, h⟩
        rw [Except.ok.inj hc]
        exact h

theorem map_eq_ok_iff {f : α → β} {b : β} : x.map f = .ok b ↔ ∃ a, x = .ok a ∧ f a = b := by
  have h : x.map f = x >>= fun a => .ok (f a) := by
    cases x with
    | error e => rfl
    | ok a => rfl
  simp only [h, bind_eq_ok_iff, Except.ok.injEq]

theorem mapError_eq_ok_iff {f : ε → ε'} {a : α} : x.mapError f = .ok a ↔ x = .ok a := by
  cases x with
  | error e =>
      constructor
      · intro h
        cases h
      · intro h
        cases h
  | ok b => exact ⟨fun h => congrArg _ (Except.ok.inj h), fun h => congrArg _ (Except.ok.inj h)⟩

end Except

namespace Datum

theorem readInt64_ofInt64 (i : Int64) : readInt64 (ofValue (.ofInt64 i)) = .ok i := by
  have hlow := Int64.minValue_le_toInt i
  have hhigh := Int64.le_iff_toInt_le.mp i.le_maxValue
  rw [Json.Value.ofInt64, ofValue, readInt64, readInt, if_pos ⟨hlow, hhigh⟩]
  exact congrArg Except.ok i.ofInt_toInt

end Datum

namespace Layout

variable {σ α : Type} {fields : List (Field σ)} {seen : List String} {s s' : σ}

theorem readMembers_cons_field {f : Field σ} {k : String} {d : Datum}
    {ms : List (Option String × Datum)} (hfind : fields.find? (·.name == k) = some f)
    (hseen : k ∉ seen) (hread : f.read d s = .ok s') :
    readMembers fields ((some k, d) :: ms) seen s = readMembers fields ms (k :: seen) s' := by
  have hcontains : seen.contains k = false := by simpa using hseen
  rw [readMembers]
  simp only [Datum.readKey, hfind, hcontains, hread, bind, Except.bind]
  rfl

theorem of_find? {f : Field σ} {k : String} (h : fields.find? (·.name == k) = some f) :
    f ∈ fields ∧ f.name = k :=
  ⟨List.mem_of_find?_eq_some h, by simpa using List.find?_some h⟩

theorem readMembers_cons_other {ms : List (Option String × Datum)} {k : String} {d : Datum}
    {seen : List String} {s : σ} (hfind : fields.find? (·.name == k) = none)
    (hd : d.isComplete = true) :
    readMembers fields ((some k, d) :: ms) seen s = readMembers fields ms seen s := by
  rw [readMembers]
  simp only [Datum.readKey, hfind, hd, bind, Except.bind]
  rfl

theorem readMembers_cons_eq_ok_iff {f : Field σ} {ms : List (Option String × Datum)} {k : String}
    {d : Datum} {seen : List String} {s : σ} {r : List String × σ}
    (hfind : fields.find? (·.name == k) = some f) :
    readMembers fields ((some k, d) :: ms) seen s = .ok r ↔
      k ∉ seen ∧ ∃ s', f.read d s = .ok s' ∧ readMembers fields ms (k :: seen) s' = .ok r := by
  rw [← bind_eq_ok_iff, readMembers]
  by_cases hk : k ∈ seen
  · simp [Datum.readKey, hfind, hk, bind, Except.bind]
  · simp [Datum.readKey, hfind, hk, bind, Except.bind]

theorem exists_of_read_record {layout : Layout σ} {ms : List (Option String × Datum)}
    {closed : Bool} (h : layout.read (.record ms closed) = .ok s) :
    ∃ seen, readMembers layout.fields ms [] layout.start = .ok (seen, s) := by
  obtain ⟨⟨seen, t⟩, ht, h⟩ := bind_eq_ok_iff.mp h
  dsimp only at h
  split at h
  · cases h
  · split at h
    · cases h
    · obtain rfl := Except.ok.inj h
      exact ⟨seen, ht⟩

theorem read_record {layout : Layout σ} {ms : List (Option String × Datum)}
    (hrequired : layout.required = false)
    (h : readMembers layout.fields ms [] layout.start = .ok (seen, s)) :
    layout.read (.record ms true) = .ok s := by
  rw [read, h, hrequired]
  rfl

theorem read_record_of_full {layout : Layout σ} {ms : List (Option String × Datum)}
    (h : readMembers layout.fields ms [] layout.start = .ok (seen, s))
    (hfull : seen.length = layout.fields.length) : layout.read (.record ms true) = .ok s := by
  have hlacking : ¬ seen.length < layout.fields.length := by omega
  rw [read, h]
  simp [bind, Except.bind, pure, Except.pure, hlacking]

end Layout

end Gateway
