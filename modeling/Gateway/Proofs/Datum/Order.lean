import Gateway.Proofs.Datum.Reader
import Mathlib.Data.List.Pairwise

namespace Gateway

def Field.Commute {σ : Type} (f g : Field σ) : Prop :=
  ∀ d e s t, (f.read d s >>= g.read e) = .ok t ↔ (g.read e s >>= f.read d) = .ok t

instance {σ : Type} : Std.Symm (Field.Commute (σ := σ)) where
  symm _ _ h d e s t := (h e d s t).symm

theorem Field.commute_of {σ α β : Type} {name name' : String} {read : Reader α}
    {read' : Reader β} {put : α → σ → σ} {put' : β → σ → σ}
    (h : ∀ x y s, put' y (put x s) = put x (put' y s)) :
    Field.Commute (.of name read put) (.of name' read' put') := by
  intro d e s t
  simp only [bind_eq_ok_iff, Field.of, map_eq_ok_iff]
  constructor
  · rintro ⟨_, ⟨x, hx, rfl⟩, y, hy, rfl⟩
    exact ⟨_, ⟨y, hy, rfl⟩, x, hx, (h x y s).symm⟩
  · rintro ⟨_, ⟨y, hy, rfl⟩, x, hx, rfl⟩
    exact ⟨_, ⟨x, hx, rfl⟩, y, hy, h x y s⟩

namespace Layout

variable {σ : Type} {fields : List (Field σ)} {m n : Option String × Datum}
  {ms ns : List (Option String × Datum)} {seen seen' seen₁ seen₂ : List String} {s t s₁ s₂ : σ}

inductive Meets (fields : List (Field σ)) :
    Option String × Datum → List String → σ → List String → σ → Prop where
  | other {k : String} {d : Datum} {seen : List String} {s : σ} :
      fields.find? (·.name == k) = none → d.isComplete = true →
        Meets fields (some k, d) seen s seen s
  | field {f : Field σ} {k : String} {d : Datum} {seen : List String} {s s' : σ} :
      fields.find? (·.name == k) = some f → k ∉ seen → f.read d s = .ok s' →
        Meets fields (some k, d) seen s (k :: seen) s'

theorem readMembers_cons_ok_iff {r : List String × σ} :
    readMembers fields (m :: ms) seen s = .ok r ↔
      ∃ seen' s', Meets fields m seen s seen' s' ∧ readMembers fields ms seen' s' = .ok r := by
  constructor
  · intro h
    obtain ⟨k | k, d⟩ := m
    · cases h
    · cases hfind : fields.find? (·.name == k) with
      | none =>
          cases hd : d.isComplete with
          | true =>
              rw [readMembers_cons_other hfind hd] at h
              exact ⟨seen, s, .other hfind hd, h⟩
          | false =>
              rw [readMembers] at h
              simp [Datum.readKey, hfind, hd, bind, Except.bind] at h
      | some f =>
          obtain ⟨hk, s', hread, h⟩ := (readMembers_cons_eq_ok_iff hfind).mp h
          exact ⟨k :: seen, s', .field hfind hk hread, h⟩
  · rintro ⟨seen', s', hm, h⟩
    cases hm with
    | other hfind hd => rwa [readMembers_cons_other hfind hd]
    | field hfind hk hread => exact (readMembers_cons_eq_ok_iff hfind).mpr ⟨hk, s', hread, h⟩

theorem Meets.of_perm (hm : Meets fields m seen s seen₁ t) (h : seen.Perm seen') :
    ∃ seen₂, seen₁.Perm seen₂ ∧ Meets fields m seen' s seen₂ t := by
  cases hm with
  | other hfind hd => exact ⟨seen', h, .other hfind hd⟩
  | @field f k d _ _ _ hfind hk hread =>
      exact ⟨k :: seen', h.cons k, .field hfind (mt h.mem_iff.mpr hk) hread⟩

theorem Meets.swap (hfields : fields.Pairwise Field.Commute)
    (hm : Meets fields m seen s seen₁ s₁) (hn : Meets fields n seen₁ s₁ seen₂ t) :
    ∃ seen₃ s₃ seen₄, Meets fields n seen s seen₃ s₃ ∧ Meets fields m seen₃ s₃ seen₄ t ∧
      seen₂.Perm seen₄ := by
  cases hm with
  | other hfind hd =>
      cases hn with
      | other hfind' hd' => exact ⟨_, _, _, .other hfind' hd', .other hfind hd, .refl _⟩
      | field hfind' hk' hread' =>
          exact ⟨_, _, _, .field hfind' hk' hread', .other hfind hd, .refl _⟩
  | @field f k d _ _ _ hfind hk hread =>
      cases hn with
      | other hfind' hd' => exact ⟨_, _, _, .other hfind' hd', .field hfind hk hread, .refl _⟩
      | @field g j e _ _ _ hfind' hj hread' =>
          obtain ⟨hf, hname⟩ := of_find? hfind
          obtain ⟨hg, hname'⟩ := of_find? hfind'
          obtain ⟨hne, hj⟩ := List.ne_and_not_mem_of_not_mem_cons hj
          have hcommute : f.Commute g := hfields.forall hf hg fun h =>
            hne (hname'.symm.trans ((congrArg Field.name h).symm.trans hname))
          obtain ⟨s₃, hread', hread⟩ :=
            bind_eq_ok_iff.mp ((hcommute d e s t).mp (bind_eq_ok_iff.mpr ⟨_, hread, hread'⟩))
          have hk : k ∉ j :: seen := List.not_mem_cons_of_ne_of_not_mem hne.symm hk
          exact ⟨_, _, _, .field hfind' hj hread', .field hfind hk hread, .swap k j seen⟩

theorem readMembers_of_seen_perm {r : List String} (hseen : seen.Perm seen')
    (h : readMembers fields ms seen s = .ok (r, t)) :
    ∃ r', readMembers fields ms seen' s = .ok (r', t) := by
  induction ms generalizing seen seen' s with
  | nil =>
      obtain ⟨rfl, rfl⟩ := Prod.mk.inj (Except.ok.inj h)
      exact ⟨seen', rfl⟩
  | cons m ms ih =>
      obtain ⟨seen₁, s₁, hm, h⟩ := readMembers_cons_ok_iff.mp h
      obtain ⟨seen₂, hperm, hm⟩ := hm.of_perm hseen
      obtain ⟨r', h⟩ := ih hperm h
      exact ⟨r', readMembers_cons_ok_iff.mpr ⟨seen₂, s₁, hm, h⟩⟩

theorem readMembers_of_perm (hfields : fields.Pairwise Field.Commute) (hperm : ms.Perm ns)
    {r : List String} (h : readMembers fields ms seen s = .ok (r, t)) :
    ∃ r', readMembers fields ns seen s = .ok (r', t) := by
  induction hperm generalizing seen s r with
  | nil => exact ⟨r, h⟩
  | cons m _ ih =>
      obtain ⟨seen₁, s₁, hm, h⟩ := readMembers_cons_ok_iff.mp h
      obtain ⟨r', h⟩ := ih h
      exact ⟨r', readMembers_cons_ok_iff.mpr ⟨seen₁, s₁, hm, h⟩⟩
  | swap m n ms =>
      obtain ⟨seen₁, s₁, hn, h⟩ := readMembers_cons_ok_iff.mp h
      obtain ⟨seen₂, s₂, hm, h⟩ := readMembers_cons_ok_iff.mp h
      obtain ⟨seen₃, s₃, seen₄, hm, hn, hseen⟩ := hn.swap hfields hm
      obtain ⟨r', h⟩ := readMembers_of_seen_perm hseen h
      have htail := readMembers_cons_ok_iff.mpr ⟨seen₄, s₂, hn, h⟩
      exact ⟨r', readMembers_cons_ok_iff.mpr ⟨seen₃, s₃, hm, htail⟩⟩
  | trans _ _ ih₁ ih₂ =>
      obtain ⟨r', h⟩ := ih₁ h
      exact ih₂ h

end Layout

end Gateway
