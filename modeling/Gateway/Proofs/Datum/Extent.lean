import Gateway.Proofs.Datum.Reader

namespace Gateway

namespace Datum

mutual

def Within (n : Nat) : Datum → Prop
  | .deep d => Within n d
  | .list items _ => items.length ≤ n ∧ ItemsWithin n items
  | .record members _ => MembersWithin n members
  | .broken | .null | .bool _ | .number _ | .text _ => True

def ItemsWithin (n : Nat) : List Datum → Prop
  | [] => True
  | d :: ds => Within n d ∧ ItemsWithin n ds

def MembersWithin (n : Nat) : List (Option String × Datum) → Prop
  | [] => True
  | (_, d) :: ms => Within n d ∧ MembersWithin n ms

end

section Lists

variable {α : Type} {read : Reader α} {n : Nat} {P : α → Prop}

theorem readEach_induct (hread : ∀ d x, d.Within n → read d = .ok x → P x) {ds : List Datum}
    (hds : ItemsWithin n ds) {xs : List α} (h : readEach read ds = .ok xs) :
    xs.length = ds.length ∧ ∀ x ∈ xs, P x := by
  induction ds generalizing xs with
  | nil =>
      obtain rfl := Except.ok.inj h
      exact ⟨rfl, by simp⟩
  | cons d ds ih =>
      obtain ⟨x, hx, h⟩ := bind_eq_ok_iff.mp h
      obtain ⟨xs, hxs, h⟩ := bind_eq_ok_iff.mp h
      obtain rfl := Except.ok.inj h
      obtain ⟨hlength, hall⟩ := ih hds.2 hxs
      refine ⟨congrArg (· + 1) hlength, ?_⟩
      intro y hy
      rcases List.mem_cons.mp hy with rfl | hy
      · exact hread d y hds.1 hx
      · exact hall y hy

theorem readList_induct (hread : ∀ d x, d.Within n → read d = .ok x → P x) {d : Datum}
    (hd : d.Within n) {xs : List α} (h : readList read d = .ok xs) :
    xs.length ≤ n ∧ ∀ x ∈ xs, P x := by
  cases d with
  | list items closing =>
      obtain ⟨ys, hys, h⟩ := bind_eq_ok_iff.mp h
      split at h
      · cases h
      · obtain rfl := Except.ok.inj h
        obtain ⟨hlength, hall⟩ := readEach_induct hread hd.2 hys
        exact ⟨hlength ▸ hd.1, hall⟩
  | _ => cases h

end Lists

end Datum

namespace Layout

variable {σ : Type} {n : Nat} {P : σ → Prop}

def Keeps (n : Nat) (P : σ → Prop) (f : Field σ) : Prop :=
  ∀ d s s', d.Within n → P s → f.read d s = .ok s' → P s'

theorem keeps_of {α : Type} {name : String} {read : Reader α} {put : α → σ → σ}
    (h : ∀ d x s, d.Within n → read d = .ok x → P s → P (put x s)) :
    Keeps n P (.of name read put) := by
  intro d s s' hd hs hread
  obtain ⟨x, hx, rfl⟩ := map_eq_ok_iff.mp hread
  exact h d x s hd hx hs

theorem readMembers_induct {fields : List (Field σ)} (hfields : ∀ f ∈ fields, Keeps n P f)
    {ms : List (Option String × Datum)} (hms : Datum.MembersWithin n ms)
    {seen seen' : List String} {s s' : σ} (hs : P s)
    (h : readMembers fields ms seen s = .ok (seen', s')) : P s' := by
  induction ms generalizing seen s with
  | nil =>
      obtain ⟨rfl, rfl⟩ := Prod.mk.inj (Except.ok.inj h)
      exact hs
  | cons m ms ih =>
      obtain ⟨k, -, h⟩ := bind_eq_ok_iff.mp h
      split at h
      · split at h
        · exact ih hms.2 hs h
        · cases h
      · next f hf =>
          split at h
          · cases h
          · obtain ⟨t, ht, h⟩ := bind_eq_ok_iff.mp h
            have hkeeps := hfields f (List.mem_of_find?_eq_some hf)
            exact ih hms.2 (hkeeps _ _ _ hms.1 hs ht) h

theorem readItems_induct {fields : List (Field σ)} (hfields : ∀ f ∈ fields, Keeps n P f)
    {ds : List Datum} (hds : Datum.ItemsWithin n ds) {lacking : Nat} {surplus : Bool} {s s' : σ}
    (hs : P s) (h : readItems fields ds s = .ok (lacking, surplus, s')) : P s' := by
  induction ds generalizing fields s with
  | nil =>
      cases fields with
      | nil | cons =>
          obtain ⟨-, h⟩ := Prod.mk.inj (Except.ok.inj h)
          obtain ⟨-, rfl⟩ := Prod.mk.inj h
          exact hs
  | cons d ds ih =>
      cases fields with
      | nil =>
          obtain ⟨-, h⟩ := Prod.mk.inj (Except.ok.inj h)
          obtain ⟨-, rfl⟩ := Prod.mk.inj h
          exact hs
      | cons f fs =>
          obtain ⟨t, ht, h⟩ := bind_eq_ok_iff.mp h
          have ht := hfields f List.mem_cons_self _ _ _ hds.1 hs ht
          exact ih (fun g hg => hfields g (List.mem_cons_of_mem f hg)) hds.2 ht h

theorem read_induct {layout : Layout σ} (hstart : P layout.start)
    (hfields : ∀ f ∈ layout.fields, Keeps n P f) {d : Datum} (hd : d.Within n) {s : σ}
    (h : layout.read d = .ok s) : P s := by
  cases d with
  | record members closed =>
      obtain ⟨seen, hs⟩ := exists_of_read_record h
      exact readMembers_induct hfields hd hstart hs
  | list items closing =>
      obtain ⟨⟨lacking, surplus, t⟩, ht, h⟩ := bind_eq_ok_iff.mp h
      have ht := readItems_induct hfields hd.2 hstart ht
      dsimp only at h
      split at h
      · cases h
      · split at h
        · cases h
        · obtain rfl := Except.ok.inj h
          exact ht
  | _ => cases h

end Layout

end Gateway
