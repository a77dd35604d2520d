import Gateway.Snapshot.Basic
import Mathlib.Data.List.Forall2
import Mathlib.Data.List.Perm.Basic

namespace Gateway

theorem forall₂_map_of {α β : Type} {R : α → β → Prop} {f : α → β} {xs : List α}
    (h : ∀ x ∈ xs, R x (f x)) : List.Forall₂ R xs (xs.map f) := by
  rw [List.forall₂_map_right_iff, List.forall₂_same]
  exact h

theorem forall₂_map_map {α β γ δ : Type} {R : α → β → Prop} {S : γ → δ → Prop} {f : α → γ}
    {g : β → δ} {xs : List α} {ys : List β} (hf : ∀ x y, R x y → S (f x) (g y))
    (h : List.Forall₂ R xs ys) : List.Forall₂ S (xs.map f) (ys.map g) := by
  rw [List.forall₂_map_left_iff, List.forall₂_map_right_iff]
  exact h.imp hf

def Shuffled {α : Type} (R : α → α → Prop) (xs ys : List α) : Prop :=
  ∃ zs, xs.Perm zs ∧ List.Forall₂ R zs ys

namespace Shuffled

variable {α β : Type} {R : α → α → Prop} {xs ys : List α}

theorem refl (h : ∀ x, R x x) (xs : List α) : Shuffled R xs xs :=
  ⟨xs, List.Perm.refl xs, List.forall₂_same.mpr fun x _ => h x⟩

theorem map {S : β → β → Prop} {f : α → β} (h : Shuffled R xs ys)
    (hf : ∀ x y, R x y → S (f x) (f y)) : Shuffled S (xs.map f) (ys.map f) := by
  obtain ⟨zs, hperm, hrel⟩ := h
  exact ⟨zs.map f, hperm.map f, forall₂_map_map hf hrel⟩

theorem perm_map {f : α → β} (h : Shuffled R xs ys) (hf : ∀ x y, R x y → f x = f y) :
    (xs.map f).Perm (ys.map f) := by
  obtain ⟨zs, hperm, hrel⟩ := h.map hf
  rw [List.forall₂_eq_eq_eq] at hrel
  exact hrel ▸ hperm

theorem any_eq {p : α → Bool} (h : Shuffled R xs ys) (hp : ∀ x y, R x y → p x = p y) :
    xs.any p = ys.any p := by
  have hverdicts := (h.perm_map hp).any_eq (f := id)
  simpa only [List.any_map, Function.id_comp] using hverdicts

theorem all_eq {p : α → Bool} (h : Shuffled R xs ys) (hp : ∀ x y, R x y → p x = p y) :
    xs.all p = ys.all p := by
  have hverdicts := (h.perm_map hp).all_eq (f := id)
  simpa only [List.all_map, Function.id_comp] using hverdicts

theorem countP_eq {p : α → Bool} (h : Shuffled R xs ys) (hp : ∀ x y, R x y → p x = p y) :
    xs.countP p = ys.countP p := by
  have hverdicts := (h.perm_map hp).countP_eq id
  simpa only [List.countP_map, Function.id_comp] using hverdicts

theorem length_eq (h : Shuffled R xs ys) : xs.length = ys.length := by
  have hunits := (h.perm_map (f := fun _ => ()) fun _ _ _ => rfl).length_eq
  simpa only [List.length_map] using hunits

end Shuffled

namespace Snapshot

structure Agent.Rearranged (a b : Agent) : Prop where
  flags : a.flags = b.flags
  backends : a.backends.Perm b.backends
  components : a.components = b.components

structure Endpoint.Rearranged (d e : Endpoint) : Prop where
  flags : d.flags = e.flags
  backends : d.backends.Perm e.backends
  components : d.components = e.components

structure SameService (s t : Snapshot) : Prop where
  flags : s.flags = t.flags
  agents : Shuffled Agent.Rearranged s.agents t.agents
  components : s.components = t.components

structure Rearranged (s t : Snapshot) : Prop extends SameService s t where
  endpoints : Shuffled Endpoint.Rearranged s.endpoints t.endpoints

theorem Agent.Rearranged.refl (a : Agent) : a.Rearranged a :=
  ⟨rfl, List.Perm.refl a.backends, rfl⟩

theorem SameService.any_agentBackends {s t : Snapshot} (h : s.SameService t)
    (p : Backend → Bool) :
    (s.agents.any fun a => a.backends.any p) = t.agents.any fun a => a.backends.any p :=
  h.agents.any_eq fun _ _ hab => hab.backends.any_eq

def withEndpoints (s : Snapshot) (es : List Endpoint) : Snapshot :=
  { s with endpoints := es }

theorem sameService_withEndpoints (s : Snapshot) (es fs : List Endpoint) :
    (s.withEndpoints es).SameService (s.withEndpoints fs) where
  flags := rfl
  agents := Shuffled.refl Agent.Rearranged.refl s.agents
  components := rfl

end Snapshot

end Gateway
