import Gateway.Proofs.Snapshot.Alias
import Gateway.Proofs.Snapshot.Rearranged
import Mathlib.Data.List.Nodup
import Mathlib.Data.List.ProdSigma

namespace Gateway.Snapshot

namespace Renaming

variable (r : Renaming) (m : Components)

def newName (k : String) : String :=
  (r.target k).getD k

def clashes : List String :=
  m.keys.filter fun k => (r.target k).any m.contains

def unclashed : List String :=
  m.keys.filter fun k => !(r.target k).any m.contains

theorem target_injective {a b c : String} (ha : r.target a = some c) (hb : r.target b = some c) :
    a = b := by
  have hsource := ((r.target_iff a c).mp ha).symm.trans ((r.target_iff b c).mp hb)
  exact Option.some.inj hsource

theorem newName_eq_iff {j k : String} :
    r.newName j = k ↔ r.target j = some k ∨ (r.target j = none ∧ j = k) := by
  cases h : r.target j <;> simp [newName, h]

theorem mem_unclashed_iff {j : String} :
    j ∈ r.unclashed m ↔
      m.contains j = true ∧ ∀ b, r.target j = some b → m.contains b = false := by
  cases h : r.target j <;> simp [unclashed, KeyMap.mem_keys_iff, h]

theorem newName_injOn_unclashed {j k : String} (hj : j ∈ r.unclashed m) (hk : k ∈ r.unclashed m)
    (h : r.newName j = r.newName k) : j = k := by
  rw [mem_unclashed_iff] at hj hk
  rcases r.newName_eq_iff.mp h with hjt | ⟨-, hjn⟩
  · rcases r.newName_eq_iff.mp (Eq.refl (r.newName k)) with hkt | ⟨-, hkn⟩
    · exact r.target_injective hjt hkt
    · rw [← hkn] at hjt
      cases (hj.2 k hjt).symm.trans hk.1
  · rcases r.newName_eq_iff.mp (Eq.refl (r.newName k)) with hkt | ⟨-, hkn⟩
    · rw [← hjn] at hkt
      cases (hk.2 j hkt).symm.trans hj.1
    · exact hjn.trans hkn.symm

theorem contains_apply_iff {k : String} :
    (r.apply m).contains k = true ↔
      (∃ a, r.target a = some k ∧ m.contains a = true) ∨
        (r.target k = none ∧ m.contains k = true) := by
  simp only [KeyMap.contains, get?_apply, Option.isSome_or, Bool.or_eq_true, r.target_iff _ k]
  refine or_congr ?_ ?_
  · cases r.source k <;> simp
  · cases r.target k <;> simp

theorem mem_keys_apply_iff {k : String} :
    k ∈ (r.apply m).keys ↔ k ∈ (r.unclashed m).map r.newName := by
  rw [KeyMap.mem_keys_iff, contains_apply_iff, List.mem_map]
  constructor
  · rintro (⟨a, ha, hold⟩ | ⟨hk, hkept⟩)
    · have hk : r.target k = none := r.disjoint a k ha
      cases hboth : m.contains k with
      | true =>
          refine ⟨k, (r.mem_unclashed_iff m).mpr ⟨hboth, fun b hb => ?_⟩,
            r.newName_eq_iff.mpr (.inr ⟨hk, rfl⟩)⟩
          cases hk.symm.trans hb
      | false =>
          refine ⟨a, (r.mem_unclashed_iff m).mpr ⟨hold, fun b hb => ?_⟩,
            r.newName_eq_iff.mpr (.inl ha)⟩
          cases ha.symm.trans hb
          exact hboth
    · refine ⟨k, (r.mem_unclashed_iff m).mpr ⟨hkept, fun b hb => ?_⟩,
        r.newName_eq_iff.mpr (.inr ⟨hk, rfl⟩)⟩
      cases hk.symm.trans hb
  · rintro ⟨j, hj, hjk⟩
    have hold := ((r.mem_unclashed_iff m).mp hj).1
    rcases r.newName_eq_iff.mp hjk with hjt | ⟨hjt, rfl⟩
    · exact .inl ⟨j, hjt, hold⟩
    · exact .inr ⟨hjt, hold⟩

theorem keys_apply_perm : (r.apply m).keys.Perm ((r.unclashed m).map r.newName) := by
  have hnodup : ((r.unclashed m).map r.newName).Nodup :=
    (m.nodup_keys.filter _).map_on fun _ hj _ hk h => r.newName_injOn_unclashed m hj hk h
  refine (List.perm_ext_iff_of_nodup (r.apply m).nodup_keys hnodup).mpr ?_
  exact fun _ => r.mem_keys_apply_iff m

theorem size_apply : (r.apply m).size + (r.clashes m).length = m.size := by
  calc (r.apply m).size + (r.clashes m).length
      = (r.unclashed m).length + (r.clashes m).length := by
        rw [← KeyMap.length_keys, (r.keys_apply_perm m).length_eq, List.length_map]
    _ = m.keys.length := by
        rw [Nat.add_comm]
        exact (List.length_eq_length_filter_add _).symm
    _ = m.size := m.length_keys

end Renaming

structure Exchanged (pairs : List (String × String)) (m n : Components) : Prop where
  replaced : ∀ old new, (old, new) ∈ pairs → m.contains old = true → n.get? new = m.get? old
  kept : ∀ k, (∀ old, (old, k) ∈ pairs → m.contains old = false) → k ∉ pairs.map (·.1) →
    n.get? k = m.get? k
  removed : ∀ k, (∀ old, (old, k) ∈ pairs → m.contains old = false) → k ∈ pairs.map (·.1) →
    n.get? k = none
  size : n.size + (m.keys.filter fun old =>
    ∃ pair ∈ pairs, pair.1 = old ∧ m.contains pair.2 = true).length = m.size

section Exchange

variable {pairs : List (String × String)} {r : Renaming}

theorem Renaming.any_target_iff (h : ∀ a b, r.target a = some b ↔ (a, b) ∈ pairs)
    (m : Components) (k : String) : (r.target k).any m.contains = true ↔
      ∃ pair ∈ pairs, pair.1 = k ∧ m.contains pair.2 = true := by
  rw [Option.any_eq_true]
  constructor
  · rintro ⟨b, hb, hcontains⟩
    exact ⟨(k, b), (h k b).mp hb, rfl, hcontains⟩
  · rintro ⟨⟨a, b⟩, hmem, rfl, hcontains⟩
    exact ⟨b, (h a b).mpr hmem, hcontains⟩

theorem Renaming.exchanged_apply (h : ∀ a b, r.target a = some b ↔ (a, b) ∈ pairs)
    (m : Components) : Exchanged pairs m (r.apply m) where
  replaced old new hmem hold := by
    obtain ⟨v, hv⟩ := Option.isSome_iff_exists.mp hold
    rw [r.get?_apply_replacement m ((h old new).mpr hmem), hv, Option.some_or]
  kept k hfree hk := by
    have ht : r.target k = none := by
      refine Option.eq_none_iff_forall_ne_some.mpr fun b hb => hk ?_
      exact List.mem_map_of_mem ((h k b).mp hb)
    cases hs : r.source k with
    | none => exact r.get?_apply_other m ht hs
    | some a =>
        have ha : r.target a = some k := (r.target_iff a k).mpr hs
        rw [r.get?_apply_replacement m ha,
          KeyMap.contains_eq_false_iff.mp (hfree a ((h a k).mp ha)), Option.none_or]
  removed k _ hk := by
    obtain ⟨⟨a, b⟩, hmem, rfl⟩ := List.mem_map.mp hk
    exact r.get?_apply_replaced m ((h a b).mpr hmem)
  size := by
    rw [← r.size_apply m, Renaming.clashes]
    congr 3
    funext k
    rw [Bool.eq_iff_iff, decide_eq_true_iff, any_target_iff h]

end Exchange

structure Backend.Remapped (f : Components → Components) (b c : Backend) : Prop where
  flags : c.flags = b.flags
  components : c.components = f b.components

structure Agent.Remapped (f : Components → Components) (a b : Agent) : Prop where
  flags : b.flags = a.flags
  backends : List.Forall₂ (Backend.Remapped f) a.backends b.backends
  components : b.components = f a.components

structure Endpoint.Remapped (f : Components → Components) (d e : Endpoint) : Prop where
  flags : e.flags = d.flags
  backends : List.Forall₂ (Backend.Remapped f) d.backends e.backends
  components : e.components = f d.components

structure Remapped (f : Components → Components) (s t : Snapshot) : Prop where
  flags : t.flags = s.flags
  agents : List.Forall₂ (Agent.Remapped f) s.agents t.agents
  endpoints : List.Forall₂ (Endpoint.Remapped f) s.endpoints t.endpoints
  components : t.components = f s.components

section Remap

variable (f : Components → Components)

theorem Backend.remapped_mapComponents (b : Backend) : b.Remapped f (b.mapComponents f) :=
  ⟨rfl, rfl⟩

theorem Agent.remapped_mapComponents (a : Agent) : a.Remapped f (a.mapComponents f) :=
  ⟨rfl, forall₂_map_of fun b _ => b.remapped_mapComponents f, rfl⟩

theorem Endpoint.remapped_mapComponents (e : Endpoint) : e.Remapped f (e.mapComponents f) :=
  ⟨rfl, forall₂_map_of fun b _ => b.remapped_mapComponents f, rfl⟩

theorem remapped_mapComponents (s : Snapshot) : s.Remapped f (s.mapComponents f) where
  flags := rfl
  agents := forall₂_map_of fun a _ => a.remapped_mapComponents f
  endpoints := forall₂_map_of fun e _ => e.remapped_mapComponents f
  components := rfl

end Remap

open AliasTable (standard standard_lawful code?_eq_some_iff namespace?_eq_some_iff)

theorem exchanged_shorten (m : Components) : Exchanged standard m (shorten m) :=
  (standard.toRenaming standard_lawful).exchanged_apply
    (fun _ _ => code?_eq_some_iff standard_lawful) m

theorem exchanged_expand (m : Components) : Exchanged (standard.map Prod.swap) m (expand m) := by
  refine (standard.toRenaming standard_lawful).symm.exchanged_apply (fun code ns => ?_) m
  exact (namespace?_eq_some_iff standard_lawful).trans (List.mem_map_swap ns code standard).symm

theorem renaming_exact :
    (∀ m : Components, Exchanged standard m (shorten m) ∧
      Exchanged (standard.map Prod.swap) m (expand m)) ∧
    ∀ (f : Components → Components) (s : Snapshot), s.Remapped f (s.mapComponents f) :=
  ⟨fun m => ⟨exchanged_shorten m, exchanged_expand m⟩, remapped_mapComponents⟩

end Gateway.Snapshot
