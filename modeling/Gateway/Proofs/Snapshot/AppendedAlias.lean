import Gateway.Proofs.Snapshot.Alias
import Mathlib.Data.List.Nodup

namespace Gateway.Snapshot

namespace Renaming

def Keeps (r : Renaming) (k : String) : Prop :=
  r.target k = none ∧ r.source k = none

structure Joins (r p q : Renaming) : Prop where
  target : ∀ k, r.target k = (p.target k).or (q.target k)
  source : ∀ k, r.source k = (p.source k).or (q.source k)
  apart : ∀ k, p.Keeps k ∨ q.Keeps k

namespace Joins

variable {r p q : Renaming} (h : r.Joins p q)
include h

theorem symm : r.symm.Joins p.symm q.symm where
  target := h.source
  source := h.target
  apart k := (h.apart k).imp And.symm And.symm

theorem comm : r.Joins q p where
  target k := by
    rcases h.apart k with ⟨hk, -⟩ | ⟨hk, -⟩
    · rw [h.target, hk, Option.none_or, Option.or_none]
    · rw [h.target, hk, Option.none_or, Option.or_none]
  source k := by
    rcases h.apart k with ⟨-, hk⟩ | ⟨-, hk⟩
    · rw [h.source, hk, Option.none_or, Option.or_none]
    · rw [h.source, hk, Option.none_or, Option.or_none]
  apart k := (h.apart k).symm

theorem target_left {a b : String} (hab : p.target a = some b) : r.target a = some b := by
  rw [h.target, hab, Option.some_or]

theorem keeps_replacement {a b : String} (hab : p.target a = some b) : q.Keeps b := by
  refine (h.apart b).resolve_left ?_
  rintro ⟨-, hb⟩
  rw [(p.target_iff a b).mp hab] at hb
  cases hb

theorem keeps_replaced {a b : String} (hab : q.target a = some b) : p.Keeps a := by
  refine (h.apart a).resolve_right ?_
  rintro ⟨ha, -⟩
  rw [hab] at ha
  cases ha

theorem apply_eq (m : Components) : r.apply m = q.apply (p.apply m) := by
  apply KeyMap.ext
  intro k
  rcases h.apart k with ⟨ht, hs⟩ | ⟨ht, hs⟩
  · have hsource : (q.source k).bind (p.apply m).get? = (q.source k).bind m.get? := by
      cases hk : q.source k with
      | none => rfl
      | some a =>
          have ha := h.keeps_replaced ((q.target_iff a k).mpr hk)
          exact p.get?_apply_other m ha.1 ha.2
    rw [get?_apply r, get?_apply q, hsource, p.get?_apply_other m ht hs, h.source, h.target, hs, ht,
      Option.none_or, Option.none_or]
  · rw [q.get?_apply_other _ ht hs, get?_apply r, get?_apply p, h.source, h.target, hs, ht,
      Option.or_none, Option.or_none]

theorem avoids_left {m : Components} (hm : r.Avoids m) : p.Avoids m :=
  fun a b hab => hm a b (h.target_left hab)

theorem symm_apply_apply_left {m : Components} (hm : r.Avoids m) :
    r.symm.apply (p.apply m) = m := by
  have hleft : p.symm.apply (p.apply m) = m :=
    (p.symm_apply_apply_eq_iff m).mpr (h.avoids_left hm)
  rw [h.symm.apply_eq, hleft, symm_apply_of_avoids (h.comm.avoids_left hm)]

theorem left_symm_apply_apply {m : Components} (hm : r.Avoids m) :
    p.symm.apply (r.apply m) = q.apply m := by
  have hleft : p.Avoids (q.apply m) := by
    intro a b hab
    have hb := h.keeps_replacement hab
    rw [q.get?_apply_other m hb.1 hb.2, h.avoids_left hm a b hab]
  rw [h.comm.apply_eq]
  exact (p.symm_apply_apply_eq_iff (q.apply m)).mpr hleft

end Joins

end Renaming

namespace AliasTable

variable {older more table : AliasTable}

theorem find?_eq_none_iff {f : String × String → String} {k : String} :
    table.find? (f · == k) = none ↔ k ∉ table.map f := by
  simp only [List.find?_eq_none, beq_iff_eq, List.mem_map, not_exists, not_and]

theorem keeps_toRenaming_iff (h : table.Lawful) {k : String} :
    (table.toRenaming h).Keeps k ↔ k ∉ table.namespaces ∧ k ∉ table.codes :=
  and_congr (Option.map_eq_none_iff.trans find?_eq_none_iff)
    (Option.map_eq_none_iff.trans find?_eq_none_iff)

theorem Lawful.of_sublist (h : table.Lawful) (hsub : List.Sublist older table) :
    older.Lawful where
  codes_nodup := (hsub.map _).nodup h.codes_nodup
  namespaces_nodup := (hsub.map _).nodup h.namespaces_nodup
  disjoint ns hns hcode :=
    h.disjoint ns ((hsub.map _).subset hns) ((hsub.map _).subset hcode)

theorem mem_codes_append {k : String} :
    k ∈ codes (older ++ more) ↔ k ∈ older.codes ∨ k ∈ more.codes := by
  rw [codes, List.map_append, List.mem_append]
  rfl

theorem mem_namespaces_append {k : String} :
    k ∈ namespaces (older ++ more) ↔ k ∈ older.namespaces ∨ k ∈ more.namespaces := by
  rw [namespaces, List.map_append, List.mem_append]
  rfl

section Append

variable (h : Lawful (older ++ more))
include h

theorem Lawful.of_append_left : older.Lawful :=
  h.of_sublist (List.sublist_append_left older more)

theorem Lawful.of_append_right : more.Lawful :=
  h.of_sublist (List.sublist_append_right older more)

theorem keeps_of_append (k : String) :
    (older.toRenaming h.of_append_left).Keeps k ∨ (more.toRenaming h.of_append_right).Keeps k := by
  have hnamespaces : List.Disjoint older.namespaces more.namespaces :=
    List.disjoint_of_nodup_append (List.map_append ▸ h.namespaces_nodup)
  have hcodes : List.Disjoint older.codes more.codes :=
    List.disjoint_of_nodup_append (List.map_append ▸ h.codes_nodup)
  rw [keeps_toRenaming_iff, keeps_toRenaming_iff]
  by_cases hns : k ∈ older.namespaces
  · refine .inr ⟨hnamespaces hns, fun hcode => ?_⟩
    exact h.disjoint k (mem_namespaces_append.mpr (.inl hns)) (mem_codes_append.mpr (.inr hcode))
  · by_cases hcode : k ∈ older.codes
    · refine .inr ⟨fun hns => ?_, hcodes hcode⟩
      exact h.disjoint k (mem_namespaces_append.mpr (.inr hns)) (mem_codes_append.mpr (.inl hcode))
    · exact .inl ⟨hns, hcode⟩

theorem joins_append : (toRenaming (older ++ more) h).Joins
    (older.toRenaming h.of_append_left) (more.toRenaming h.of_append_right) where
  target k := by
    show code? (older ++ more) k = (older.code? k).or (more.code? k)
    rw [code?, code?, code?, List.find?_append, Option.map_or]
  source k := by
    show namespace? (older ++ more) k = (older.namespace? k).or (more.namespace? k)
    rw [namespace?, namespace?, namespace?, List.find?_append, Option.map_or]
  apart := keeps_of_append h

end Append

section Components

variable {m : Components}

theorem expandWith_append_shortenWith (h : Lawful (older ++ more))
    (hm : ∀ code ∈ codes (older ++ more), m.contains code = false) :
    expandWith (older ++ more) (shortenWith older m) = m :=
  (joins_append h).symm_apply_apply_left ((avoids_toRenaming_iff h).mpr hm)

theorem expandWith_shortenWith_append (h : Lawful (older ++ more))
    (hm : ∀ code ∈ codes (older ++ more), m.contains code = false) :
    expandWith older (shortenWith (older ++ more) m) = shortenWith more m :=
  (joins_append h).left_symm_apply_apply ((avoids_toRenaming_iff h).mpr hm)

structure Recoded (table : AliasTable) (m n : Components) : Prop where
  moved : ∀ ns code, (ns, code) ∈ table → n.get? code = m.get? ns ∧ n.get? ns = none
  kept : ∀ k, k ∉ table.namespaces → k ∉ table.codes → n.get? k = m.get? k

theorem recoded_shortenWith (h : table.Lawful)
    (hm : ∀ code ∈ table.codes, m.contains code = false) :
    table.Recoded m (shortenWith table m) where
  moved ns code hmem := by
    have htarget : (table.toRenaming h).target ns = some code := (code?_eq_some_iff h).mpr hmem
    have hcode : m.get? code = none := (avoids_toRenaming_iff h).mpr hm ns code htarget
    rw [← toRenaming_apply h, Renaming.get?_apply_replacement _ m htarget, hcode, Option.or_none]
    exact ⟨rfl, Renaming.get?_apply_replaced _ m htarget⟩
  kept k hns hcode := by
    obtain ⟨ht, hs⟩ := (keeps_toRenaming_iff h).mpr ⟨hns, hcode⟩
    exact Renaming.get?_apply_other _ m ht hs

end Components

end AliasTable

open AliasTable

def CodeFreeFor (table : AliasTable) (s : Snapshot) : Prop :=
  ∀ m ∈ s.allComponents, ∀ code ∈ table.codes, m.contains code = false

theorem appended_codes_compatible {more : AliasTable} {s : Snapshot}
    (hlawful : Lawful (standard ++ more)) (hfree : s.CodeFreeFor (standard ++ more)) :
    (s.mapComponents shorten).mapComponents (expandWith (standard ++ more)) = s ∧
    ∃ f, (s.mapComponents (shortenWith (standard ++ more))).mapComponents expand =
        s.mapComponents f ∧ ∀ m ∈ s.allComponents, more.Recoded m (f m) := by
  constructor
  · rw [mapComponents_mapComponents, mapComponents_eq_self_iff]
    intro m hm
    exact expandWith_append_shortenWith hlawful (hfree m hm)
  · refine ⟨shortenWith more, ?_, fun m hm => ?_⟩
    · rw [mapComponents_mapComponents, mapComponents_eq_iff]
      intro m hm
      exact expandWith_shortenWith_append hlawful (hfree m hm)
    · refine recoded_shortenWith hlawful.of_append_right fun code hcode => ?_
      exact hfree m hm code (mem_codes_append.mpr (.inr hcode))

def quota : AliasTable :=
  [("qos/quota", "13"), ("qos/burst", "14")]

def metered : Snapshot where
  flags := [32]
  agents := [{ backends := [{ components := KeyMap.empty.insert "qos/burst" [] }] }]
  endpoints := [{
    backends := [{ components := KeyMap.empty.insert "qos/http-cache" [6] }]
    components := (KeyMap.empty.insert "qos/quota" [7, 1]).insert "proxy" [1] }]
  components := (KeyMap.empty.insert "own/metering" [3]).insert "qos/quota" []

theorem appended_codes_compatible_quota :
    (Lawful (standard ++ quota) ∧ metered.CodeFreeFor (standard ++ quota)) ∧
    (metered.mapComponents shorten).mapComponents (expandWith (standard ++ quota)) = metered ∧
    ∃ f, (metered.mapComponents (shortenWith (standard ++ quota))).mapComponents expand =
        metered.mapComponents f ∧ ∀ m ∈ metered.allComponents, quota.Recoded m (f m) := by
  have hlawful : Lawful (standard ++ quota) :=
    ⟨by decide +kernel, by decide +kernel, by decide +kernel⟩
  have hfree : metered.CodeFreeFor (standard ++ quota) := by
    unfold CodeFreeFor
    decide +kernel
  exact ⟨⟨hlawful, hfree⟩, appended_codes_compatible hlawful hfree⟩

end Gateway.Snapshot
