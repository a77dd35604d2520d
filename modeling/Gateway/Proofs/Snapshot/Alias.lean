import Gateway.Snapshot.Alias

namespace Gateway.Snapshot

structure Renaming where
  target : String → Option String
  source : String → Option String
  target_iff : ∀ a b, target a = some b ↔ source b = some a
  disjoint : ∀ a b, target a = some b → target b = none

theorem get?_foldl_putRenamed (r : Renaming) {es : Entries (List Int64)} (hes : es.Ordered)
    (acc : Components) (k : String) :
    (es.foldl (putRenamed r.target) acc).get? k =
      ((r.source k).bind es.get?).or (acc.get? k) := by
  induction es generalizing acc with
  | nil => cases r.source k <;> rfl
  | cons e es ih =>
      rw [List.foldl_cons, ih (List.pairwise_cons.mp hes).2, putRenamed]
      cases htarget : r.target e.1 with
      | none =>
          cases hsource : r.source k with
          | none => rfl
          | some n =>
              have hne : n ≠ e.1 := by
                rintro rfl
                rw [(r.target_iff e.1 k).mpr hsource] at htarget
                cases htarget
              simp [Entries.get?_cons, hne]
      | some j =>
          rw [KeyMap.get?_insert]
          by_cases hk : k = j
          · subst hk
            simp [(r.target_iff e.1 k).mp htarget, Entries.get?_cons, hes.get?_tail]
          · rw [if_neg hk]
            cases hsource : r.source k with
            | none => rfl
            | some n =>
                have hne : n ≠ e.1 := by
                  rintro rfl
                  rw [(r.target_iff e.1 k).mpr hsource] at htarget
                  exact hk (Option.some.inj htarget)
                simp [Entries.get?_cons, hne]

theorem get?_foldl_putKept (rename : String → Option String) (taken : Components)
    {es : Entries (List Int64)} (hes : es.Ordered) (acc : Components) (k : String) :
    (es.foldl (putKept rename taken) acc).get? k =
      if (rename k).isSome || taken.contains k then acc.get? k
      else (es.get? k).or (acc.get? k) := by
  induction es generalizing acc with
  | nil => simp
  | cons e es ih =>
      rw [List.foldl_cons, ih (List.pairwise_cons.mp hes).2, Entries.get?_cons, putKept]
      by_cases hk : k = e.1
      · subst hk
        rw [hes.get?_tail]
        cases hrename : rename e.1 with
        | some j => simp
        | none => cases htaken : taken.contains e.1 <;> simp [KeyMap.get?_insert]
      · rw [if_neg hk]
        cases rename e.1 with
        | some j => rfl
        | none => cases taken.contains e.1 <;> simp [KeyMap.get?_insert, hk]

namespace Renaming

def apply (r : Renaming) : Components → Components :=
  rekey r.target

def symm (r : Renaming) : Renaming where
  target := r.source
  source := r.target
  target_iff a b := (r.target_iff b a).symm
  disjoint a b h := by
    rw [Option.eq_none_iff_forall_ne_some]
    intro c hc
    have hb := (r.target_iff b a).mpr h
    have hc' := (r.target_iff c b).mpr hc
    rw [r.disjoint c b hc'] at hb
    cases hb

theorem symm_target (r : Renaming) {a b : String} (h : r.target a = some b) :
    r.symm.target b = some a :=
  (r.target_iff a b).mp h

theorem source_eq_none (r : Renaming) {a b : String} (h : r.target a = some b) :
    r.source a = none :=
  r.symm.disjoint b a (r.symm_target h)

theorem name_cases (r : Renaming) (k : String) :
    (∃ b, r.target k = some b) ∨ (∃ a, r.target a = some k) ∨
      (r.target k = none ∧ r.source k = none) := by
  cases ht : r.target k with
  | some b => exact .inl ⟨b, rfl⟩
  | none =>
      cases hs : r.source k with
      | some a => exact .inr (.inl ⟨a, (r.target_iff a k).mpr hs⟩)
      | none => exact .inr (.inr ⟨rfl, rfl⟩)

theorem get?_apply (r : Renaming) (m : Components) (k : String) :
    (r.apply m).get? k =
      ((r.source k).bind m.get?).or (if (r.target k).isSome then none else m.get? k) := by
  have hrenamed := get?_foldl_putRenamed r m.ordered KeyMap.empty k
  rw [KeyMap.get?_empty, Option.or_none] at hrenamed
  rw [apply, rekey, get?_foldl_putKept r.target _ m.ordered, KeyMap.contains, hrenamed]
  change (if (r.target k).isSome || ((r.source k).bind m.get?).isSome
    then (r.source k).bind m.get? else (m.get? k).or ((r.source k).bind m.get?)) = _
  cases (r.target k).isSome with
  | true => simp
  | false => cases (r.source k).bind m.get? <;> simp

theorem get?_apply_replaced (r : Renaming) (m : Components) {a b : String}
    (h : r.target a = some b) : (r.apply m).get? a = none := by
  rw [get?_apply, r.source_eq_none h, h]
  rfl

theorem get?_apply_replacement (r : Renaming) (m : Components) {a b : String}
    (h : r.target a = some b) : (r.apply m).get? b = (m.get? a).or (m.get? b) := by
  rw [get?_apply, (r.target_iff a b).mp h, r.disjoint a b h]
  rfl

theorem get?_apply_other (r : Renaming) (m : Components) {k : String}
    (ht : r.target k = none) (hs : r.source k = none) : (r.apply m).get? k = m.get? k := by
  rw [get?_apply, ht, hs]
  rfl

theorem get?_symm_apply_apply (r : Renaming) (m : Components) {a b : String}
    (h : r.target a = some b) :
    (r.symm.apply (r.apply m)).get? a = (m.get? a).or (m.get? b) := by
  rw [get?_apply_replacement r.symm _ (r.symm_target h), get?_apply_replacement r m h,
    get?_apply_replaced r m h, Option.or_none]

def Avoids (r : Renaming) (m : Components) : Prop :=
  ∀ a b, r.target a = some b → m.get? b = none

theorem symm_apply_apply_eq_iff (r : Renaming) (m : Components) :
    r.symm.apply (r.apply m) = m ↔ r.Avoids m := by
  constructor
  · intro h a b hab
    rw [← h]
    exact get?_apply_replaced r.symm _ (r.symm_target hab)
  · intro h
    apply KeyMap.ext
    intro k
    rcases r.name_cases k with ⟨b, hb⟩ | ⟨a, ha⟩ | ⟨ht, hs⟩
    · rw [get?_symm_apply_apply r m hb, h k b hb, Option.or_none]
    · rw [get?_apply_replaced r.symm _ (r.symm_target ha), h a k ha]
    · rw [get?_apply_other r.symm _ hs ht, get?_apply_other r m ht hs]

theorem symm_apply_of_avoids {r : Renaming} {m : Components} (h : r.Avoids m) :
    r.symm.apply m = m := by
  apply KeyMap.ext
  intro k
  rcases r.name_cases k with ⟨b, hb⟩ | ⟨a, ha⟩ | ⟨ht, hs⟩
  · rw [get?_apply_replacement r.symm m (r.symm_target hb), h k b hb, Option.none_or]
  · rw [get?_apply_replaced r.symm m (r.symm_target ha), h a k ha]
  · exact get?_apply_other r.symm m hs ht

theorem avoids_symm_apply (r : Renaming) (m : Components) : r.symm.Avoids (r.apply m) :=
  fun _ _ h => get?_apply_replaced r m (r.symm.symm_target h)

theorem apply_apply (r : Renaming) (m : Components) : r.apply (r.apply m) = r.apply m :=
  symm_apply_of_avoids (r.avoids_symm_apply m)

theorem apply_symm_apply_apply (r : Renaming) (m : Components) :
    r.apply (r.symm.apply (r.apply m)) = r.apply m := by
  apply KeyMap.ext
  intro k
  rcases r.name_cases k with ⟨b, hb⟩ | ⟨a, ha⟩ | ⟨ht, hs⟩
  · rw [get?_apply_replaced r _ hb, get?_apply_replaced r m hb]
  · rw [get?_apply_replacement r _ ha, get?_apply_replacement r m ha,
      get?_symm_apply_apply r m ha, get?_apply_replaced r.symm _ (r.symm_target ha),
      Option.or_none]
  · rw [get?_apply_other r _ ht hs, get?_apply_other r.symm _ hs ht]

end Renaming

namespace AliasTable

def codes (table : AliasTable) : List String :=
  table.map (·.2)

def namespaces (table : AliasTable) : List String :=
  table.map (·.1)

structure Lawful (table : AliasTable) : Prop where
  codes_nodup : table.codes.Nodup
  namespaces_nodup : table.namespaces.Nodup
  disjoint : ∀ ns ∈ table.namespaces, ns ∉ table.codes

theorem find?_eq_some_iff_of_nodup {f : String × String → String} {table : AliasTable}
    (h : (table.map f).Nodup) {k : String} {e : String × String} :
    table.find? (f · == k) = some e ↔ e ∈ table ∧ f e = k := by
  constructor
  · intro hfind
    exact ⟨List.mem_of_find?_eq_some hfind, by simpa using List.find?_some hfind⟩
  · rintro ⟨hmem, rfl⟩
    induction table with
    | nil => cases hmem
    | cons d table ih =>
        obtain ⟨hd, htable⟩ := List.nodup_cons.mp h
        rcases List.mem_cons.mp hmem with rfl | hmem
        · simp
        · have hne : f d ≠ f e := fun hde => hd (hde ▸ List.mem_map_of_mem hmem)
          rw [List.find?_cons_of_neg (by simpa using hne)]
          exact ih htable hmem

theorem code?_eq_some_iff {table : AliasTable} (h : table.Lawful) {ns code : String} :
    table.code? ns = some code ↔ (ns, code) ∈ table := by
  simp only [code?, Option.map_eq_some_iff, find?_eq_some_iff_of_nodup h.namespaces_nodup]
  constructor
  · rintro ⟨e, ⟨hmem, rfl⟩, rfl⟩
    exact hmem
  · intro hmem
    exact ⟨(ns, code), ⟨hmem, rfl⟩, rfl⟩

theorem namespace?_eq_some_iff {table : AliasTable} (h : table.Lawful) {ns code : String} :
    table.namespace? code = some ns ↔ (ns, code) ∈ table := by
  simp only [namespace?, Option.map_eq_some_iff, find?_eq_some_iff_of_nodup h.codes_nodup]
  constructor
  · rintro ⟨e, ⟨hmem, rfl⟩, rfl⟩
    exact hmem
  · intro hmem
    exact ⟨(ns, code), ⟨hmem, rfl⟩, rfl⟩

def toRenaming (table : AliasTable) (h : table.Lawful) : Renaming where
  target := table.code?
  source := table.namespace?
  target_iff a b := (code?_eq_some_iff h).trans (namespace?_eq_some_iff h).symm
  disjoint a b hab := by
    rw [Option.eq_none_iff_forall_ne_some]
    intro c hc
    have hab := (code?_eq_some_iff h).mp hab
    have hbc := (code?_eq_some_iff h).mp hc
    exact h.disjoint b (List.mem_map_of_mem hbc) (List.mem_map_of_mem hab)

theorem toRenaming_apply {table : AliasTable} (h : table.Lawful) :
    (table.toRenaming h).apply = shortenWith table :=
  rfl

theorem toRenaming_symm_apply {table : AliasTable} (h : table.Lawful) :
    (table.toRenaming h).symm.apply = expandWith table :=
  rfl

theorem mem_codes_iff {table : AliasTable} (h : table.Lawful) {code : String} :
    code ∈ table.codes ↔ ∃ ns, (table.toRenaming h).target ns = some code := by
  simp only [codes, List.mem_map, toRenaming, code?_eq_some_iff h]
  constructor
  · rintro ⟨⟨ns, _⟩, hmem, rfl⟩
    exact ⟨ns, hmem⟩
  · rintro ⟨ns, hmem⟩
    exact ⟨(ns, code), hmem, rfl⟩

theorem avoids_toRenaming_iff {table : AliasTable} (h : table.Lawful) {m : Components} :
    (table.toRenaming h).Avoids m ↔ ∀ code ∈ table.codes, m.contains code = false := by
  simp only [mem_codes_iff h, KeyMap.contains_eq_false_iff]
  constructor
  · rintro hm code ⟨ns, hns⟩
    exact hm ns code hns
  · intro hm ns code hns
    exact hm code ⟨ns, hns⟩

theorem standard_lawful : standard.Lawful where
  codes_nodup := by decide +kernel
  namespaces_nodup := by decide +kernel
  disjoint := by decide +kernel

end AliasTable

end Gateway.Snapshot
