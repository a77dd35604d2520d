namespace Gateway

abbrev Entries (α : Type) := List (String × α)

namespace Entries

variable {α β : Type}

def get? (es : Entries α) (k : String) : Option α :=
  es.lookup k

def contains (es : Entries α) (k : String) : Bool :=
  (es.get? k).isSome

def erase (es : Entries α) (k : String) : Entries α :=
  es.filter (·.1 ≠ k)

def put (k : String) (v : α) : Entries α → Entries α
  | [] => [(k, v)]
  | e :: es =>
      if k < e.1 then (k, v) :: e :: es
      else if k = e.1 then (k, v) :: es
      else e :: put k v es

def inOrder (es : Entries α) : Entries α :=
  es.foldl (fun acc e => put e.1 e.2 acc) []

def Ordered (es : Entries α) : Prop :=
  es.Pairwise (fun a b => a.1 < b.1)

@[simp] theorem get?_nil (k : String) : get? ([] : Entries α) k = none := rfl

theorem get?_cons (e : String × α) (es : Entries α) (k : String) :
    get? (e :: es) k = if k = e.1 then some e.2 else get? es k := by
  obtain ⟨j, v⟩ := e
  by_cases h : k = j
  · simp [get?, h]
  · simp [get?, List.lookup_cons, h, beq_false_of_ne h]

theorem mem_of_get? {es : Entries α} {k : String} {v : α} (h : es.get? k = some v) :
    (k, v) ∈ es := by
  induction es with
  | nil => simp at h
  | cons e es ih =>
      rw [get?_cons] at h
      split at h
      · next hk => cases h; simp [hk]
      · exact List.mem_cons_of_mem _ (ih h)

theorem get?_eq_none_iff {es : Entries α} {k : String} :
    es.get? k = none ↔ ∀ e ∈ es, e.1 ≠ k := by
  induction es with
  | nil => simp
  | cons e es ih =>
      rw [get?_cons]
      by_cases h : k = e.1
      · simp [h]
      · simp [h, ih, Ne.symm h]

theorem get?_erase (es : Entries α) (k j : String) :
    (es.erase k).get? j = if j = k then none else es.get? j := by
  induction es with
  | nil => simp [erase]
  | cons e es ih =>
      by_cases he : e.1 = k
      · simp only [erase, List.filter_cons, he, ne_eq, not_true_eq_false, decide_false,
          Bool.false_eq_true, if_false, get?_cons]
        rw [show List.filter (fun x => decide ¬x.1 = k) es = erase es k from rfl, ih]
        split <;> simp_all
      · simp only [erase, List.filter_cons, he, ne_eq, not_false_eq_true, decide_true, if_true,
          get?_cons]
        rw [show List.filter (fun x => decide ¬x.1 = k) es = erase es k from rfl, ih]
        by_cases hj : j = e.1
        · simp [hj, he]
        · simp [hj]

theorem mem_put {k : String} {v : α} {es : Entries α} {e : String × α} (h : e ∈ put k v es) :
    e = (k, v) ∨ e ∈ es := by
  induction es with
  | nil => exact .inl (by simpa [put] using h)
  | cons d ds ih =>
      simp only [put] at h
      split at h
      · simpa using h
      · split at h
        · rcases List.mem_cons.mp h with h | h
          · exact .inl h
          · exact .inr (List.mem_cons_of_mem _ h)
        · rcases List.mem_cons.mp h with h | h
          · exact .inr (by simp [h])
          · exact (ih h).imp_right (List.mem_cons_of_mem _)

theorem ordered_put (k : String) (v : α) {es : Entries α} (h : es.Ordered) :
    (put k v es).Ordered := by
  induction es with
  | nil => simp [put, Ordered]
  | cons e es ih =>
      obtain ⟨he, hes⟩ := List.pairwise_cons.mp h
      simp only [put]
      split
      · next hk =>
          refine List.pairwise_cons.mpr ⟨?_, h⟩
          intro d hd
          rcases List.mem_cons.mp hd with rfl | hd
          · exact hk
          · exact String.lt_trans hk (he d hd)
      · split
        · next hk => exact List.pairwise_cons.mpr ⟨fun d hd => hk ▸ he d hd, hes⟩
        · next hlt hne =>
            refine List.pairwise_cons.mpr ⟨?_, ih hes⟩
            intro d hd
            rcases mem_put hd with rfl | hd
            · refine String.not_le.mp fun hle => ?_
              exact hne (String.le_antisymm (String.not_lt.mp hlt) hle).symm
            · exact he d hd

theorem ordered_inOrder (es : Entries α) : es.inOrder.Ordered := by
  suffices ∀ acc : Entries α, acc.Ordered →
      (es.foldl (fun acc e => put e.1 e.2 acc) acc).Ordered from this [] List.Pairwise.nil
  induction es with
  | nil => exact fun _ h => h
  | cons e es ih => exact fun acc h => ih _ (ordered_put _ _ h)

theorem get?_put (k : String) (v : α) {es : Entries α} (h : es.Ordered) (j : String) :
    (put k v es).get? j = if j = k then some v else es.get? j := by
  induction es with
  | nil => simp [put, get?_cons]
  | cons e es ih =>
      obtain ⟨he, hes⟩ := List.pairwise_cons.mp h
      simp only [put]
      split
      · simp [get?_cons]
      · split
        · next hk => subst hk; simp only [get?_cons]; split <;> rfl
        · next hne =>
            simp only [get?_cons, ih hes]
            by_cases hj : j = e.1
            · subst hj; simp [Ne.symm hne]
            · simp [hj]

theorem ordered_ext {a b : Entries α} (ha : a.Ordered) (hb : b.Ordered)
    (h : ∀ k, a.get? k = b.get? k) : a = b := by
  induction a generalizing b with
  | nil =>
      cases b with
      | nil => rfl
      | cons e es => have := h e.1; simp [get?_cons] at this
  | cons d ds ih =>
      cases b with
      | nil => have := h d.1; simp [get?_cons] at this
      | cons e es =>
          obtain ⟨hd, hds⟩ := List.pairwise_cons.mp ha
          obtain ⟨he, hes⟩ := List.pairwise_cons.mp hb
          have absent {x : String} {l : Entries α} (hl : ∀ y ∈ l, x < y.1) : l.get? x = none :=
            get?_eq_none_iff.mpr fun y hy hxy => String.lt_irrefl x (hxy ▸ hl y hy)
          have hkeys : d.1 = e.1 := by
            refine Decidable.byContradiction fun hne => ?_
            have h₁ := h d.1
            have h₂ := h e.1
            simp only [get?_cons, if_true, hne, Ne.symm hne, if_false] at h₁ h₂
            have hlt := he _ (mem_of_get? h₁.symm)
            exact String.lt_asymm hlt (hd _ (mem_of_get? h₂))
          have hv : d.2 = e.2 := by
            have := h d.1
            simpa [get?_cons, hkeys] using this
          have hde : d = e := Prod.ext hkeys hv
          subst hde
          refine congrArg _ (ih hds hes fun k => ?_)
          have := h k
          simp only [get?_cons] at this
          by_cases hk : k = d.1
          · subst hk; rw [absent hd, absent he]
          · simpa [hk] using this

theorem Ordered.get?_tail {e : String × α} {es : Entries α} (h : Ordered (e :: es)) :
    es.get? e.1 = none := by
  refine get?_eq_none_iff.mpr fun d hd hde => ?_
  have hlt := (List.pairwise_cons.mp h).1 d hd
  rw [hde] at hlt
  exact String.lt_irrefl e.1 hlt

theorem put_of_forall_lt {k : String} {v : α} {es : Entries α} (h : ∀ e ∈ es, e.1 < k) :
    put k v es = es ++ [(k, v)] := by
  induction es with
  | nil => rfl
  | cons e es ih =>
      have hlt := h e List.mem_cons_self
      have hne : k ≠ e.1 := fun hke => String.lt_irrefl k (hke ▸ hlt)
      rw [put, if_neg (String.lt_asymm hlt), if_neg hne,
        ih fun d hd => h d (List.mem_cons_of_mem _ hd), List.cons_append]

theorem Ordered.eq_of_key {es : Entries α} (h : es.Ordered) {d e : String × α} (hd : d ∈ es)
    (he : e ∈ es) (hkey : d.1 = e.1) : d = e := by
  have hne {x y : String × α} (hlt : x.1 < y.1) (hxy : x.1 = y.1) : x = y :=
    absurd hlt (hxy ▸ String.lt_irrefl y.1)
  induction es with
  | nil => cases hd
  | cons c es ih =>
      obtain ⟨hc, hes⟩ := List.pairwise_cons.mp h
      rcases List.mem_cons.mp hd with rfl | hdtail
      · rcases List.mem_cons.mp he with rfl | hetail
        · rfl
        · exact hne (hc e hetail) hkey
      · rcases List.mem_cons.mp he with rfl | hetail
        · exact (hne (hc d hdtail) hkey.symm).symm
        · exact ih hes hdtail hetail

theorem inOrder_of_ordered {es : Entries α} (h : es.Ordered) : es.inOrder = es := by
  suffices ∀ acc : Entries α, Ordered (acc ++ es) →
      es.foldl (fun acc e => put e.1 e.2 acc) acc = acc ++ es from this [] h
  clear h
  induction es with
  | nil => simp
  | cons e es ih =>
      intro acc hacc
      have hlt : ∀ d ∈ acc, d.1 < e.1 := fun d hd =>
        (List.pairwise_append.mp hacc).2.2 d hd e List.mem_cons_self
      rw [List.foldl_cons, put_of_forall_lt hlt, ih _ (by simpa using hacc)]
      simp

end Entries

structure KeyMap (α : Type) where
  entries : Entries α
  ordered : entries.Ordered
  deriving DecidableEq

namespace KeyMap

variable {α β : Type}

def empty : KeyMap α :=
  ⟨[], List.Pairwise.nil⟩

instance : Inhabited (KeyMap α) := ⟨empty⟩

def get? (m : KeyMap α) (k : String) : Option α :=
  m.entries.get? k

def contains (m : KeyMap α) (k : String) : Bool :=
  (m.get? k).isSome

def isEmpty (m : KeyMap α) : Bool :=
  m.entries.isEmpty

def size (m : KeyMap α) : Nat :=
  m.entries.length

def keys (m : KeyMap α) : List String :=
  m.entries.map (·.1)

def insert (m : KeyMap α) (k : String) (v : α) : KeyMap α :=
  ⟨Entries.put k v m.entries, Entries.ordered_put k v m.ordered⟩

def erase (m : KeyMap α) (k : String) : KeyMap α :=
  ⟨m.entries.erase k, m.ordered.filter _⟩

def ofEntries (es : Entries α) : KeyMap α :=
  ⟨es.inOrder, Entries.ordered_inOrder es⟩

def map (f : String → α → β) (m : KeyMap α) : KeyMap β :=
  ⟨m.entries.map fun e => (e.1, f e.1 e.2), by
    have := m.ordered
    simpa [Entries.Ordered, List.pairwise_map] using this⟩

@[ext] theorem ext {a b : KeyMap α} (h : ∀ k, a.get? k = b.get? k) : a = b := by
  cases a; cases b
  simpa using Entries.ordered_ext (by assumption) (by assumption) h

@[simp] theorem get?_empty (k : String) : (empty : KeyMap α).get? k = none := rfl

theorem get?_insert (m : KeyMap α) (k : String) (v : α) (j : String) :
    (m.insert k v).get? j = if j = k then some v else m.get? j :=
  Entries.get?_put k v m.ordered j

theorem get?_map (f : String → α → β) (m : KeyMap α) (k : String) :
    (m.map f).get? k = (m.get? k).map (f k) := by
  obtain ⟨es, _⟩ := m
  show Entries.get? (es.map _) k = (Entries.get? es k).map (f k)
  induction es with
  | nil => rfl
  | cons e es ih =>
      rw [List.map_cons, Entries.get?_cons, Entries.get?_cons]
      split
      · next h => subst h; rfl
      · exact ih (by simp_all [Entries.Ordered])

theorem contains_map (f : String → α → β) (m : KeyMap α) (k : String) :
    (m.map f).contains k = m.contains k := by
  rw [contains, get?_map, Option.isSome_map, contains]

theorem contains_eq_false_iff {m : KeyMap α} {k : String} :
    m.contains k = false ↔ m.get? k = none := by
  rw [contains, Option.isSome_eq_false_iff, Option.isNone_iff_eq_none]

theorem ofEntries_entries (m : KeyMap α) : ofEntries m.entries = m := by
  obtain ⟨es, h⟩ := m
  simp [ofEntries, Entries.inOrder_of_ordered h]

theorem insert_comm {j k : String} (hne : j ≠ k) (m : KeyMap α) (x y : α) :
    (m.insert j x).insert k y = (m.insert k y).insert j x := by
  ext i
  simp only [get?_insert]
  split
  · next hk =>
      have hj : i ≠ j := fun hj => hne (hj.symm.trans hk)
      rw [if_neg hj]
  · rfl

theorem entries_foldl_insert (es : Entries α) (m : KeyMap α) :
    (es.foldl (fun m e => m.insert e.1 e.2) m).entries =
      es.foldl (fun acc e => Entries.put e.1 e.2 acc) m.entries := by
  induction es generalizing m with
  | nil => rfl
  | cons e es ih => exact ih (m.insert e.1 e.2)

theorem ofEntries_eq_foldl (es : Entries α) :
    ofEntries es = es.foldl (fun m e => m.insert e.1 e.2) empty := by
  have h := entries_foldl_insert es empty
  cases hfold : es.foldl (fun m e => m.insert e.1 e.2) empty
  rw [hfold] at h
  simp only [ofEntries, mk.injEq]
  exact h.symm

theorem ofEntries_of_perm {m : KeyMap α} {es : Entries α} (h : es.Perm m.entries) :
    ofEntries es = m := by
  conv => rhs; rw [← m.ofEntries_entries]
  rw [ofEntries_eq_foldl, ofEntries_eq_foldl]
  refine h.foldl_eq' (fun d hd e he n => ?_) empty
  by_cases hkey : d.1 = e.1
  · rw [m.ordered.eq_of_key (h.mem_iff.mp hd) (h.mem_iff.mp he) hkey]
  · exact insert_comm hkey n d.2 e.2

theorem isEmpty_iff {m : KeyMap α} : m.isEmpty = true ↔ m = empty := by
  obtain ⟨es, hes⟩ := m
  rw [isEmpty, List.isEmpty_iff]
  exact ⟨fun h => by subst h; rfl, fun h => congrArg entries h⟩

theorem keys_map (f : String → α → β) (m : KeyMap α) : (m.map f).keys = m.keys := by
  simp [keys, map, Function.comp_def]

theorem length_keys (m : KeyMap α) : m.keys.length = m.size :=
  List.length_map _

theorem nodup_keys (m : KeyMap α) : m.keys.Nodup := by
  refine List.pairwise_map.mpr (m.ordered.imp ?_)
  intro d e hlt hkey
  rw [hkey] at hlt
  exact String.lt_irrefl e.1 hlt

theorem mem_keys_iff {m : KeyMap α} {k : String} : k ∈ m.keys ↔ m.contains k = true := by
  rw [← Decidable.not_iff_not, Bool.not_eq_true, contains_eq_false_iff, get?,
    Entries.get?_eq_none_iff]
  simp only [keys, List.mem_map, not_exists, not_and, ne_eq]

end KeyMap

end Gateway
