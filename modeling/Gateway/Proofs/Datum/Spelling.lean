import Gateway.Proofs.Datum.Order
import Mathlib.Data.List.Forall2

namespace Gateway.Datum

section Containers

variable {α : Type} {read : Reader α} {writes : α → Datum → Prop}

def WritesEntry (writes : α → Datum → Prop) (e : String × α) (m : Option String × Datum) : Prop :=
  m.1 = some e.1 ∧ writes e.2 m.2

theorem readList_of_forall₂ (hread : ∀ x d, writes x d → read d = .ok x) {xs : List α}
    {ds : List Datum} (h : List.Forall₂ writes xs ds) :
    readList read (.list ds .exact) = .ok xs := by
  have heach : readEach read ds = .ok xs := by
    induction h with
    | nil => rfl
    | cons hx _ ih =>
        rw [readEach, hread _ _ hx, ih]
        rfl
  rw [readList, heach]
  rfl

theorem readPairs_of_forall₂ (hread : ∀ x d, writes x d → read d = .ok x) {es : Entries α}
    {ms : List (Option String × Datum)} (h : List.Forall₂ (WritesEntry writes) es ms) :
    readPairs read ms = .ok es := by
  induction h with
  | nil => rfl
  | @cons e m es ms he _ ih =>
      obtain ⟨k, d⟩ := m
      obtain ⟨rfl, he⟩ := he
      rw [readPairs, readKey, hread _ _ he, ih]
      rfl

theorem readMap_of_forall₂ (hread : ∀ x d, writes x d → read d = .ok x) {m : KeyMap α}
    {es : Entries α} {ms : List (Option String × Datum)} (hperm : es.Perm m.entries)
    (h : List.Forall₂ (WritesEntry writes) es ms) : readMap read (.record ms true) = .ok m := by
  rw [readMap, readPairs_of_forall₂ hread h]
  exact congrArg Except.ok (KeyMap.ofEntries_of_perm hperm)

inductive WritesPart (name : String) (empty : α) (writes : α → Datum → Prop) :
    α → List (Option String × Datum) → Prop where
  | omitted : WritesPart name empty writes empty []
  | member {x : α} {d : Datum} : writes x d → WritesPart name empty writes x [(some name, d)]

end Containers

def PassedOver (names : List String) (ms : List (Option String × Datum)) : Prop :=
  ∀ m ∈ ms, ∃ k, m.1 = some k ∧ k ∉ names ∧ m.2.isComplete = true

def WritesRecord (names : List String) (parts : List (Option String × Datum)) (d : Datum) : Prop :=
  ∃ others ms, PassedOver names others ∧ (parts ++ others).Perm ms ∧ d = .record ms true

section Values

variable {α : Type} {writes : α → Datum → Prop} {value : α → Json.Value}

theorem ofMembers_append (ms ns : List (String × Json.Value)) :
    ofMembers (ms ++ ns) = ofMembers ms ++ ofMembers ns := by
  induction ms with
  | nil => rfl
  | cons m ms ih => rw [List.cons_append, ofMembers, ih, ofMembers, List.cons_append]

theorem forall₂_ofValues (h : ∀ x, writes x (ofValue (value x))) (xs : List α) :
    List.Forall₂ writes xs (ofValues (xs.map value)) := by
  induction xs with
  | nil => exact .nil
  | cons x xs ih => exact .cons (h x) ih

theorem forall₂_ofMembers (h : ∀ x, writes x (ofValue (value x))) (es : Entries α) :
    List.Forall₂ (WritesEntry writes) es (ofMembers (es.map fun e => (e.1, value e.2))) := by
  induction es with
  | nil => exact .nil
  | cons e es ih => exact .cons ⟨rfl, h e.2⟩ ih

theorem writesRecord_ofValue (names : List String) (ms : List (String × Json.Value)) :
    WritesRecord names (ofMembers ms) (ofValue (.object ms)) := by
  have hnone : PassedOver names [] := List.forall_mem_nil _
  refine ⟨[], ofMembers ms, hnone, ?_, by rw [ofValue]⟩
  rw [List.append_nil]

end Values

end Gateway.Datum

namespace Gateway.Layout

open Datum

variable {α σ : Type} {fields : List (Field σ)} {ms others : List (Option String × Datum)}
  {seen names : List String} {s s' : σ}

def ReadsTo (fields : List (Field σ)) (ms : List (Option String × Datum)) (seen : List String)
    (s s' : σ) : Prop :=
  ∃ seen', readMembers fields ms seen s = .ok (seen', s')

theorem readsTo_of_passedOver (h : PassedOver (fields.map (·.name)) others) :
    ReadsTo fields others seen s s := by
  induction others with
  | nil => exact ⟨seen, rfl⟩
  | cons m others ih =>
      obtain ⟨k, d⟩ := m
      obtain ⟨⟨j, rfl, hj, hd⟩, hothers⟩ := List.forall_mem_cons.mp h
      have hfind : fields.find? (·.name == j) = none := by
        refine List.find?_eq_none.mpr fun f hf hname => hj ?_
        rw [← beq_iff_eq.mp hname]
        exact List.mem_map_of_mem hf
      rw [ReadsTo, readMembers_cons_other hfind hd]
      exact ih hothers

theorem readsTo_of_writesPart {name : String} {empty x : α} {writes : α → Datum → Prop}
    {read : Reader α} {put : α → σ → σ} {part : List (Option String × Datum)}
    (hfind : fields.find? (·.name == name) = some (.of name read put))
    (hpart : WritesPart name empty writes x part) (hread : ∀ x d, writes x d → read d = .ok x)
    (hput : put empty s = s) (hseen : seen ⊆ names) (hname : name ∉ names)
    (hrest : ∀ seen', seen' ⊆ name :: names → ReadsTo fields ms seen' (put x s) s') :
    ReadsTo fields (part ++ ms) seen s s' := by
  cases hpart with
  | omitted =>
      rw [hput] at hrest
      exact hrest seen (List.subset_cons_of_subset name hseen)
  | @member _ d hd =>
      have hfield : (Field.of name read put).read d s = .ok (put x s) := by
        simp only [Field.of, hread x d hd]
        rfl
      obtain ⟨seen', h⟩ := hrest (name :: seen) (List.cons_subset_cons name hseen)
      exact ⟨seen', (readMembers_cons_field hfind (fun hk => hname (hseen hk)) hfield).trans h⟩

theorem read_of_writesRecord {layout : Layout σ} {parts : List (Option String × Datum)} {d : Datum}
    (hrequired : layout.required = false) (hfields : layout.fields.Pairwise Field.Commute)
    (hrecord : WritesRecord (layout.fields.map (·.name)) parts d)
    (hparts : ∀ others, PassedOver (layout.fields.map (·.name)) others →
      ReadsTo layout.fields (parts ++ others) [] layout.start s) :
    layout.read d = .ok s := by
  obtain ⟨others, ms, hothers, hperm, rfl⟩ := hrecord
  obtain ⟨seen, h⟩ := hparts others hothers
  obtain ⟨seen', h⟩ := readMembers_of_perm hfields hperm h
  exact read_record hrequired h

end Gateway.Layout
