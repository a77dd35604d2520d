import Gateway.Proofs.Datum.Spelling
import Gateway.Snapshot.Document

namespace Gateway.Snapshot

open Datum Json

section Containers

variable {α : Type} {read : Reader α} {writes : α → Datum → Prop}

inductive WritesList (writes : α → Datum → Prop) : List α → Datum → Prop where
  | null : WritesList writes [] .null
  | list {xs : List α} {ds : List Datum} :
      List.Forall₂ writes xs ds → WritesList writes xs (.list ds .exact)

inductive WritesMap (writes : α → Datum → Prop) : KeyMap α → Datum → Prop where
  | null : WritesMap writes KeyMap.empty .null
  | record {m : KeyMap α} {es : Entries α} {ms : List (Option String × Datum)} :
      es.Perm m.entries → List.Forall₂ (WritesEntry writes) es ms →
        WritesMap writes m (.record ms true)

theorem readOrEmpty_of_ok {empty x : α} {d : Datum} (hd : d ≠ .null) (h : read d = .ok x) :
    readOrEmpty empty read d = .ok x := by
  have hoption : readOption read d = .ok (some x) := by
    cases d with
    | null => exact absurd rfl hd
    | _ => simp only [readOption, h]; rfl
  rw [readOrEmpty, hoption]
  rfl

theorem readOrEmpty_of_writesList (hread : ∀ x d, writes x d → read d = .ok x) (xs : List α)
    (d : Datum) (h : WritesList writes xs d) : readOrEmpty [] (readList read) d = .ok xs := by
  cases h with
  | null => rfl
  | list h => exact readOrEmpty_of_ok Datum.noConfusion (readList_of_forall₂ hread h)

theorem readOrEmpty_of_writesMap (hread : ∀ x d, writes x d → read d = .ok x) (m : KeyMap α)
    (d : Datum) (h : WritesMap writes m d) : readOrEmpty KeyMap.empty (readMap read) d = .ok m := by
  cases h with
  | null => rfl
  | record hperm h => exact readOrEmpty_of_ok Datum.noConfusion (readMap_of_forall₂ hread hperm h)

end Containers

def WritesNumber (i : Int64) (d : Datum) : Prop :=
  d = ofValue (.ofInt64 i)

def WritesNumbers : List Int64 → Datum → Prop :=
  WritesList WritesNumber

def WritesComponents : Components → Datum → Prop :=
  WritesMap WritesNumbers

theorem readInt64_of_writesNumber (i : Int64) (d : Datum) (h : WritesNumber i d) :
    readInt64 d = .ok i := by
  rw [h]
  exact readInt64_ofInt64 i

theorem readNumbers_of_writesNumbers (xs : List Int64) (d : Datum) (h : WritesNumbers xs d) :
    readNumbers d = .ok xs :=
  readOrEmpty_of_writesList readInt64_of_writesNumber xs d h

theorem readComponents_of_writesComponents (m : Components) (d : Datum)
    (h : WritesComponents m d) : readComponents d = .ok m :=
  readOrEmpty_of_writesMap readNumbers_of_writesNumbers m d h

def Backend.WrittenAs (b : Backend) (d : Datum) : Prop :=
  ∃ flags components, WritesPart "f" [] WritesNumbers b.flags flags ∧
    WritesPart "c" KeyMap.empty WritesComponents b.components components ∧
    WritesRecord ["f", "c"] (flags ++ components) d

def Group.WrittenAs {σ : Type} (g : Group σ) (s : σ) (d : Datum) : Prop :=
  ∃ flags backends components, WritesPart "f" [] WritesNumbers (g.flags s) flags ∧
    WritesPart "b" [] (WritesList Backend.WrittenAs) (g.backends s) backends ∧
    WritesPart "c" KeyMap.empty WritesComponents (g.components s) components ∧
    WritesRecord ["f", "b", "c"] (flags ++ (backends ++ components)) d

def Agent.WrittenAs : Agent → Datum → Prop :=
  Agent.group.WrittenAs

def Endpoint.WrittenAs : Endpoint → Datum → Prop :=
  Endpoint.group.WrittenAs

def WrittenAs (s : Snapshot) (d : Datum) : Prop :=
  ∃ flags agents endpoints components, WritesPart "f" [] WritesNumbers s.flags flags ∧
    WritesPart "a" [] (WritesList Agent.WrittenAs) s.agents agents ∧
    WritesPart "e" [] (WritesList Endpoint.WrittenAs) s.endpoints endpoints ∧
    WritesPart "c" KeyMap.empty WritesComponents s.components components ∧
    WritesRecord ["f", "a", "e", "c"] (flags ++ (agents ++ (endpoints ++ components))) d

theorem Backend.commute_fields : Backend.layout.fields.Pairwise Field.Commute := by
  simp only [Backend.layout, List.pairwise_cons, List.forall_mem_cons, List.not_mem_nil,
    false_implies, implies_true, List.Pairwise.nil, and_true]
  exact Field.commute_of fun _ _ _ => rfl

theorem Group.commute_fields {σ : Type} (g : Group σ) :
    g.layout.fields.Pairwise Field.Commute := by
  simp only [Group.layout, List.pairwise_cons, List.forall_mem_cons, List.not_mem_nil,
    false_implies, implies_true, List.Pairwise.nil, and_true]
  refine ⟨⟨?_, ?_⟩, ?_⟩ <;> exact Field.commute_of fun _ _ _ => by simp

theorem commute_fields : layout.fields.Pairwise Field.Commute := by
  simp only [layout, List.pairwise_cons, List.forall_mem_cons, List.not_mem_nil,
    false_implies, implies_true, List.Pairwise.nil, and_true]
  refine ⟨⟨?_, ?_, ?_⟩, ⟨?_, ?_⟩, ?_⟩ <;> exact Field.commute_of fun _ _ _ => rfl

theorem Backend.read_of_writtenAs (b : Backend) (d : Datum) (h : b.WrittenAs d) :
    Backend.layout.read d = .ok b := by
  obtain ⟨flags, components, hflags, hcomponents, hrecord⟩ := h
  refine Layout.read_of_writesRecord rfl Backend.commute_fields hrecord fun others hothers => ?_
  rw [List.append_assoc]
  refine Layout.readsTo_of_writesPart rfl hflags readNumbers_of_writesNumbers rfl
    (List.nil_subset []) (by simp) fun seen hseen => ?_
  refine Layout.readsTo_of_writesPart rfl hcomponents readComponents_of_writesComponents rfl hseen
    (by simp) fun seen hseen => ?_
  exact Layout.readsTo_of_passedOver hothers

theorem Group.read_of_writtenAs {σ : Type} (g : Group σ) (s : σ) (d : Datum)
    (h : g.WrittenAs s d) : g.layout.read d = .ok s := by
  obtain ⟨flags, backends, components, hflags, hbackends, hcomponents, hrecord⟩ := h
  refine Layout.read_of_writesRecord rfl g.commute_fields hrecord fun others hothers => ?_
  rw [List.append_assoc, List.append_assoc]
  refine Layout.readsTo_of_writesPart rfl hflags readNumbers_of_writesNumbers
    (by simp [Group.layout]) (List.nil_subset []) (by simp) fun seen hseen => ?_
  refine Layout.readsTo_of_writesPart rfl hbackends
    (readOrEmpty_of_writesList Backend.read_of_writtenAs) (by simp [Group.layout]) hseen (by simp)
    fun seen hseen => ?_
  refine Layout.readsTo_of_writesPart rfl hcomponents readComponents_of_writesComponents
    (by simp [Group.layout]) hseen (by simp) fun seen hseen => ?_
  simpa using Layout.readsTo_of_passedOver hothers

theorem read_of_writtenAs {s : Snapshot} {d : Datum} (h : s.WrittenAs d) :
    Snapshot.read d = .ok s := by
  obtain ⟨flags, agents, endpoints, components, hflags, hagents, hendpoints, hcomponents,
    hrecord⟩ := h
  refine Layout.read_of_writesRecord rfl commute_fields hrecord fun others hothers => ?_
  rw [List.append_assoc, List.append_assoc, List.append_assoc]
  refine Layout.readsTo_of_writesPart rfl hflags readNumbers_of_writesNumbers rfl
    (List.nil_subset []) (by simp) fun seen hseen => ?_
  refine Layout.readsTo_of_writesPart rfl hagents
    (readOrEmpty_of_writesList Agent.group.read_of_writtenAs) rfl hseen (by simp)
    fun seen hseen => ?_
  refine Layout.readsTo_of_writesPart rfl hendpoints
    (readOrEmpty_of_writesList Endpoint.group.read_of_writtenAs) rfl hseen (by simp)
    fun seen hseen => ?_
  refine Layout.readsTo_of_writesPart rfl hcomponents readComponents_of_writesComponents rfl hseen
    (by simp) fun seen hseen => ?_
  exact Layout.readsTo_of_passedOver hothers

end Gateway.Snapshot
