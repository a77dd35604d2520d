import Gateway.Proofs.Json.Text
import Gateway.Proofs.Snapshot.Spelling

namespace Gateway.Snapshot

open Datum Json

section Writing

variable {α : Type} {value : α → Value} {writes : α → Datum → Prop}

theorem writesPart_listMember (name : String) (h : ∀ x, writes x (ofValue (value x)))
    (xs : List α) :
    WritesPart name [] (WritesList writes) xs (ofMembers (listMember name value xs)) := by
  rw [listMember]
  cases xs with
  | nil => exact .omitted
  | cons x xs => exact .member (.list (forall₂_ofValues h (x :: xs)))

theorem writesNumber_ofInt64 (i : Int64) : WritesNumber i (ofValue (.ofInt64 i)) :=
  rfl

theorem writesNumbers_numbersValue (xs : List Int64) :
    WritesNumbers xs (ofValue (numbersValue xs)) :=
  .list (forall₂_ofValues writesNumber_ofInt64 xs)

theorem writesPart_componentsMember (m : Components) :
    WritesPart "c" KeyMap.empty WritesComponents m (ofMembers (componentsMember m)) := by
  rw [componentsMember]
  split
  · next h =>
      rw [KeyMap.isEmpty_iff.mp h]
      exact .omitted
  · exact .member (.record (.refl _) (forall₂_ofMembers writesNumbers_numbersValue m.entries))

end Writing

theorem Backend.writtenAs_toValue (b : Backend) : b.WrittenAs (ofValue b.toValue) := by
  refine ⟨_, _, writesPart_listMember "f" writesNumber_ofInt64 b.flags,
    writesPart_componentsMember b.components, ?_⟩
  rw [← ofMembers_append]
  exact writesRecord_ofValue _ _

theorem Group.writtenAs_toValue {σ : Type} (g : Group σ) (s : σ) :
    g.WrittenAs s (ofValue (g.toValue s)) := by
  refine ⟨_, _, _, writesPart_listMember "f" writesNumber_ofInt64 (g.flags s),
    writesPart_listMember "b" Backend.writtenAs_toValue (g.backends s),
    writesPart_componentsMember (g.components s), ?_⟩
  rw [← List.append_assoc, ← ofMembers_append, ← ofMembers_append]
  exact writesRecord_ofValue _ _

theorem writtenAs_toValue (s : Snapshot) : s.WrittenAs (ofValue s.toValue) := by
  refine ⟨_, _, _, _, writesPart_listMember "f" writesNumber_ofInt64 s.flags,
    writesPart_listMember "a" Agent.group.writtenAs_toValue s.agents,
    writesPart_listMember "e" Endpoint.group.writtenAs_toValue s.endpoints,
    writesPart_componentsMember s.components, ?_⟩
  rw [← List.append_assoc, ← List.append_assoc, ← ofMembers_append, ← ofMembers_append,
    ← ofMembers_append]
  exact writesRecord_ofValue _ _

theorem read_toValue (s : Snapshot) : Snapshot.read (ofValue s.toValue) = .ok s :=
  read_of_writtenAs s.writtenAs_toValue

section Fitting

variable {α : Type} {value : α → Value} {level : Nat}

theorem fits_ofInt64 (i : Int64) : Fits level (.ofInt64 i) := by
  have hlow := Int64.le_toInt i
  have hhigh := Int64.toInt_lt i
  exact ⟨by omega, by omega⟩

theorem itemsFit_map {xs : List α} (h : ∀ x, Fits level (value x)) :
    ItemsFit level (xs.map value) := by
  induction xs with
  | nil => trivial
  | cons x xs ih => exact ⟨h x, ih⟩

theorem membersFit_map {es : Entries α} (h : ∀ x, Fits level (value x)) :
    MembersFit level (es.map fun e => (e.1, value e.2)) := by
  induction es with
  | nil => trivial
  | cons e es ih => exact ⟨h e.2, ih⟩

theorem membersFit_append {ms ns : List (String × Value)} (hms : MembersFit level ms)
    (hns : MembersFit level ns) : MembersFit level (ms ++ ns) := by
  induction ms with
  | nil => exact hns
  | cons m ms ih => exact ⟨hms.1, ih hms.2⟩

theorem membersFit_listMember {name : String} {xs : List α} (hlevel : level < depthLimit)
    (h : ∀ x, Fits (level + 1) (value x)) : MembersFit level (listMember name value xs) := by
  rw [listMember]
  split
  · trivial
  · exact ⟨⟨hlevel, itemsFit_map h⟩, trivial⟩

theorem membersFit_componentsMember {m : Components} (hlevel : level + 1 < depthLimit) :
    MembersFit level (componentsMember m) := by
  have hnumbers : ∀ xs : List Int64, Fits (level + 1) (numbersValue xs) :=
    fun xs => ⟨hlevel, itemsFit_map fits_ofInt64⟩
  rw [componentsMember]
  split
  · trivial
  · exact ⟨⟨by omega, membersFit_map hnumbers⟩, trivial⟩

end Fitting

theorem Backend.fits_toValue {level : Nat} (hlevel : level + 2 < depthLimit) (b : Backend) :
    Fits level b.toValue := by
  refine ⟨by omega, membersFit_append ?_ ?_⟩
  · exact membersFit_listMember (by omega) fits_ofInt64
  · exact membersFit_componentsMember (by omega)

theorem Group.fits_toValue {σ : Type} (g : Group σ) {level : Nat}
    (hlevel : level + 4 < depthLimit) (s : σ) : Fits level (g.toValue s) := by
  refine ⟨by omega, membersFit_append (membersFit_append ?_ ?_) ?_⟩
  · exact membersFit_listMember (by omega) fits_ofInt64
  · exact membersFit_listMember (by omega) (Backend.fits_toValue (by omega))
  · exact membersFit_componentsMember (by omega)

theorem fits_toValue {level : Nat} (hlevel : level + 6 < depthLimit) (s : Snapshot) :
    Fits level s.toValue := by
  refine ⟨by omega, membersFit_append (membersFit_append (membersFit_append ?_ ?_) ?_) ?_⟩
  · exact membersFit_listMember (by omega) fits_ofInt64
  · exact membersFit_listMember (by omega) (Agent.group.fits_toValue (by omega))
  · exact membersFit_listMember (by omega) (Endpoint.group.fits_toValue (by omega))
  · exact membersFit_componentsMember (by omega)

theorem read_parse_compact (s : Snapshot) :
    (parse (compact s.toValue)).read Snapshot.read = .ok s := by
  rw [parse_compact (s.fits_toValue (by decide)), Document.read, read_toValue]
  rfl

end Gateway.Snapshot
