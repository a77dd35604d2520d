import Gateway.Proofs.Datum.Reader
import Mathlib.Data.List.Forall2

namespace Gateway

namespace Json

def IsBool (v : Value) : Prop :=
  ∃ b, v = .bool b

def IsString (v : Value) : Prop :=
  ∃ s, v = .string s

def IsListOf (fits : Value → Prop) : Value → Prop
  | .array items => ∀ item ∈ items, fits item
  | _ => False

abbrev Shape := Entries (Value → Prop)

def Shape.Admits (shape : Shape) : Value → Prop
  | .object members =>
      ((members.map (·.1)).filter shape.contains).Nodup ∧
        ∀ m ∈ members, ∀ fits, shape.get? m.1 = some fits → fits m.2
  | .array items => items.length ≤ shape.length ∧ ∀ p ∈ shape.zip items, p.1.2 p.2
  | _ => False

end Json

open Json

def Reader.Accepts {α : Type} (read : Reader α) (v : Value) : Prop :=
  ∃ x, read (Datum.ofValue v) = .ok x

namespace Datum

mutual

theorem isComplete_ofValue (v : Value) : (ofValue v).isComplete = true := by
  cases v with
  | array items => simp only [ofValue, isComplete, allComplete_ofValues items]; rfl
  | object members => simp only [ofValue, isComplete, membersComplete_ofMembers members]; rfl
  | _ => rfl

theorem allComplete_ofValues (vs : List Value) : allComplete (ofValues vs) = true := by
  cases vs with
  | nil => rfl
  | cons v vs => rw [ofValues, allComplete, isComplete_ofValue v, allComplete_ofValues vs]; rfl

theorem membersComplete_ofMembers (ms : List (String × Value)) :
    membersComplete (ofMembers ms) = true := by
  cases ms with
  | nil => rfl
  | cons m ms =>
      rw [ofMembers, membersComplete, isComplete_ofValue m.2, membersComplete_ofMembers ms]; rfl

end

theorem accepts_readBool (v : Value) : Reader.Accepts readBool v ↔ IsBool v := by
  cases v <;> simp [Reader.Accepts, IsBool, ofValue, readBool]

theorem accepts_readString (v : Value) : Reader.Accepts readString v ↔ IsString v := by
  cases v <;> simp [Reader.Accepts, IsString, ofValue, readString]

section Lists

variable {α : Type} {read : Reader α} {fits : Value → Prop}

theorem accepts_readEach (h : ∀ v, read.Accepts v ↔ fits v) (vs : List Value) :
    (∃ xs, readEach read (ofValues vs) = .ok xs) ↔ ∀ v ∈ vs, fits v := by
  induction vs with
  | nil => simp [ofValues, readEach]
  | cons v vs ih =>
      rw [List.forall_mem_cons, ← h, ← ih, ofValues, readEach]
      constructor
      · rintro ⟨xs, hxs⟩
        obtain ⟨y, hy, hxs⟩ := bind_eq_ok_iff.mp hxs
        obtain ⟨ys, hys, -⟩ := bind_eq_ok_iff.mp hxs
        exact ⟨⟨y, hy⟩, ys, hys⟩
      · rintro ⟨⟨y, hy⟩, ys, hys⟩
        exact ⟨y :: ys, by rw [hy, hys]; rfl⟩

theorem accepts_readList (h : ∀ v, read.Accepts v ↔ fits v) (v : Value) :
    Reader.Accepts (readList read) v ↔ IsListOf fits v := by
  cases v with
  | array items =>
      rw [IsListOf, ← accepts_readEach h]
      constructor
      · rintro ⟨xs, hxs⟩
        obtain ⟨ys, hys, -⟩ := bind_eq_ok_iff.mp hxs
        exact ⟨ys, hys⟩
      · rintro ⟨ys, hys⟩
        exact ⟨ys, by rw [ofValue, readList, hys]; rfl⟩
  | _ => simp [Reader.Accepts, IsListOf, ofValue, readList]

end Lists

end Datum

namespace Layout

variable {σ : Type} {fields : List (Field σ)} {shape : Shape}

def Takes (f : Field σ) (e : String × (Value → Prop)) : Prop :=
  f.name = e.1 ∧ ∀ v s, (∃ s', f.read (Datum.ofValue v) s = .ok s') ↔ e.2 v

theorem takes_of {α : Type} {read : Reader α} {fits : Value → Prop} (name : String)
    (put : α → σ → σ) (h : ∀ v, read.Accepts v ↔ fits v) :
    Takes (.of name read put) (name, fits) := by
  refine ⟨rfl, fun v s => Iff.trans ?_ (h v)⟩
  constructor
  · rintro ⟨s', hs'⟩
    obtain ⟨x, hx, -⟩ := map_eq_ok_iff.mp hs'
    exact ⟨x, hx⟩
  · rintro ⟨x, hx⟩
    exact ⟨put x s, map_eq_ok_iff.mpr ⟨x, hx, rfl⟩⟩

theorem find?_of_takes (h : List.Forall₂ Takes fields shape) (k : String) :
    (fields.find? (·.name == k) = none ∧ shape.get? k = none) ∨
      ∃ f fits, fields.find? (·.name == k) = some f ∧ shape.get? k = some fits ∧
        Takes f (k, fits) := by
  induction h with
  | nil => exact .inl ⟨rfl, rfl⟩
  | @cons f e fs es hf _ ih =>
      rw [Entries.get?_cons, List.find?_cons, hf.1]
      by_cases hk : k = e.1
      · subst hk
        exact .inr ⟨f, e.2, by simp, by simp, hf⟩
      · have hne : (e.1 == k) = false := by simpa using Ne.symm hk
        rw [hne, if_neg hk]
        exact ih

theorem readMembers_ofMembers_ok_iff (h : List.Forall₂ Takes fields shape) (o : Object)
    (seen : List String) (s : σ) :
    (∃ r, readMembers fields (Datum.ofMembers o) seen s = .ok r) ↔
      ((o.map (·.1)).filter shape.contains).Nodup ∧
        ((o.map (·.1)).filter shape.contains).Disjoint seen ∧
          ∀ m ∈ o, ∀ fits, shape.get? m.1 = some fits → fits m.2 := by
  induction o generalizing seen s with
  | nil => simp [Datum.ofMembers, readMembers]
  | cons m ms ih =>
      rw [Datum.ofMembers, List.forall_mem_cons, List.map_cons]
      rcases find?_of_takes h m.1 with ⟨hfind, hshape⟩ | ⟨f, fits, hfind, hshape, hf⟩
      · have hcontains : ¬ shape.contains m.1 = true := by simp [Entries.contains, hshape]
        rw [readMembers_cons_other hfind (Datum.isComplete_ofValue m.2), ih,
          List.filter_cons_of_neg hcontains]
        simp [hshape]
      · have hcontains : shape.contains m.1 = true := by simp [Entries.contains, hshape]
        have hm : (∃ s', f.read (Datum.ofValue m.2) s = .ok s') ↔ fits m.2 := hf.2 m.2 s
        simp only [readMembers_cons_eq_ok_iff hfind, List.filter_cons_of_pos hcontains,
          List.nodup_cons, List.disjoint_cons_left, hshape, Option.some.injEq, forall_eq', ← hm]
        constructor
        · rintro ⟨r, hk, s', hread, hrest⟩
          obtain ⟨hnodup, hdisjoint, hall⟩ := (ih (m.1 :: seen) s').mp ⟨r, hrest⟩
          obtain ⟨hnot, hdisjoint⟩ := List.disjoint_cons_right.mp hdisjoint
          exact ⟨⟨hnot, hnodup⟩, ⟨hk, hdisjoint⟩, ⟨s', hread⟩, hall⟩
        · rintro ⟨⟨hnot, hnodup⟩, ⟨hk, hdisjoint⟩, ⟨s', hread⟩, hall⟩
          have hdisjoint := List.disjoint_cons_right.mpr ⟨hnot, hdisjoint⟩
          obtain ⟨r, hr⟩ := (ih (m.1 :: seen) s').mpr ⟨hnodup, hdisjoint, hall⟩
          exact ⟨r, hk, s', hread, hr⟩

theorem readItems_ofValues_ok_iff (h : List.Forall₂ Takes fields shape) (vs : List Value) (s : σ) :
    (∃ lacking s', readItems fields (Datum.ofValues vs) s = .ok (lacking, false, s')) ↔
      vs.length ≤ shape.length ∧ ∀ p ∈ shape.zip vs, p.1.2 p.2 := by
  induction h generalizing vs s with
  | nil => cases vs <;> simp [Datum.ofValues, readItems]
  | @cons f e fs es hf _ ih =>
      cases vs with
      | nil => simp [Datum.ofValues, readItems]
      | cons v vs =>
          rw [List.zip_cons_cons, List.forall_mem_cons, ← hf.2 v s, Datum.ofValues, readItems,
            List.length_cons, List.length_cons, Nat.add_le_add_iff_right]
          constructor
          · rintro ⟨lacking, s', hread⟩
            obtain ⟨t, ht, hrest⟩ := bind_eq_ok_iff.mp hread
            obtain ⟨hlength, hall⟩ := (ih vs t).mp ⟨lacking, s', hrest⟩
            exact ⟨hlength, ⟨t, ht⟩, hall⟩
          · rintro ⟨hlength, ⟨t, ht⟩, hall⟩
            obtain ⟨lacking, s', hrest⟩ := (ih vs t).mpr ⟨hlength, hall⟩
            exact ⟨lacking, s', by rw [ht]; exact hrest⟩

theorem accepts_read {layout : Layout σ} (hrequired : layout.required = false)
    (h : List.Forall₂ Takes layout.fields shape) (v : Value) :
    Reader.Accepts layout.read v ↔ shape.Admits v := by
  cases v with
  | object o =>
      have hmembers := readMembers_ofMembers_ok_iff h o [] layout.start
      simp only [List.disjoint_nil_right, true_and] at hmembers
      rw [Shape.Admits, ← hmembers, Reader.Accepts, Datum.ofValue]
      constructor
      · rintro ⟨s, hs⟩
        obtain ⟨seen, hr⟩ := exists_of_read_record hs
        exact ⟨(seen, s), hr⟩
      · rintro ⟨⟨seen, s⟩, hr⟩
        exact ⟨s, read_record hrequired hr⟩
  | array vs =>
      rw [Shape.Admits, ← readItems_ofValues_ok_iff h vs layout.start, Reader.Accepts,
        Datum.ofValue, read, hrequired]
      constructor
      · rintro ⟨s, hs⟩
        obtain ⟨⟨lacking, surplus, s'⟩, hr, hs⟩ := bind_eq_ok_iff.mp hs
        cases surplus with
        | true => cases hs
        | false => exact ⟨lacking, s', hr⟩
      · rintro ⟨lacking, s', hr⟩
        exact ⟨s', by rw [hr]; rfl⟩
  | _ => simp [Reader.Accepts, Shape.Admits, Datum.ofValue, read]

section Member

variable {β : Type} {get : σ → β} {value? : Value → Option β} {name : String}

def Tracks (get : σ → β) (value? : Value → Option β) (name : String) (f : Field σ) : Prop :=
  ∀ v s s', f.read (Datum.ofValue v) s = .ok s' →
    if f.name = name then value? v = some (get s') else get s' = get s

theorem tracks_of {α : Type} {read : Reader α} {put : α → σ → σ}
    (h : ∀ v x s, read (Datum.ofValue v) = .ok x → value? v = some (get (put x s))) :
    Tracks get value? name (.of name read put) := by
  intro v s s' hread
  obtain ⟨x, hx, rfl⟩ := map_eq_ok_iff.mp hread
  have hname : (Field.of name read put).name = name := rfl
  rw [if_pos hname]
  exact h v x s hx

theorem tracks_of_ne {α : Type} {read : Reader α} {put : α → σ → σ} {other : String}
    (hne : other ≠ name) (h : ∀ x s, get (put x s) = get s) :
    Tracks get value? name (.of other read put) := by
  intro v s s' hread
  obtain ⟨x, -, rfl⟩ := map_eq_ok_iff.mp hread
  have hname : (Field.of other read put).name ≠ name := hne
  rw [if_neg hname]
  exact h x s

variable {o : Object} {seen seen' : List String} {s s' : σ}

theorem get_readMembers_of_mem (htracks : ∀ f ∈ fields, Tracks get value? name f)
    (hseen : name ∈ seen)
    (h : readMembers fields (Datum.ofMembers o) seen s = .ok (seen', s')) : get s' = get s := by
  induction o generalizing seen s with
  | nil =>
      cases h
      rfl
  | cons m ms ih =>
      rw [Datum.ofMembers] at h
      cases hfind : fields.find? (·.name == m.1) with
      | none =>
          rw [readMembers_cons_other hfind (Datum.isComplete_ofValue m.2)] at h
          exact ih hseen h
      | some f =>
          obtain ⟨hnot, t, hread, hrest⟩ := (readMembers_cons_eq_ok_iff hfind).mp h
          obtain ⟨hf, hname⟩ := of_find? hfind
          have hne : f.name ≠ name := fun heq => hnot (hname ▸ heq ▸ hseen)
          have ht := htracks f hf m.2 s t hread
          rw [if_neg hne] at ht
          rw [ih (List.mem_cons_of_mem _ hseen) hrest, ht]

theorem get_readMembers (htracks : ∀ f ∈ fields, Tracks get value? name f)
    (hfield : ∃ f ∈ fields, f.name = name) (hseen : name ∉ seen)
    (h : readMembers fields (Datum.ofMembers o) seen s = .ok (seen', s')) :
    get s' = ((o.get? name).bind value?).getD (get s) := by
  induction o generalizing seen s with
  | nil =>
      cases h
      rfl
  | cons m ms ih =>
      rw [Datum.ofMembers] at h
      rw [Entries.get?_cons]
      cases hfind : fields.find? (·.name == m.1) with
      | none =>
          obtain ⟨f, hf, hname⟩ := hfield
          have hne : name ≠ m.1 := fun heq => by
            simpa [hname, heq] using List.find?_eq_none.mp hfind f hf
          rw [readMembers_cons_other hfind (Datum.isComplete_ofValue m.2)] at h
          rw [if_neg hne, ih hseen h]
      | some f =>
          obtain ⟨-, t, hread, hrest⟩ := (readMembers_cons_eq_ok_iff hfind).mp h
          obtain ⟨hf, hname⟩ := of_find? hfind
          have ht := htracks f hf m.2 s t hread
          by_cases heq : f.name = name
          · rw [if_pos heq] at ht
            have hmem : name ∈ m.1 :: seen := by simp [← hname, heq]
            rw [get_readMembers_of_mem htracks hmem hrest, if_pos (heq.symm.trans hname),
              Option.bind_some, ht, Option.getD_some]
          · rw [if_neg heq] at ht
            have hne : name ≠ m.1 := fun h' => heq (hname.trans h'.symm)
            have hnot : name ∉ m.1 :: seen := by simp [hne, hseen]
            rw [if_neg hne, ih hnot hrest, ht]

theorem get_read_object (get : σ → β) {layout : Layout σ}
    (htracks : ∀ f ∈ layout.fields, Tracks get value? name f)
    (hfield : ∃ f ∈ layout.fields, f.name = name)
    (h : layout.read (Datum.ofValue (.object o)) = .ok s) :
    get s = ((o.get? name).bind value?).getD (get layout.start) := by
  rw [Datum.ofValue] at h
  obtain ⟨seen, hmembers⟩ := exists_of_read_record h
  exact get_readMembers htracks hfield List.not_mem_nil hmembers

end Member

end Layout

end Gateway
