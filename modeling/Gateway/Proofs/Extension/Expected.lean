import Gateway.Extension.Setting
import Gateway.Proofs.Json.Path

namespace Gateway.Extension

open Json

inductive Kind where
  | boolean
  | number
  | text
  | list
  | object
  deriving DecidableEq

def Kind.of? : Value → Option Kind
  | .null => none
  | .bool _ => some .boolean
  | .number _ => some .number
  | .string _ => some .text
  | .array _ => some .list
  | .object _ => some .object

inductive Expected where
  | anything
  | whole (kinds : List Kind)
  | members (fields : List (String × Expected))
  | items (item : Expected)

abbrev Fields := List (String × Expected)

namespace Expected

def accepts : Expected → Value → Bool
  | .anything, _ => true
  | .whole kinds, v => (Kind.of? v).any (· ∈ kinds)
  | .members _, v => v.object?.isSome
  | .items _, v => v.array?.isSome

mutual

def kept : Expected → Value → Option Value
  | .anything, _ => some .null
  | .whole kinds, v => if (Kind.of? v).any (· ∈ kinds) then some v else none
  | .members fields, .object o => some (.object (keptMembers fields o))
  | .items item, .array vs => some (.array (vs.filterMap item.kept))
  | _, _ => none

def keptMembers : List (String × Expected) → Object → Object
  | [], _ => []
  | (key, e) :: fields, o =>
      (((o.get? key).bind e.kept).map (key, ·)).toList ++ keptMembers fields (o.erase key)

end

def at? : Expected → List Step → Option Expected
  | e, [] => some e
  | .members fields, .member key :: path => (fields.lookup key).bind fun e => e.at? path
  | .items item, .item _ :: path => item.at? path
  | _, _ :: _ => none

theorem kept_eq_none {e : Expected} {v : Value} (h : e.accepts v = false) : e.kept v = none := by
  cases e with
  | anything => cases h
  | whole kinds =>
      rw [kept, if_neg]
      exact Bool.eq_false_iff.mp h
  | members fields =>
      cases v with
      | object o => cases h
      | _ => rfl
  | items item =>
      cases v with
      | array vs => cases h
      | _ => rfl

theorem get?_keptMembers (fields : Fields) (o : Object) (key : String) :
    Entries.get? (keptMembers fields o) key =
      (fields.lookup key).bind fun e => (o.get? key).bind e.kept := by
  induction fields generalizing o with
  | nil => rfl
  | cons field fields ih =>
      obtain ⟨k, e⟩ := field
      rw [keptMembers, List.lookup_cons]
      by_cases hk : key = k
      · subst hk
        rw [beq_self_eq_true]
        cases hv : (Entries.get? o key).bind e.kept with
        | none => simp [ih, Entries.get?_erase, hv]
        | some v => simp [Entries.get?_cons, hv]
      · rw [beq_false_of_ne hk]
        cases (Entries.get? o k).bind e.kept with
        | none => simp [ih, Entries.get?_erase, hk]
        | some v => simp [Entries.get?_cons, ih, Entries.get?_erase, hk]

theorem keptMembers_congr {fields : Fields} {o p : Object}
    (h : ∀ key e, fields.lookup key = some e →
      (o.get? key).bind e.kept = (p.get? key).bind e.kept) :
    keptMembers fields o = keptMembers fields p := by
  induction fields generalizing o p with
  | nil => rfl
  | cons field fields ih =>
      obtain ⟨k, e⟩ := field
      have hhead := h k e List.lookup_cons_self
      have hrest : keptMembers fields (o.erase k) = keptMembers fields (p.erase k) := by
        refine ih fun key e' he' => ?_
        rw [Entries.get?_erase, Entries.get?_erase]
        split
        · rfl
        · next hk => exact h key e' (by rw [List.lookup_cons, beq_false_of_ne hk, he'])
      rw [keptMembers, keptMembers, hhead, hrest]

theorem of_at?_member {e q : Expected} {key : String} {path : List Step}
    (h : e.at? (.member key :: path) = some q) :
    ∃ fields e', e = .members fields ∧ fields.lookup key = some e' ∧ e'.at? path = some q := by
  cases e with
  | members fields =>
      obtain ⟨e', he', hq⟩ := Option.bind_eq_some_iff.mp h
      exact ⟨fields, e', rfl, he', hq⟩
  | _ => cases h

theorem of_at?_item {e q : Expected} {index : Nat} {path : List Step}
    (h : e.at? (.item index :: path) = some q) :
    ∃ item, e = .items item ∧ item.at? path = some q := by
  cases e with
  | items item => exact ⟨item, rfl, h⟩
  | _ => cases h

theorem kept_members_of_get? {fields : Fields} {key : String} {e : Expected} {o p : Object}
    (he : fields.lookup key = some e) (hkey : (p.get? key).bind e.kept = (o.get? key).bind e.kept)
    (hother : ∀ k, k ≠ key → p.get? k = o.get? k) :
    (members fields).kept (.object p) = (members fields).kept (.object o) := by
  rw [kept, kept, keptMembers_congr]
  intro k e' he'
  by_cases hk : k = key
  · subst hk
    obtain rfl : e = e' := Option.some.inj (he.symm.trans he')
    exact hkey
  · rw [hother k hk]

theorem kept_erase {fields : Fields} {key : String} {e : Expected} {o : Object} {v : Value}
    (he : fields.lookup key = some e) (hv : o.get? key = some v) (hnone : e.kept v = none) :
    (members fields).kept (.object (o.erase key)) = (members fields).kept (.object o) := by
  refine kept_members_of_get? he ?_ fun k hk => ?_
  · rw [Entries.get?_erase, if_pos rfl, hv, Option.bind_none, Option.bind_some, hnone]
  · rw [Entries.get?_erase, if_neg hk]

theorem kept_adjust {fields : Fields} {key : String} {e : Expected} {o : Object} {v : Value}
    {f : Value → Value} (he : fields.lookup key = some e) (hv : o.get? key = some v)
    (hsame : e.kept (f v) = e.kept v) :
    (members fields).kept (.object (o.adjust key f)) = (members fields).kept (.object o) := by
  refine kept_members_of_get? he ?_ fun k hk => ?_
  · rw [Entries.get?_adjust, if_pos rfl, hv, Option.map_some, Option.bind_some,
      Option.bind_some, hsame]
  · rw [Entries.get?_adjust, if_neg hk]

-- The induction goes down the path; the last step takes out what would not have been kept.
theorem kept_without {e q : Expected} {v w : Value} {path : List Step} (hpath : path ≠ [])
    (hq : e.at? path = some q) (hw : v.at? path = some w) (hkind : q.accepts w = false) :
    e.kept (v.without path) = e.kept v := by
  induction path generalizing e v with
  | nil => exact absurd rfl hpath
  | cons step path ih =>
      cases step with
      | member key =>
          obtain ⟨fields, e', rfl, he', hq⟩ := of_at?_member hq
          obtain ⟨o, u, rfl, hu, hw⟩ := Value.of_at?_member hw
          cases path with
          | nil =>
              obtain rfl : e' = q := Option.some.inj hq
              obtain rfl : u = w := Option.some.inj hw
              exact kept_erase he' hu (kept_eq_none hkind)
          | cons step path => exact kept_adjust he' hu (ih (List.cons_ne_nil _ _) hq hw)
      | item index =>
          obtain ⟨item, rfl, hq⟩ := of_at?_item hq
          obtain ⟨vs, u, rfl, hu, hw⟩ := Value.of_at?_item hw
          cases path with
          | nil =>
              obtain rfl : item = q := Option.some.inj hq
              obtain rfl : u = w := Option.some.inj hw
              rw [Value.without, kept, kept, filterMap_eraseIdx hu (kept_eq_none hkind)]
          | cons step path =>
              rw [Value.without, kept, kept,
                filterMap_modify hu (ih (List.cons_ne_nil _ _) hq hw)]
              exact List.cons_ne_nil _ _

theorem keptMembers_nil (fields : Fields) : keptMembers fields [] = [] := by
  induction fields with
  | nil => rfl
  | cons field fields ih => exact ih

end Expected

namespace Fields

def takes (fields : Fields) (kind : Kind) (key : String) : Bool :=
  match fields.lookup key with
  | some (.whole kinds) => kind ∈ kinds
  | _ => false

def marks (fields : Fields) (key : String) : Bool :=
  match fields.lookup key with
  | some .anything => true
  | _ => false

end Fields

section Kept

open Expected

variable {fields : Fields} {key : String}

theorem bind_kept {α : Type} {read : Value → Option α} {kind : Kind}
    (h : fields.takes kind key = true) (hread : ∀ v, Kind.of? v ≠ some kind → read v = none)
    (o : Object) : ((keptMembers fields o).get? key).bind read = (o.get? key).bind read := by
  rw [Fields.takes] at h
  rw [get?_keptMembers]
  split at h
  · next kinds hkinds =>
      rw [hkinds, Option.bind_some, Option.bind_assoc]
      refine Option.bind_congr fun v _ => ?_
      rw [kept]
      split
      · rfl
      · next hv =>
          refine (hread v fun hkind => hv ?_).symm
          rw [hkind]
          exact h
  · cases h

variable (o : Object)

theorem isTrue_kept (h : fields.takes .boolean key = true) :
    isTrue (keptMembers fields o) key = isTrue o key := by
  rw [isTrue, isTrue, bind_kept h]
  intro v hv
  cases v <;> first | rfl | exact absurd rfl hv

theorem number?_kept (h : fields.takes .number key = true) :
    number? (keptMembers fields o) key = number? o key := by
  refine bind_kept h (fun v hv => ?_) o
  cases v <;> first | rfl | exact absurd rfl hv

theorem text?_kept (h : fields.takes .text key = true) :
    text? (keptMembers fields o) key = text? o key := by
  refine bind_kept h (fun v hv => ?_) o
  cases v <;> first | rfl | exact absurd rfl hv

theorem list?_kept (h : fields.takes .list key = true) :
    list? (keptMembers fields o) key = list? o key := by
  refine bind_kept h (fun v hv => ?_) o
  cases v <;> first | rfl | exact absurd rfl hv

theorem section?_kept (h : fields.takes .object key = true) :
    Extension.section? (keptMembers fields o) key = section? o key := by
  refine bind_kept h (fun v hv => ?_) o
  cases v <;> first | rfl | exact absurd rfl hv

theorem contains_kept (h : fields.marks key = true) :
    Entries.contains (keptMembers fields o) key = o.contains key := by
  rw [Fields.marks] at h
  rw [Entries.contains, Entries.contains, get?_keptMembers]
  split at h
  · next hkey =>
      rw [hkey, Option.bind_some]
      cases o.get? key <;> rfl
  · cases h

theorem trueBits_kept {table : List (String × Nat)}
    (h : ∀ e ∈ table, fields.takes .boolean e.1 = true) :
    trueBits (keptMembers fields o) table = trueBits o table :=
  List.map_congr_left fun e he => congrArg (·, e.2) (isTrue_kept o (h e he))

theorem presentBits_kept {table : List (String × Nat)}
    (h : ∀ e ∈ table, fields.marks e.1 = true) :
    presentBits (keptMembers fields o) table = presentBits o table :=
  List.map_congr_left fun e he => congrArg (·, e.2) (contains_kept o (h e he))

theorem section?_kept_members {inner : Fields} (h : fields.lookup key = some (.members inner)) :
    Extension.section? (keptMembers fields o) key = (section? o key).map (keptMembers inner) := by
  rw [section?, section?, get?_keptMembers, h, Option.bind_some]
  cases o.get? key with
  | none => rfl
  | some v => cases v <;> rfl

theorem getD_section?_kept {inner : Fields} (h : fields.lookup key = some (.members inner)) :
    (section? (keptMembers fields o) key).getD [] =
      keptMembers inner ((section? o key).getD []) := by
  rw [section?_kept_members o h]
  cases section? o key with
  | none => exact (keptMembers_nil inner).symm
  | some s => rfl

theorem list?_kept_items {item : Expected} (h : fields.lookup key = some (.items item)) :
    list? (keptMembers fields o) key = (list? o key).map (List.filterMap item.kept) := by
  rw [list?, list?, get?_keptMembers, h, Option.bind_some]
  cases o.get? key with
  | none => rfl
  | some v => cases v <;> rfl

end Kept

end Gateway.Extension
