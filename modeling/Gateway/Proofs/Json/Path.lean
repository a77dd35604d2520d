import Gateway.Json.Value

namespace Gateway

section Filter

variable {α β : Type} {f : α → Option β} {g : α → α} {xs : List α} {x : α} {index : Nat}

theorem filterMap_eraseIdx (hx : xs[index]? = some x) (hf : f x = none) :
    (xs.eraseIdx index).filterMap f = xs.filterMap f := by
  induction xs generalizing index with
  | nil => rfl
  | cons y ys ih =>
      cases index with
      | zero =>
          obtain rfl : y = x := Option.some.inj hx
          rw [List.eraseIdx_cons_zero, List.filterMap_cons_none hf]
      | succ index => rw [List.eraseIdx_cons_succ, List.filterMap_cons, List.filterMap_cons, ih hx]

theorem filterMap_modify (hx : xs[index]? = some x) (hf : f (g x) = f x) :
    (xs.modify index g).filterMap f = xs.filterMap f := by
  induction xs generalizing index with
  | nil => rw [List.modify_nil]
  | cons y ys ih =>
      cases index with
      | zero =>
          obtain rfl : y = x := Option.some.inj hx
          rw [List.modify_zero_cons, List.filterMap_cons, List.filterMap_cons, hf]
      | succ index => rw [List.modify_succ_cons, List.filterMap_cons, List.filterMap_cons, ih hx]

end Filter

namespace Entries

variable {α : Type}

def adjust (key : String) (f : α → α) (es : Entries α) : Entries α :=
  es.map fun e => if e.1 = key then (e.1, f e.2) else e

theorem get?_adjust (key : String) (f : α → α) (es : Entries α) (k : String) :
    (es.adjust key f).get? k = if k = key then (es.get? k).map f else es.get? k := by
  induction es with
  | nil => simp [adjust]
  | cons e es ih =>
      have hrest : get? (es.map fun e => if e.1 = key then (e.1, f e.2) else e) k =
          if k = key then (get? es k).map f else get? es k := ih
      rw [adjust, List.map_cons, get?_cons, get?_cons, hrest]
      by_cases he : e.1 = key
      · rw [if_pos he]
        by_cases hk : k = e.1
        · rw [if_pos hk, if_pos hk, if_pos (hk.trans he), Option.map_some]
        · rw [if_neg hk, if_neg hk]
      · rw [if_neg he]
        by_cases hk : k = e.1
        · rw [if_pos hk, if_pos hk, if_neg (hk ▸ he)]
        · rw [if_neg hk, if_neg hk]

end Entries

namespace Json

inductive Step where
  | member (key : String)
  | item (index : Nat)

namespace Value

def at? : Value → List Step → Option Value
  | v, [] => some v
  | .object o, .member key :: path => (Entries.get? o key).bind fun v => v.at? path
  | .array vs, .item index :: path => vs[index]?.bind fun v => v.at? path
  | _, _ :: _ => none

theorem of_at?_member {v w : Value} {key : String} {path : List Step}
    (h : v.at? (.member key :: path) = some w) :
    ∃ o u, v = .object o ∧ Entries.get? o key = some u ∧ u.at? path = some w := by
  cases v with
  | object o =>
      obtain ⟨u, hu, hw⟩ := Option.bind_eq_some_iff.mp h
      exact ⟨o, u, rfl, hu, hw⟩
  | _ => cases h

theorem of_at?_item {v w : Value} {index : Nat} {path : List Step}
    (h : v.at? (.item index :: path) = some w) :
    ∃ vs u, v = .array vs ∧ vs[index]? = some u ∧ u.at? path = some w := by
  cases v with
  | array vs =>
      obtain ⟨u, hu, hw⟩ := Option.bind_eq_some_iff.mp h
      exact ⟨vs, u, rfl, hu, hw⟩
  | _ => cases h

def without : Value → List Step → Value
  | .object o, [.member key] => .object (Entries.erase o key)
  | .object o, .member key :: path => .object (Entries.adjust key (fun v => v.without path) o)
  | .array vs, [.item index] => .array (vs.eraseIdx index)
  | .array vs, .item index :: path => .array (vs.modify index fun v => v.without path)
  | v, _ => v

theorem without_object (o : Object) (path : List Step) :
    ∃ p, (Value.object o).without path = .object p := by
  match path with
  | [] => exact ⟨o, rfl⟩
  | [.member key] => exact ⟨o.erase key, rfl⟩
  | .member key :: step :: path => exact ⟨o.adjust key (·.without (step :: path)), rfl⟩
  | .item _ :: _ => exact ⟨o, rfl⟩

end Value

end Json

end Gateway
