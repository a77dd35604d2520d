import Gateway.Proofs.Snapshot.Alias

namespace Gateway.Snapshot

inductive Rewriting where
  | shorten
  | expand
  deriving DecidableEq

namespace Rewriting

def apply : Rewriting → Components → Components
  | .shorten => Snapshot.shorten
  | .expand => Snapshot.expand

def run (steps : List Rewriting) (m : Components) : Components :=
  steps.foldl (fun m step => step.apply m) m

def asRenaming : Rewriting → Renaming
  | .shorten => AliasTable.standard.toRenaming AliasTable.standard_lawful
  | .expand => (AliasTable.standard.toRenaming AliasTable.standard_lawful).symm

theorem apply_eq (step : Rewriting) : step.apply = step.asRenaming.apply := by
  cases step <;> rfl

theorem apply_apply (step : Rewriting) (m : Components) :
    step.apply (step.apply m) = step.apply m := by
  rw [apply_eq]
  exact step.asRenaming.apply_apply m

theorem apply_apply_apply (step other : Rewriting) (m : Components) :
    step.apply (other.apply (step.apply m)) = step.apply m := by
  by_cases h : other = step
  · rw [h, apply_apply, apply_apply]
  · have hother : other.asRenaming = step.asRenaming.symm := by
      cases step <;> cases other <;> trivial
    rw [apply_eq, apply_eq, hother]
    exact step.asRenaming.apply_symm_apply_apply m

theorem eq_of_ne_of_ne {a b c : Rewriting} (hab : a ≠ c) (hbc : b ≠ c) : a = b := by
  cases a <;> cases b <;> cases c <;> trivial

def collapsed (first last : Rewriting) (m : Components) : Components :=
  if last = first then first.apply m else last.apply (first.apply m)

theorem apply_collapsed (first last next : Rewriting) (m : Components) :
    next.apply (collapsed first last m) = collapsed first next m := by
  by_cases hnext : next = first
  · rw [collapsed, collapsed, if_pos hnext, hnext]
    split
    · exact first.apply_apply m
    · exact first.apply_apply_apply last m
  · rw [collapsed, collapsed, if_neg hnext]
    split
    · rfl
    · next hlast => rw [eq_of_ne_of_ne hlast hnext, apply_apply]

theorem run_collapsed (first last : Rewriting) (rest : List Rewriting) (m : Components) :
    run rest (collapsed first last m) = collapsed first (rest.getLastD last) m := by
  induction rest generalizing last with
  | nil => rfl
  | cons next rest ih =>
      rw [List.getLastD_cons, ← ih next, ← apply_collapsed first last next m]
      rfl

end Rewriting

open Rewriting

theorem rewritings_collapse :
    (∀ (first : Rewriting) (rest : List Rewriting) (m : Components),
      run (first :: rest) m =
        if (first :: rest).getLast (List.cons_ne_nil first rest) = first then first.apply m
        else ((first :: rest).getLast (List.cons_ne_nil first rest)).apply (first.apply m)) ∧
    ∀ m : Components, shorten (shorten m) = shorten m ∧ expand (expand m) = expand m ∧
      shorten (expand (shorten m)) = shorten m ∧ expand (shorten (expand m)) = expand m := by
  constructor
  · intro first rest m
    rw [List.getLast_eq_getLastD]
    have h := run_collapsed first first rest m
    rw [collapsed, if_pos rfl] at h
    exact h
  · intro m
    exact ⟨apply_apply .shorten m, apply_apply .expand m, apply_apply_apply .shorten .expand m,
      apply_apply_apply .expand .shorten m⟩

end Gateway.Snapshot
