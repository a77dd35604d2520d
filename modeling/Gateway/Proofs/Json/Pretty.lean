import Gateway.Proofs.Json.Text

namespace Gateway.Json

open Ascii

theorem blank_newLine (indent : Nat) : Blank (newLine indent) := by
  have hfeed : isBlank lineFeed = true := by decide
  have hspace : isBlank space = true := by decide
  intro b hb
  rw [newLine, List.mem_cons, List.mem_replicate] at hb
  rcases hb with rfl | ⟨-, rfl⟩
  · exact hfeed
  · exact hspace

theorem blank_space : Blank [space] := by
  simp [Blank, isBlank]

mutual

theorem spells_pretty (indent : Nat) (v : Value) : Spells v (pretty indent v) := by
  match v with
  | .null | .bool _ | .number _ | .string _ => rfl
  | .array [] => exact spells_compact (.array [])
  | .object [] => exact spells_compact (.object [])
  | .array (v :: vs) =>
      have hitems := spellsItems_prettyItems (indent + 1) (v :: vs) (by simp)
        (blank_newLine (indent + 1)) (blank_newLine indent)
      exact ⟨_, hitems, by simp [pretty]⟩
  | .object (m :: ms) =>
      have hmembers := spellsMembers_prettyMembers (indent + 1) (m :: ms) (by simp)
        (blank_newLine (indent + 1)) (blank_newLine indent)
      exact ⟨_, hmembers, by simp [pretty]⟩

theorem spellsItems_prettyItems (indent : Nat) (vs : List Value) (hne : vs ≠ []) {a b : Bytes}
    (ha : Blank a) (hb : Blank b) : SpellsItems vs (a ++ prettyItems indent vs ++ b) := by
  match vs with
  | [] => exact absurd rfl hne
  | [v] => exact ⟨a, _, b, ha, spells_pretty indent v, hb, by simp [prettyItems]⟩
  | v :: w :: vs =>
      have hmore := spellsItems_prettyItems indent (w :: vs) (by simp) (blank_newLine indent) hb
      exact ⟨a, _, [], _, ha, spells_pretty indent v, blank_nil, hmore, by simp [prettyItems]⟩

theorem spellsMembers_prettyMembers (indent : Nat) (ms : List (String × Value)) (hne : ms ≠ [])
    {a b : Bytes} (ha : Blank a) (hb : Blank b) :
    SpellsMembers ms (a ++ prettyMembers indent ms ++ b) := by
  match ms with
  | [] => exact absurd rfl hne
  | [(k, v)] =>
      exact ⟨a, [], [space], _, b, ha, blank_nil, blank_space, spells_pretty indent v, hb,
        by simp [prettyMembers]⟩
  | (k, v) :: m :: ms =>
      have hmore := spellsMembers_prettyMembers indent (m :: ms) (by simp) (blank_newLine indent) hb
      exact ⟨a, [], [space], _, [], _, ha, blank_nil, blank_space, spells_pretty indent v,
        blank_nil, hmore, by simp [prettyMembers]⟩

end

end Gateway.Json
