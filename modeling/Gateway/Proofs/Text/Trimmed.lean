import Gateway.Text.Basic
import Mathlib.Data.List.TakeWhile

namespace Gateway.Text

section Run

variable {p : Char → Bool} {body rest : List Char}

theorem takeWhile_append_of_stop (hbody : ∀ c ∈ body, p c = true)
    (hrest : ∀ c ∈ rest.head?, p c = false) : (body ++ rest).takeWhile p = body := by
  rw [List.takeWhile_append_of_pos hbody]
  cases rest with
  | nil => exact List.append_nil body
  | cons c rest => rw [List.takeWhile_cons, hrest c rfl, if_neg Bool.false_ne_true, List.append_nil]

theorem dropWhile_append_of_stop (hbody : ∀ c ∈ body, p c = true)
    (hrest : ∀ c ∈ rest.head?, p c = false) : (body ++ rest).dropWhile p = rest := by
  rw [List.dropWhile_append_of_pos hbody]
  cases rest with
  | nil => rfl
  | cons c rest => rw [List.dropWhile_cons, hrest c rfl, if_neg Bool.false_ne_true]

theorem of_mem_head?_append {P : Char → Prop} (hne : body ≠ []) (hbody : ∀ c ∈ body.head?, P c) :
    ∀ c ∈ (body ++ rest).head?, P c := by
  cases body with
  | nil => exact absurd rfl hne
  | cons d body => exact hbody

theorem head?_dropWhile_stop (cs : List Char) :
    ∀ c ∈ (cs.dropWhile p).head?, p c = false := by
  intro c hc
  have h := List.head?_dropWhile_not p cs
  rwa [Option.mem_def.mp hc] at h

end Run

structure Trims (cs t : List Char) : Prop where
  around : ∃ before after, cs = before ++ (t ++ after) ∧ (∀ c ∈ before, isBlank c = true) ∧
    ∀ c ∈ after, isBlank c = true
  first : ∀ c ∈ t.head?, isBlank c = false
  last : ∀ c ∈ t.getLast?, isBlank c = false

variable {cs t : List Char}

theorem trimmed_of_trims (h : Trims cs t) : trimmed cs = t := by
  obtain ⟨before, after, rfl, hbefore, hafter⟩ := h.around
  rw [trimmed, List.dropWhile_append_of_pos hbefore]
  by_cases hne : t = []
  · rw [hne, List.nil_append, List.dropWhile_eq_nil_iff.mpr hafter]
    rfl
  · have hkept : (t ++ after).dropWhile isBlank = t ++ after :=
      dropWhile_append_of_stop (List.forall_mem_nil _) (of_mem_head?_append hne h.first)
    have hback : (after.reverse ++ t.reverse).dropWhile isBlank = t.reverse := by
      refine dropWhile_append_of_stop (fun c hc => hafter c (List.mem_reverse.mp hc)) ?_
      rw [List.head?_reverse]
      exact h.last
    rw [hkept, List.reverse_append, hback, List.reverse_reverse]

theorem trims_trimmed (cs : List Char) : Trims cs (trimmed cs) := by
  have hfront := List.takeWhile_append_dropWhile (p := isBlank) (l := cs)
  have hback := List.takeWhile_append_dropWhile (p := isBlank) (l := (cs.dropWhile isBlank).reverse)
  have hkept : trimmed cs ++ ((cs.dropWhile isBlank).reverse.takeWhile isBlank).reverse =
      cs.dropWhile isBlank := by
    rw [trimmed, ← List.reverse_append, hback, List.reverse_reverse]
  refine ⟨⟨_, _, (hkept ▸ hfront).symm, fun _ => List.mem_takeWhile_imp, ?_⟩, ?_, ?_⟩
  · intro c hc
    exact List.mem_takeWhile_imp (List.mem_reverse.mp hc)
  · intro c hc
    refine head?_dropWhile_stop cs c ?_
    rw [← hkept, List.head?_append, Option.mem_def.mp hc]
    rfl
  · rw [trimmed, List.getLast?_reverse]
    exact head?_dropWhile_stop (cs.dropWhile isBlank).reverse

end Gateway.Text
