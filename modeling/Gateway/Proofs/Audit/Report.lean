import Gateway.Audit.Basic
import Gateway.Proofs.Audit.RuleId
import Mathlib.Data.List.Pairwise

namespace Gateway

def Rule.Before (q r : Rule) : Prop :=
  RuleId.compare q.id r.id = .lt

structure Distinguished (rs : List Rule) : Prop where
  numeric : ∀ r ∈ rs, RuleId.Numeric r.id
  distinct : rs.Pairwise fun q r => RuleId.numbers q.id ≠ RuleId.numbers r.id

namespace Distinguished

variable {r : Rule} {ps rs : List Rule}

theorem head (h : Distinguished (r :: rs)) : ∀ q ∈ rs, RuleId.numbers r.id ≠ RuleId.numbers q.id :=
  (List.pairwise_cons.mp h.distinct).1

theorem sublist (h : Distinguished rs) (hsub : ps.Sublist rs) : Distinguished ps where
  numeric q hq := h.numeric q (hsub.mem hq)
  distinct := h.distinct.sublist hsub

theorem tail (h : Distinguished (r :: rs)) : Distinguished rs :=
  h.sublist (List.sublist_cons_self r rs)

theorem perm (h : Distinguished rs) (hperm : ps.Perm rs) : Distinguished ps where
  numeric q hq := h.numeric q (hperm.mem_iff.mp hq)
  distinct := h.distinct.perm hperm.symm Ne.symm

theorem pairwise_insert (h : Distinguished (r :: rs)) (hrs : rs.Pairwise Rule.Before) :
    (Audit.insert r rs).Pairwise Rule.Before := by
  induction rs with
  | nil => exact List.pairwise_singleton _ r
  | cons q qs ih =>
      have hr := h.numeric r List.mem_cons_self
      have hq := h.tail.numeric q List.mem_cons_self
      have hne := h.head q List.mem_cons_self
      obtain ⟨hbefore, hqs⟩ := List.pairwise_cons.mp hrs
      rw [Audit.insert]
      split
      · next hle =>
          have hrq : r.Before q := by
            rcases RuleId.compare_lt_or_gt hr hq hne with hlt | hgt
            · exact hlt
            · rw [RuleId.compare_swap, hgt] at hle
              cases hle
          refine List.pairwise_cons.mpr ⟨?_, hrs⟩
          intro p hp
          rcases List.mem_cons.mp hp with rfl | hp
          · exact hrq
          · exact RuleId.compare_lt_trans hr hq (h.tail.tail.numeric p hp) hrq (hbefore p hp)
      · next hle =>
          have hqr : q.Before r := by
            rcases RuleId.compare_lt_or_gt hr hq hne with hlt | hgt
            · rw [hlt] at hle
              exact absurd rfl hle
            · exact hgt
          have hrest := h.sublist ((List.sublist_cons_self q qs).cons_cons r)
          refine List.pairwise_cons.mpr ⟨?_, ih hrest hqs⟩
          intro p hp
          rcases List.mem_cons.mp ((Audit.perm_insert r qs).mem_iff.mp hp) with rfl | hp
          · exact hqr
          · exact hbefore p hp

theorem pairwise_sorted (h : Distinguished rs) : (Audit.sorted rs).Pairwise Rule.Before := by
  induction rs with
  | nil => exact List.Pairwise.nil
  | cons r rs ih =>
      have hsorted : Distinguished (r :: Audit.sorted rs) :=
        h.perm ((Audit.perm_sorted rs).cons r)
      exact hsorted.pairwise_insert (ih h.tail)

theorem sorted_eq_of_perm (h : Distinguished rs) (hperm : ps.Perm rs) :
    Audit.sorted ps = Audit.sorted rs := by
  have hsame : (Audit.sorted ps).Perm (Audit.sorted rs) :=
    ((Audit.perm_sorted ps).trans hperm).trans (Audit.perm_sorted rs).symm
  refine List.Perm.eq_of_pairwise ?_ (h.perm hperm).pairwise_sorted h.pairwise_sorted hsame
  intro q r hq hr hqr hrq
  have hswap := RuleId.compare_swap q.id r.id
  rw [hqr, hrq] at hswap
  cases hswap

theorem eq_of_id {q : Rule} (h : Distinguished rs) (hq : q ∈ rs) (hr : r ∈ rs)
    (hid : q.id = r.id) : q = r := by
  have hsymm : Std.Symm fun q r : Rule => RuleId.numbers q.id ≠ RuleId.numbers r.id :=
    ⟨fun _ _ => Ne.symm⟩
  by_contra hne
  exact h.distinct.forall hq hr hne (congrArg RuleId.numbers hid)

end Distinguished

theorem Rule.distinguished_all : Distinguished Rule.all where
  numeric := by decide +kernel
  distinct := by decide +kernel

theorem Settings.allows_iff {t : Settings} {id : String} {severity : Severity} :
    t.allows id severity = true ↔ severity ∈ t.severities ∧ id ∉ t.excluded := by
  simp [Settings.allows]

theorem Rule.distinguished_fired (t : Settings) (s : Snapshot) :
    Distinguished (Audit.fired Rule.all t s) :=
  Rule.distinguished_all.sublist List.filter_sublist

theorem Snapshot.pairwise_audit (s : Snapshot) (t : Settings) :
    (s.audit t).Pairwise fun a b => RuleId.compare a.rule b.rule = .lt :=
  List.pairwise_map.mpr (Rule.distinguished_fired t s).pairwise_sorted

theorem Snapshot.mem_audit_iff (s : Snapshot) (t : Settings) (id : String) (severity : Severity)
    (message : String) :
    ⟨id, severity, message⟩ ∈ s.audit t ↔
      severity ∈ t.severities ∧ id ∉ t.excluded ∧
        ∃ r ∈ Rule.all, r.id = id ∧ r.severity = severity ∧ r.message = message ∧
          r.fires s = true := by
  rw [audit, Audit.mem_recommendations]
  constructor
  · rintro ⟨r, hr, hallows, hfires, hrecommendation⟩
    obtain ⟨rfl, rfl, rfl⟩ := Recommendation.mk.inj hrecommendation
    obtain ⟨hseverity, hexcluded⟩ := Settings.allows_iff.mp hallows
    exact ⟨hseverity, hexcluded, r, hr, rfl, rfl, rfl, hfires⟩
  · rintro ⟨hseverity, hexcluded, r, hr, rfl, rfl, rfl, hfires⟩
    exact ⟨r, hr, Settings.allows_iff.mpr ⟨hseverity, hexcluded⟩, hfires, rfl⟩

theorem Audit.recommendations_of_perm {registry : List Rule} (h : registry.Perm Rule.all)
    (t : Settings) (s : Snapshot) : recommendations registry t s = s.audit t :=
  congrArg (List.map Rule.recommendation)
    ((Rule.distinguished_fired t s).sorted_eq_of_perm (h.filter _))

theorem Rule.reported_iff {id : String} {r : Rule} (h : Rule.find? id = some r) (s : Snapshot) :
    id ∈ (s.audit {}).map (·.rule) ↔ r.fires s = true := by
  obtain ⟨hr, rfl⟩ := Rule.of_find? h
  rw [List.mem_map]
  constructor
  · rintro ⟨⟨id, severity, message⟩, ha, hid⟩
    obtain ⟨-, -, q, hq, rfl, -, -, hfires⟩ := (s.mem_audit_iff {} id severity message).mp ha
    rwa [← Rule.distinguished_all.eq_of_id hq hr hid]
  · intro hfires
    have hexcluded : r.id ∉ ({} : Settings).excluded := List.not_mem_nil
    exact ⟨r.recommendation, (s.mem_audit_iff {} r.id r.severity r.message).mpr
      ⟨Severity.mem_all r.severity, hexcluded, r, hr, rfl, rfl, rfl, hfires⟩, rfl⟩

theorem Snapshot.audit_exact (s : Snapshot) (t : Settings) :
    ((s.audit t).Pairwise fun a b => RuleId.compare a.rule b.rule = .lt) ∧
      (∀ id severity message, ⟨id, severity, message⟩ ∈ s.audit t ↔
        severity ∈ t.severities ∧ id ∉ t.excluded ∧
          ∃ r ∈ Rule.all, r.id = id ∧ r.severity = severity ∧ r.message = message ∧
            r.fires s = true) ∧
      ∀ registry : List Rule, registry.Perm Rule.all →
        Audit.recommendations registry t s = s.audit t := by
  refine ⟨s.pairwise_audit t, s.mem_audit_iff t, ?_⟩
  intro registry h
  exact Audit.recommendations_of_perm h t s

theorem Snapshot.audit_exact_reverse :
    Rule.all.reverse.Perm Rule.all ∧
      Audit.recommendations Rule.all.reverse {} {} = Snapshot.audit {} {} := by
  have hperm : Rule.all.reverse.Perm Rule.all := List.reverse_perm Rule.all
  exact ⟨hperm, (Snapshot.audit_exact {} {}).2.2 Rule.all.reverse hperm⟩

end Gateway
