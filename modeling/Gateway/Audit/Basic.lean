import Gateway.Audit.Rule
import Gateway.Audit.RuleId
import Gateway.Audit.Settings
import Gateway.Snapshot.Projection

namespace Gateway

structure Recommendation where
  rule : String
  severity : Severity
  message : String
  deriving DecidableEq

structure Report where
  recommendations : List Recommendation
  stats : Snapshot
  deriving DecidableEq

def Rule.recommendation (r : Rule) : Recommendation :=
  ⟨r.id, r.severity, r.message⟩

def Report.ruleIds (r : Report) : List String :=
  r.recommendations.map (·.rule)

namespace Audit

def insert (r : Rule) : List Rule → List Rule
  | [] => [r]
  | q :: qs => if (RuleId.compare r.id q.id).isLE then r :: q :: qs else q :: insert r qs

def sorted : List Rule → List Rule
  | [] => []
  | r :: rs => insert r (sorted rs)

theorem perm_insert (r : Rule) (rs : List Rule) : (insert r rs).Perm (r :: rs) := by
  induction rs with
  | nil => exact List.Perm.refl _
  | cons q qs ih =>
      simp only [insert]
      split
      · exact List.Perm.refl _
      · exact (ih.cons q).trans (List.Perm.swap r q qs)

theorem perm_sorted (rs : List Rule) : (sorted rs).Perm rs := by
  induction rs with
  | nil => exact List.Perm.refl _
  | cons r rs ih => exact (perm_insert r (sorted rs)).trans (ih.cons r)

theorem mem_sorted {r : Rule} {rs : List Rule} : r ∈ sorted rs ↔ r ∈ rs :=
  (perm_sorted rs).mem_iff

def fired (registry : List Rule) (t : Settings) (s : Snapshot) : List Rule :=
  registry.filter fun r => t.allows r.id r.severity && r.fires s

def recommendations (registry : List Rule) (t : Settings) (s : Snapshot) : List Recommendation :=
  (sorted (fired registry t s)).map Rule.recommendation

theorem mem_recommendations {registry : List Rule} {t : Settings} {s : Snapshot}
    {a : Recommendation} :
    a ∈ recommendations registry t s ↔
      ∃ r ∈ registry, t.allows r.id r.severity = true ∧ r.fires s = true ∧
        r.recommendation = a := by
  simp [recommendations, fired, mem_sorted, and_assoc]

end Audit

def Snapshot.audit (t : Settings) (s : Snapshot) : List Recommendation :=
  Audit.recommendations Rule.all t s

theorem Snapshot.audit_eq_of_fires {s s' : Snapshot}
    (h : ∀ r ∈ Rule.all, r.fires s = r.fires s') (t : Settings) : s.audit t = s'.audit t := by
  have hfired : Audit.fired Rule.all t s = Audit.fired Rule.all t s' :=
    List.filter_congr fun r hr => by rw [h r hr]
  rw [audit, audit, Audit.recommendations, Audit.recommendations, hfired]

def Config.audit (t : Settings) (c : Config) : Report :=
  ⟨c.snapshot.audit t, c.snapshot⟩

end Gateway
