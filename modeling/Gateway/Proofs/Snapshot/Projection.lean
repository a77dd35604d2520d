import Gateway.Audit.Check
import Gateway.Snapshot.Projection

namespace Gateway

namespace Extension

open Json

theorem get?_components (x : Extensions) (ns : String) :
    (components x).get? ns = (x.get? ns).map (summary ns) :=
  KeyMap.get?_map summary x ns

theorem contains_components (x : Extensions) (ns : String) :
    (components x).contains ns = x.contains ns :=
  KeyMap.contains_map summary x ns

section Summary

variable {ns : String} {summarize : Object → List Int64}

theorem summary_eq (hns : summaries.lookup ns = some summarize) (v : Value) :
    summary ns v = (v.object?.map summarize).getD [] := by
  cases v with
  | object o => simp only [summary, hns, Value.object?, Option.map_some, Option.getD_some]
  | _ => simp only [summary, hns, Value.object?, Option.map_none, Option.getD_none]

theorem firstHasBit_components_iff (hns : summaries.lookup ns = some summarize) (x : Extensions)
    {bit : Nat} (hbit : bit < 64) :
    Check.firstHasBit (components x) ns bit = true ↔
      ∃ o, x.get? ns = some (.object o) ∧ Bits.hasBit (entryAt (summarize o) 0) bit = true := by
  have hzero : Bits.hasBit (entryAt [] 0) bit = false := Bits.hasBit_zero hbit
  rw [Check.firstHasBit, get?_components]
  cases x.get? ns with
  | none => simp
  | some v => cases v <;> simp [summary_eq hns, Value.object?, hzero]

theorem startsWith_components_iff (hns : summaries.lookup ns = some summarize) (x : Extensions)
    (number : Int64) :
    Check.startsWith (components x) ns number = true ↔
      ∃ o, x.get? ns = some (.object o) ∧ (summarize o).head? = some number := by
  rw [Check.startsWith, get?_components]
  cases x.get? ns with
  | none => simp
  | some v => cases v <;> simp [summary_eq hns, Value.object?]

end Summary

end Extension

namespace Config

theorem attached_snapshot (c : Config) (ns : String) :
    Check.attached ns c.snapshot = c.extensions.contains ns :=
  Extension.contains_components c.extensions ns

def allBackends (c : Config) : List Backend :=
  c.endpoints.flatMap (·.backends) ++ c.agents.flatMap (·.backends)

theorem mem_allBackends {c : Config} {b : Backend} :
    b ∈ c.allBackends ↔
      (∃ e ∈ c.endpoints, b ∈ e.backends) ∨ ∃ a ∈ c.agents, b ∈ a.backends := by
  simp only [allBackends, List.mem_append, List.mem_flatMap]

theorem allBackends_snapshot (c : Config) :
    c.snapshot.allBackends = c.allBackends.map (·.snapshot) := by
  simp only [Snapshot.allBackends, snapshot, allBackends, List.flatMap_map, List.map_append,
    List.map_flatMap, Endpoint.snapshot, Agent.snapshot]

end Config

end Gateway
