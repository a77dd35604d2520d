import Gateway.Config.Load
import Gateway.Proofs.Json.Extent

namespace Gateway.Config

open Datum

section Extent

variable {n : Nat} {d : Datum}

theorem Endpoint.length_backends_le {e : Endpoint} (hd : d.Within n)
    (h : Endpoint.layout.read d = .ok e) : e.backends.length ≤ n := by
  have hbackends : ∀ (d : Datum) (bs : List Backend), d.Within n →
      readList Backend.layout.read d = .ok bs → bs.length ≤ n := by
    intro d bs hd h
    have hread : ∀ d b, d.Within n → Backend.layout.read d = .ok b → True :=
      fun _ _ _ _ => trivial
    exact (readList_induct hread hd h).1
  refine Layout.read_induct (P := fun e => e.backends.length ≤ n) (Nat.zero_le n) ?_ hd h
  intro f hf
  simp only [Endpoint.layout, List.mem_cons, List.not_mem_nil, or_false] at hf
  rcases hf with rfl | rfl | rfl | rfl | rfl | rfl | rfl | rfl
  case inr.inr.inr.inr.inr.inr.inl =>
    exact Layout.keeps_of fun d bs e hd h _ => hbackends d bs hd h
  all_goals exact Layout.keeps_of fun _ _ _ _ _ h => h

theorem length_backends_le {c : Config} (hd : d.Within n) (h : read d = .ok c) :
    ∀ e ∈ c.endpoints, e.backends.length ≤ n := by
  have hendpoints : ∀ (d : Datum) (es : List Endpoint), d.Within n →
      readList Endpoint.layout.read d = .ok es → ∀ e ∈ es, e.backends.length ≤ n := by
    intro d es hd h
    exact (readList_induct (fun _ _ => Endpoint.length_backends_le) hd h).2
  refine Layout.read_induct (P := fun c => ∀ e ∈ c.endpoints, e.backends.length ≤ n) ?_ ?_ hd h
  · intro e he
    cases he
  · intro f hf
    simp only [layout, List.mem_cons, List.not_mem_nil, or_false] at hf
    rcases hf with rfl | rfl | rfl | rfl | rfl | rfl | rfl | rfl | rfl | rfl | rfl | rfl | rfl |
      rfl | rfl | rfl
    case inr.inr.inr.inr.inr.inr.inr.inr.inr.inr.inr.inr.inr.inl =>
      exact Layout.keeps_of fun d es c hd h _ => hendpoints d es hd h
    all_goals exact Layout.keeps_of fun _ _ _ _ _ h => h

end Extent

theorem length_backends_le_of_ofJson {text : Bytes} {c : Config} (h : ofJson text = .ok c) :
    ∀ e ∈ c.endpoints, e.backends.length ≤ text.length := by
  obtain ⟨c', hread, h⟩ := bind_eq_ok_iff.mp (mapError_eq_ok_iff.mp h)
  split at h
  · obtain rfl := Except.ok.inj h
    exact length_backends_le (Json.within_parse text) hread
  · cases h

end Gateway.Config
