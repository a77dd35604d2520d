import Gateway.Proofs.Audit.Footprint
import Mathlib.Data.List.GetD

namespace Gateway

def PaddedVector (v w : List Int64) : Prop :=
  ∃ n, w = v ++ List.replicate n 0

section Vector

variable {v w : List Int64}

theorem entryAt_of_length_le {index : Nat} (h : v.length ≤ index) : entryAt v index = 0 :=
  List.getD_eq_default v 0 h

theorem PaddedVector.entryAt_eq (h : PaddedVector v w) : entryAt v = entryAt w := by
  obtain ⟨n, rfl⟩ := h
  funext index
  rcases Nat.lt_or_ge index v.length with hlt | hge
  · exact (List.getD_append v _ 0 index hlt).symm
  · rw [entryAt_of_length_le hge, entryAt, List.getD_append_right v _ 0 index hge,
      List.getD_eq_getElem?_getD, List.getElem?_getD_replicate_default_eq]

theorem PaddedVector.length_le (h : PaddedVector v w) : v.length ≤ w.length := by
  obtain ⟨n, rfl⟩ := h
  rw [List.length_append]
  exact Nat.le_add_right _ _

end Vector

def PaddedComponents (m n : Components) : Prop :=
  ∀ ns, Option.Rel PaddedVector (m.get? ns) (n.get? ns)

theorem PaddedComponents.get?_cases {m n : Components} (h : PaddedComponents m n) (ns : String) :
    m.get? ns = none ∧ n.get? ns = none ∨
      ∃ v w, m.get? ns = some v ∧ n.get? ns = some w ∧ PaddedVector v w := by
  have hrel := h ns
  revert hrel
  generalize m.get? ns = before, n.get? ns = after
  rintro (hvw | -)
  · exact .inr ⟨_, _, rfl, rfl, hvw⟩
  · exact .inl ⟨rfl, rfl⟩

theorem PaddedComponents.sameReading {m n : Components} (h : PaddedComponents m n) :
    m.SameReading n := by
  intro ns _
  rw [Components.reading, Components.reading]
  rcases h.get?_cases ns with ⟨hm, hn⟩ | ⟨v, w, hm, hn, hvw⟩
  · rw [hm, hn]
  · rw [hm, hn, Option.map_some, Option.map_some, hvw.entryAt_eq]

theorem PaddedComponents.refl (m : Components) : PaddedComponents m m := by
  intro ns
  cases m.get? ns with
  | none => exact .none
  | some v => exact .some ⟨0, (List.append_nil v).symm⟩

theorem PaddedComponents.insert {m n : Components} {v w : List Int64} (h : PaddedComponents m n)
    (ns : String) (hvw : PaddedVector v w) : PaddedComponents (m.insert ns v) (n.insert ns w) := by
  intro k
  rw [KeyMap.get?_insert, KeyMap.get?_insert]
  split
  · exact .some hvw
  · exact h k

namespace Snapshot

structure Backend.Padded (b d : Backend) : Prop where
  flags : PaddedVector b.flags d.flags
  components : PaddedComponents b.components d.components

structure Agent.Padded (a b : Agent) : Prop where
  flags : PaddedVector a.flags b.flags
  backends : List.Forall₂ Backend.Padded a.backends b.backends
  components : PaddedComponents a.components b.components

structure Endpoint.Padded (d e : Endpoint) : Prop where
  flags : PaddedVector d.flags e.flags
  backends : List.Forall₂ Backend.Padded d.backends e.backends
  components : PaddedComponents d.components e.components

structure Padded (s t : Snapshot) : Prop where
  flags : PaddedVector s.flags t.flags
  agents : List.Forall₂ Agent.Padded s.agents t.agents
  endpoints : List.Forall₂ Endpoint.Padded s.endpoints t.endpoints
  components : PaddedComponents s.components t.components

open Components

theorem Backend.Padded.agree {b d : Backend} (h : b.Padded d) : b.Agree SameReading d :=
  ⟨h.components.sameReading⟩

theorem Agent.Padded.agree {a b : Agent} (h : a.Padded b) : a.Agree SameReading b :=
  ⟨h.backends.imp fun _ _ => Backend.Padded.agree⟩

theorem Endpoint.Padded.agree {d e : Endpoint} (h : d.Padded e) : d.Agree SameReading e := by
  have hflag (index : Nat) : d.flag index = e.flag index := congrFun h.flags.entryAt_eq index
  refine ⟨?_, hflag _, fun bit _ => ?_, hflag _, ?_, h.components.sameReading⟩
  · rw [hflag]
  · rw [hflag]
  · exact h.backends.imp fun _ _ => Backend.Padded.agree

theorem Padded.agree {s t : Snapshot} (h : s.Padded t) : s.Agree SameReading t := by
  have hflags : s.serviceFlags = t.serviceFlags := congrFun h.flags.entryAt_eq 0
  refine ⟨fun bit _ => ?_, ?_, ?_, h.components.sameReading⟩
  · rw [hflags]
  · exact h.agents.imp fun _ _ => Agent.Padded.agree
  · exact h.endpoints.imp fun _ _ => Endpoint.Padded.agree

end Snapshot

namespace Check

open Snapshot

theorem startsWith_zero_eq_iff {m n : Components} (h : PaddedComponents m n) (ns : String) :
    startsWith m ns 0 = startsWith n ns 0 ↔ ¬(m.get? ns = some [] ∧ n.get? ns ≠ some []) := by
  rw [startsWith, startsWith]
  rcases h.get?_cases ns with ⟨hm, hn⟩ | ⟨v, w, hm, hn, k, rfl⟩
  · simp [hm, hn]
  · cases v with
    | cons x xs => simp [hm, hn]
    | nil => cases k <;> simp [hm, hn, List.replicate_succ]

def CompletesExporters (m n : Components) : Prop :=
  ∃ v w, m.get? "telemetry/opentelemetry" = some v ∧ n.get? "telemetry/opentelemetry" = some w ∧
    (v.length = 3 ∨ v.length = 4) ∧ 5 ≤ w.length

theorem openTelemetryExporters_eq_of_padded {s t : Snapshot}
    (h : PaddedComponents s.components t.components)
    (hshort : ¬CompletesExporters s.components t.components) :
    openTelemetryExporters s = openTelemetryExporters t := by
  rw [openTelemetryExporters, openTelemetryExporters]
  rcases h.get?_cases Namespace.openTelemetry with ⟨hs, ht⟩ | ⟨v, w, hs, ht, hvw⟩
  · rw [hs, ht]
  · rw [hs, ht]
    dsimp only
    rw [← hvw.entryAt_eq]
    by_cases hv : OpenTelemetryEntry.prometheus.index < v.length
    · rw [if_pos hv, if_pos (Nat.lt_of_lt_of_le hv hvw.length_le)]
    · rw [if_neg hv]
      by_cases hw : OpenTelemetryEntry.prometheus.index < w.length
      · have hmetrics : v.length ≤ OpenTelemetryEntry.otlpMetrics.index := by
          have hv' : v.length ≤ 4 := Nat.not_lt.mp hv
          have hlength : ¬(v.length = 3 ∨ v.length = 4) :=
            fun hlength => hshort ⟨v, w, hs, ht, hlength, hw⟩
          show v.length ≤ 2
          omega
        rw [if_pos hw, entryAt_of_length_le hmetrics, entryAt_of_length_le (Nat.not_lt.mp hv)]
        rfl
      · rw [if_neg hw]

end Check

namespace Rule

open Check

theorem fires_of_padded {s t : Snapshot} (h : s.Padded t) :
    (∀ r ∈ all, r.id ≠ "2.2.5" → r.id ≠ "4.1.3" → r.fires s = r.fires t) ∧
    (∃ r, find? "2.2.5" = some r ∧ (r.fires s = r.fires t ↔
      ¬(s.components.get? "grpc" = some [] ∧ t.components.get? "grpc" ≠ some []))) ∧
    ∃ r, find? "4.1.3" = some r ∧
      (¬CompletesExporters s.components t.components → r.fires s = r.fires t) := by
  refine ⟨?_, ⟨_, rfl, startsWith_zero_eq_iff h.components Namespace.grpcServer⟩, _, rfl, ?_⟩
  · intro r hr hgrpc htelemetry
    exact fires_eq_of_sameReading hr hgrpc htelemetry h.agree
  · intro hshort
    have htotal : telemetryExtensions s = telemetryExtensions t := by
      rw [telemetryExtensions, telemetryExtensions, metricsExtensions_eq h.agree,
        openTelemetryExporters_eq_of_padded h.components hshort]
    exact congrArg (fun n => decide (1 < n)) htotal

def brief : Snapshot where
  flags := [34]
  agents := [{ flags := [2], backends := [{}] }]
  endpoints := [{
    flags := [1, 0, 0, 4000]
    backends := [{ components := KeyMap.empty.insert "qos/http-cache" [] }] }]
  components := (KeyMap.empty.insert "grpc" []).insert "telemetry/opentelemetry" [5, 1]

def filled : Snapshot where
  flags := [34, 0]
  agents := [{ flags := [2, 0, 0, 0], backends := [{ flags := [0] }] }]
  endpoints := [{
    flags := [1, 0, 0, 4000, 0, 0]
    backends := [{ components := KeyMap.empty.insert "qos/http-cache" [0] }] }]
  components :=
    (KeyMap.empty.insert "grpc" [0]).insert "telemetry/opentelemetry" [5, 1, 0, 0, 0]

theorem brief_padded : brief.Padded filled where
  flags := ⟨1, rfl⟩
  agents := .cons ⟨⟨3, rfl⟩, .cons ⟨⟨1, rfl⟩, .refl _⟩ .nil, .refl _⟩ .nil
  endpoints := by
    have hbackend : PaddedComponents (KeyMap.empty.insert "qos/http-cache" [])
        (KeyMap.empty.insert "qos/http-cache" [0]) := (PaddedComponents.refl _).insert _ ⟨1, rfl⟩
    exact .cons ⟨⟨2, rfl⟩, .cons ⟨⟨0, rfl⟩, hbackend⟩ .nil, .refl _⟩ .nil
  components := ((PaddedComponents.refl _).insert _ ⟨1, rfl⟩).insert _ ⟨3, rfl⟩

def slowTimeout : Rule :=
  (find? "3.3.1").get rfl

theorem fires_of_padded_brief :
    (brief.Padded filled ∧ slowTimeout ∈ all ∧ slowTimeout.id ≠ "2.2.5" ∧
      slowTimeout.id ≠ "4.1.3" ∧ ¬CompletesExporters brief.components filled.components) ∧
    slowTimeout.fires brief = slowTimeout.fires filled ∧
    (∃ r, find? "2.2.5" = some r ∧ (r.fires brief = r.fires filled ↔
      ¬(brief.components.get? "grpc" = some [] ∧ filled.components.get? "grpc" ≠ some []))) ∧
    ∃ r, find? "4.1.3" = some r ∧ r.fires brief = r.fires filled := by
  have hall : slowTimeout ∈ all := List.mem_of_find?_eq_some (Option.some_get rfl).symm
  have hgrpc : slowTimeout.id ≠ "2.2.5" := by decide
  have htelemetry : slowTimeout.id ≠ "4.1.3" := by decide
  have hshort : ¬CompletesExporters brief.components filled.components := by
    rintro ⟨v, w, hv, -, hlength, -⟩
    obtain rfl : [5, 1] = v := Option.some.inj hv
    revert hlength
    decide
  obtain ⟨hother, hserver, r, hr, hexporters⟩ := fires_of_padded brief_padded
  exact ⟨⟨brief_padded, hall, hgrpc, htelemetry, hshort⟩, hother _ hall hgrpc htelemetry,
    hserver, r, hr, hexporters hshort⟩

end Rule

end Gateway
