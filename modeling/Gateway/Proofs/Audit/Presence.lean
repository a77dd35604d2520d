import Gateway.Audit.Rule
import Mathlib.Logic.Basic

namespace Gateway

def Components.bare (m : Components) : Components :=
  m.map fun _ _ => []

theorem Components.contains_bare (m : Components) (ns : String) :
    m.bare.contains ns = m.contains ns :=
  KeyMap.contains_map _ m ns

def Snapshot.bare (s : Snapshot) : Snapshot :=
  s.mapComponents Components.bare

namespace Check

open Snapshot

def IgnoresSettings (f : Snapshot → Bool) : Prop :=
  ∀ s : Snapshot, f s.bare = f s

def EndpointIgnoresSettings (p : Endpoint → Bool) : Prop :=
  ∀ e : Endpoint, p (e.mapComponents Components.bare) = p e

section Combinators

variable {f g : Snapshot → Bool} {p q : Endpoint → Bool}

theorem IgnoresSettings.not (hf : IgnoresSettings f) : IgnoresSettings fun s => !f s :=
  fun s => congrArg Bool.not (hf s)

theorem IgnoresSettings.or (hf : IgnoresSettings f) (hg : IgnoresSettings g) :
    IgnoresSettings fun s => f s || g s :=
  fun s => congrArg₂ Bool.or (hf s) (hg s)

theorem IgnoresSettings.and (hf : IgnoresSettings f) (hg : IgnoresSettings g) :
    IgnoresSettings fun s => f s && g s :=
  fun s => congrArg₂ Bool.and (hf s) (hg s)

theorem EndpointIgnoresSettings.or (hp : EndpointIgnoresSettings p)
    (hq : EndpointIgnoresSettings q) : EndpointIgnoresSettings fun e => p e || q e :=
  fun e => congrArg₂ Bool.or (hp e) (hq e)

theorem EndpointIgnoresSettings.any (hp : EndpointIgnoresSettings p) :
    IgnoresSettings fun s => s.endpoints.any p := by
  intro s
  show (s.endpoints.map (·.mapComponents Components.bare)).any p = s.endpoints.any p
  rw [List.any_map]
  exact List.any_congr rfl hp

theorem EndpointIgnoresSettings.all (hp : EndpointIgnoresSettings p) :
    IgnoresSettings fun s => s.endpoints.all p := by
  intro s
  show (s.endpoints.map (·.mapComponents Components.bare)).all p = s.endpoints.all p
  rw [List.all_map]
  exact List.all_congr rfl hp

end Combinators

section Attached

variable (ns : String)

theorem attached_ignoresSettings : IgnoresSettings (attached ns) :=
  fun s => s.components.contains_bare ns

theorem contains_ignoresSettings : EndpointIgnoresSettings fun e => e.components.contains ns :=
  fun e => e.components.contains_bare ns

theorem anyBackend_ignoresSettings :
    EndpointIgnoresSettings fun e => e.backends.any fun b => b.components.contains ns := by
  intro e
  show (e.backends.map (·.mapComponents Components.bare)).any _ = _
  rw [List.any_map]
  exact List.any_congr rfl fun b => b.components.contains_bare ns

end Attached

theorem hasFlag_ignoresSettings (flag : ServiceFlag) : IgnoresSettings (hasFlag flag) :=
  fun _ => rfl

theorem hasWildcard_ignoresSettings (w : Wildcard) : IgnoresSettings (hasWildcard w) :=
  EndpointIgnoresSettings.any fun _ => rfl

theorem timeoutAbove_ignoresSettings (limit : Int64) : IgnoresSettings (timeoutAbove limit) :=
  EndpointIgnoresSettings.any fun _ => rfl

theorem lacksJwt_ignoresSettings : IgnoresSettings lacksJwt :=
  (contains_ignoresSettings _).any.not

theorem lacksCircuitBreaker_ignoresSettings : IgnoresSettings lacksCircuitBreaker :=
  ((contains_ignoresSettings _).or (anyBackend_ignoresSettings _)).any.not

theorem lacksMetrics_ignoresSettings : IgnoresSettings fun s => metricsExtensions s == 0 := by
  intro s
  have hcount : metricsExtensions s.bare = metricsExtensions s :=
    List.countP_congr fun ns _ => by rw [attached_ignoresSettings ns s]
  exact congrArg (· == 0) hcount

theorem lacksLogging_ignoresSettings : IgnoresSettings lacksLogging :=
  (((attached_ignoresSettings _).or (attached_ignoresSettings _)).or
    (attached_ignoresSettings _)).not

theorem servesWithoutBackend_ignoresSettings : IgnoresSettings servesWithoutBackend :=
  EndpointIgnoresSettings.any fun _ => List.isEmpty_map

theorem aggregatesNothing_ignoresSettings : IgnoresSettings aggregatesNothing :=
  EndpointIgnoresSettings.all fun e => by rw [Endpoint.mapComponents, List.length_map]

theorem manipulatesNothing_ignoresSettings : IgnoresSettings manipulatesNothing :=
  EndpointIgnoresSettings.all fun _ => rfl

theorem startsManyAgentsInTurn_ignoresSettings : IgnoresSettings startsManyAgentsInTurn := by
  intro s
  rw [startsManyAgentsInTurn, startsManyAgentsInTurn, hasFlag_ignoresSettings, Snapshot.bare,
    Snapshot.mapComponents, List.length_map]

theorem repeatsUnsafeCalls_ignoresSettings : IgnoresSettings repeatsUnsafeCalls :=
  EndpointIgnoresSettings.any fun _ => rfl

end Check

namespace Rule

open Check

def readingSettings : List String := [
  "1.1.1", "2.1.8", "2.1.9", "2.2.1", "2.2.5", "3.1.2", "3.2.1", "4.1.3", "4.2.1", "5.2.2",
  "7.1.3", "7.1.4", "7.1.5", "7.1.6", "7.1.7", "7.1.8", "7.1.9"]

theorem presence_access : ∀ r ∈ access, r.id ∈ readingSettings ∨ IgnoresSettings r.fires := by
  simp only [access, List.forall_mem_cons]
  exact ⟨.inl (by decide), .inr (attached_ignoresSettings _), .inr lacksJwt_ignoresSettings,
    List.forall_mem_nil _⟩

theorem presence_exposure : ∀ r ∈ exposure, r.id ∈ readingSettings ∨ IgnoresSettings r.fires := by
  have htls := hasFlag_ignoresSettings .hasTls
  have henabled := hasFlag_ignoresSettings .tlsEnabled
  simp only [exposure, List.forall_mem_cons]
  exact ⟨.inr (hasFlag_ignoresSettings _), .inr htls.not, .inr (htls.and henabled.not),
    .inr (attached_ignoresSettings _).not, .inl (by decide), .inl (by decide), .inl (by decide),
    .inr (attached_ignoresSettings _).not, .inr (hasWildcard_ignoresSettings .headers),
    .inr (hasWildcard_ignoresSettings .queryStrings), .inl (by decide),
    .inr (hasWildcard_ignoresSettings .path), List.forall_mem_nil _⟩

theorem presence_traffic : ∀ r ∈ traffic, r.id ∈ readingSettings ∨ IgnoresSettings r.fires := by
  simp only [traffic, List.forall_mem_cons]
  exact ⟨.inr (attached_ignoresSettings _).not, .inl (by decide),
    .inr lacksCircuitBreaker_ignoresSettings, .inl (by decide),
    .inr (timeoutAbove_ignoresSettings 3000), .inr (timeoutAbove_ignoresSettings 5000),
    .inr (timeoutAbove_ignoresSettings 30000), .inr (timeoutAbove_ignoresSettings 60000),
    List.forall_mem_nil _⟩

theorem presence_telemetry : ∀ r ∈ telemetry, r.id ∈ readingSettings ∨ IgnoresSettings r.fires := by
  simp only [telemetry, List.forall_mem_cons]
  exact ⟨.inr lacksMetrics_ignoresSettings, .inl (by decide), .inl (by decide),
    .inr lacksLogging_ignoresSettings, List.forall_mem_nil _⟩

theorem presence_design : ∀ r ∈ design, r.id ∈ readingSettings ∨ IgnoresSettings r.fires := by
  simp only [design, List.forall_mem_cons]
  exact ⟨.inr (hasFlag_ignoresSettings _), .inr (hasFlag_ignoresSettings _),
    .inr (hasFlag_ignoresSettings _), .inr servesWithoutBackend_ignoresSettings,
    .inr aggregatesNothing_ignoresSettings, .inr manipulatesNothing_ignoresSettings,
    .inr startsManyAgentsInTurn_ignoresSettings, .inr repeatsUnsafeCalls_ignoresSettings,
    .inl (by decide), .inr (hasWildcard_ignoresSettings .catchAll), List.forall_mem_nil _⟩

theorem presence_deprecation :
    ∀ r ∈ deprecation, r.id ∈ readingSettings ∨ IgnoresSettings r.fires := by
  simp only [deprecation, List.forall_mem_cons]
  exact ⟨.inr (attached_ignoresSettings _), .inr (attached_ignoresSettings _), .inl (by decide),
    .inl (by decide), .inl (by decide), .inl (by decide), .inl (by decide), .inl (by decide),
    .inl (by decide), .inr (attached_ignoresSettings _), .inr (hasFlag_ignoresSettings _),
    List.forall_mem_nil _⟩

theorem ignoresSettings {r : Rule} (hr : r ∈ all) (hid : r.id ∉ readingSettings) :
    IgnoresSettings r.fires :=
  (forall_mem_all presence_access presence_exposure presence_traffic presence_telemetry
    presence_design presence_deprecation r hr).resolve_left hid

end Rule

end Gateway
