import Gateway.Audit.Basic
import Gateway.Proofs.Snapshot.Rearranged

namespace Gateway

namespace Rule

def namespaces : List String := [
  Namespace.serverPlugin, Namespace.clientPlugin, Namespace.modifierPlugin, Namespace.basicAuth,
  Namespace.apiKeys, Namespace.jwtValidator, Namespace.httpSecurity, Namespace.httpClient,
  Namespace.router, Namespace.cors, Namespace.grpcServer, Namespace.botDetector,
  Namespace.routerRateLimit, Namespace.proxyRateLimit, Namespace.serviceRateLimit,
  Namespace.circuitBreaker, Namespace.httpCache, Namespace.openCensus, Namespace.metrics,
  Namespace.newRelic, Namespace.googleAnalytics, Namespace.instana, Namespace.openTelemetry,
  Namespace.logging, Namespace.gelf, Namespace.logstash, Namespace.proxy]

def serviceBits : List Nat :=
  [1, 2, 3, 4, 5, 6, 10, 11, 12]

end Rule

namespace Components

def SameEntries (m n : Components) : Prop :=
  ∀ ns ∈ Rule.namespaces, m.get? ns = n.get? ns

instance (m n : Components) : Decidable (m.SameEntries n) :=
  inferInstanceAs (Decidable (∀ ns ∈ Rule.namespaces, m.get? ns = n.get? ns))

def reading (m : Components) (ns : String) : Option (Nat → Int64) :=
  (m.get? ns).map entryAt

def SameReading (m n : Components) : Prop :=
  ∀ ns ∈ Rule.namespaces, m.reading ns = n.reading ns

theorem SameEntries.sameReading {m n : Components} (h : m.SameEntries n) : m.SameReading n := by
  intro ns hns
  rw [reading, reading, h ns hns]

end Components

namespace Snapshot

section Agree

variable (R : Components → Components → Prop)

structure Backend.Agree (b d : Backend) : Prop where
  components : R b.components d.components

structure Agent.Agree (a b : Agent) : Prop where
  backends : List.Forall₂ (Backend.Agree R) a.backends b.backends

structure Endpoint.Agree (d e : Endpoint) : Prop where
  encoding : Bits.hasBit (d.flag EndpointFlag.encoding.index) Encoding.noOp.bit =
    Bits.hasBit (e.flag EndpointFlag.encoding.index) Encoding.noOp.bit
  timeout : d.flag EndpointFlag.timeout.index = e.flag EndpointFlag.timeout.index
  wildcards : ∀ bit < 4, Bits.hasBit (d.flag EndpointFlag.wildcards.index) bit =
    Bits.hasBit (e.flag EndpointFlag.wildcards.index) bit
  writingCalls : d.flag EndpointFlag.writingCalls.index = e.flag EndpointFlag.writingCalls.index
  backends : List.Forall₂ (Backend.Agree R) d.backends e.backends
  components : R d.components e.components

structure Agree (s t : Snapshot) : Prop where
  flags : ∀ bit ∈ Rule.serviceBits,
    Bits.hasBit s.serviceFlags bit = Bits.hasBit t.serviceFlags bit
  agents : List.Forall₂ (Agent.Agree R) s.agents t.agents
  endpoints : List.Forall₂ (Endpoint.Agree R) s.endpoints t.endpoints
  components : R s.components t.components

end Agree

section Mono

variable {R S : Components → Components → Prop} (hRS : ∀ m n, R m n → S m n)
include hRS

theorem Backend.Agree.mono {b d : Backend} (h : b.Agree R d) : b.Agree S d :=
  ⟨hRS _ _ h.components⟩

theorem Agent.Agree.mono {a b : Agent} (h : a.Agree R b) : a.Agree S b :=
  ⟨h.backends.imp fun _ _ => Backend.Agree.mono hRS⟩

theorem Endpoint.Agree.mono {d e : Endpoint} (h : d.Agree R e) : d.Agree S e :=
  { h with
    backends := h.backends.imp fun _ _ => Backend.Agree.mono hRS
    components := hRS _ _ h.components }

theorem Agree.mono {s t : Snapshot} (h : s.Agree R t) : s.Agree S t :=
  { h with
    agents := h.agents.imp fun _ _ => Agent.Agree.mono hRS
    endpoints := h.endpoints.imp fun _ _ => Endpoint.Agree.mono hRS
    components := hRS _ _ h.components }

end Mono

theorem Agree.allBackends {R : Components → Components → Prop} {s t : Snapshot}
    (h : s.Agree R t) : List.Forall₂ (Backend.Agree R) s.allBackends t.allBackends :=
  List.rel_append (List.rel_flatMap h.endpoints fun _ _ h => h.backends)
    (List.rel_flatMap h.agents fun _ _ h => h.backends)

end Snapshot

theorem Shuffled.of_forall₂ {α : Type} {R : α → α → Prop} {xs ys : List α}
    (h : List.Forall₂ R xs ys) : Shuffled R xs ys :=
  ⟨xs, List.Perm.refl xs, h⟩

namespace Check

open Snapshot Components

def Respects (f : Snapshot → Bool) : Prop :=
  ∀ s t : Snapshot, s.Agree SameReading t → f s = f t

def EndpointRespects (p : Endpoint → Bool) : Prop :=
  ∀ d e : Endpoint, d.Agree SameReading e → p d = p e

def ComponentsRespect (p : Components → Bool) : Prop :=
  ∀ m n : Components, m.SameReading n → p m = p n

section Combinators

variable {f g : Snapshot → Bool} {p q : Endpoint → Bool} {r : Components → Bool}

theorem Respects.not (hf : Respects f) : Respects fun s => !f s :=
  fun s t h => congrArg Bool.not (hf s t h)

theorem Respects.or (hf : Respects f) (hg : Respects g) : Respects fun s => f s || g s :=
  fun s t h => congrArg₂ Bool.or (hf s t h) (hg s t h)

theorem Respects.and (hf : Respects f) (hg : Respects g) : Respects fun s => f s && g s :=
  fun s t h => congrArg₂ Bool.and (hf s t h) (hg s t h)

theorem EndpointRespects.or (hp : EndpointRespects p) (hq : EndpointRespects q) :
    EndpointRespects fun e => p e || q e :=
  fun d e h => congrArg₂ Bool.or (hp d e h) (hq d e h)

theorem EndpointRespects.any (hp : EndpointRespects p) : Respects fun s => s.endpoints.any p :=
  fun _ _ h => (Shuffled.of_forall₂ h.endpoints).any_eq hp

theorem EndpointRespects.all (hp : EndpointRespects p) : Respects fun s => s.endpoints.all p :=
  fun _ _ h => (Shuffled.of_forall₂ h.endpoints).all_eq hp

theorem ComponentsRespect.service (hr : ComponentsRespect r) : Respects fun s => r s.components :=
  fun _ _ h => hr _ _ h.components

theorem ComponentsRespect.endpoint (hr : ComponentsRespect r) :
    EndpointRespects fun e => r e.components :=
  fun _ _ h => hr _ _ h.components

theorem ComponentsRespect.anyBackend (hr : ComponentsRespect r) :
    EndpointRespects fun e => e.backends.any fun b => r b.components :=
  fun _ _ h => (Shuffled.of_forall₂ h.backends).any_eq fun _ _ h => hr _ _ h.components

theorem ComponentsRespect.allBackends (hr : ComponentsRespect r) :
    Respects fun s => s.allBackends.any fun b => r b.components :=
  fun _ _ h => (Shuffled.of_forall₂ h.allBackends).any_eq fun _ _ h => hr _ _ h.components

end Combinators

theorem respects_hasFlag (flag : ServiceFlag) (h : flag.bit ∈ Rule.serviceBits) :
    Respects (hasFlag flag) :=
  fun _ _ hst => hst.flags flag.bit h

theorem respects_hasWildcard (w : Wildcard) : Respects (hasWildcard w) := by
  have hbit : w.bit < 4 := by cases w <;> decide
  exact EndpointRespects.any fun _ _ h => h.wildcards w.bit hbit

theorem respects_timeoutAbove (limit : Int64) : Respects (timeoutAbove limit) :=
  EndpointRespects.any fun _ _ h => by rw [h.timeout]

section Reading

theorem contains_eq_reading (m : Components) (ns : String) :
    m.contains ns = (m.reading ns).isSome :=
  Option.isSome_map.symm

theorem firstHasBit_eq_reading (m : Components) (ns : String) (bit : Nat) :
    firstHasBit m ns bit = (m.reading ns).any fun entry => Bits.hasBit (entry 0) bit := by
  rw [firstHasBit, reading]
  cases m.get? ns <;> rfl

theorem startsWith_eq_reading (m : Components) (ns : String) {number : Int64}
    (hnumber : number ≠ 0) :
    startsWith m ns number = (m.reading ns).any fun entry => entry 0 == number := by
  rw [startsWith, reading]
  cases m.get? ns with
  | none => rfl
  | some values =>
      cases values with
      | nil => simp [entryAt, Ne.symm hnumber]
      | cons x xs => simp [entryAt]

variable (ns : String) (h : ns ∈ Rule.namespaces)
include h

theorem respect_reading (q : Option (Nat → Int64) → Bool) :
    ComponentsRespect fun m => q (m.reading ns) :=
  fun _ _ hmn => congrArg q (hmn ns h)

theorem respect_contains : ComponentsRespect fun m => m.contains ns := by
  simp only [contains_eq_reading]
  exact respect_reading ns h Option.isSome

theorem respect_firstHasBit (bit : Nat) : ComponentsRespect fun m => firstHasBit m ns bit := by
  simp only [firstHasBit_eq_reading]
  exact respect_reading ns h (Option.any _)

theorem respect_startsWith {number : Int64} (hnumber : number ≠ 0) :
    ComponentsRespect fun m => startsWith m ns number := by
  simp only [startsWith_eq_reading _ ns hnumber]
  exact respect_reading ns h (Option.any _)

end Reading

theorem respects_attached (ns : String) (h : ns ∈ Rule.namespaces) : Respects (attached ns) :=
  (respect_contains ns h).service

theorem respects_loadsServerPlugin (plugin : ServerPlugin) : Respects (loadsServerPlugin plugin) :=
  (respect_firstHasBit _ (by decide) plugin.bit).service

theorem respects_loadsClientPlugin (plugin : ClientPlugin) :
    Respects (loadsClientPlugin plugin) := by
  have hnumber : plugin.number ≠ 0 := by cases plugin <;> decide
  exact (respect_startsWith _ (by decide) hnumber).endpoint.any

theorem respects_loadsModifierPlugin (plugin : ModifierPlugin) :
    Respects (loadsModifierPlugin plugin) := by
  have hfirst := respect_firstHasBit Namespace.modifierPlugin (by decide) plugin.bit
  exact (hfirst.endpoint.or hfirst.anyBackend).any

theorem respects_usesBasicAuth : Respects usesBasicAuth := by
  have hbasic := respect_firstHasBit Namespace.basicAuth (by decide) 0
  exact ((respects_loadsServerPlugin .basicAuth).or hbasic.service).or hbasic.endpoint.any

theorem respects_lacksJwt : Respects lacksJwt :=
  (respect_contains _ (by decide)).endpoint.any.not

theorem respects_usesClearTextHttp2 : Respects usesClearTextHttp2 :=
  (respects_hasFlag _ (by decide)).or (respect_firstHasBit _ (by decide) _).service

theorem respects_connectsInsecurely : Respects connectsInsecurely :=
  (respect_firstHasBit _ (by decide) _).allBackends

theorem respects_showsVersion : Respects showsVersion :=
  (respect_firstHasBit _ (by decide) _).service.not

theorem respects_lacksRateLimit : Respects lacksRateLimit := by
  have hrouter := respect_contains Namespace.routerRateLimit (by decide)
  have hproxy := respect_contains Namespace.proxyRateLimit (by decide)
  have hservice := respects_attached Namespace.serviceRateLimit (by decide)
  have hendpoint := (hrouter.endpoint.or hproxy.endpoint).or hproxy.anyBackend
  exact (((hrouter.service.or hservice).or (respects_loadsServerPlugin .redisRateLimit)).or
    hendpoint.any).not

theorem respects_lacksCircuitBreaker : Respects lacksCircuitBreaker := by
  have hbreaker := respect_contains Namespace.circuitBreaker (by decide)
  exact (hbreaker.endpoint.or hbreaker.anyBackend).any.not

def lacksLimit (entry : Nat → Int64) : Bool :=
  !Bits.hasBit (entry 0) CacheFlag.maxItems.bit || !Bits.hasBit (entry 0) CacheFlag.maxSize.bit

theorem cachesWithoutLimit_eq_reading (s : Snapshot) : cachesWithoutLimit s =
    s.allBackends.any fun b => (b.components.reading Namespace.httpCache).any lacksLimit := by
  rw [cachesWithoutLimit]
  congr 1
  funext b
  rw [reading]
  cases b.components.get? Namespace.httpCache <;> rfl

theorem respects_cachesWithoutLimit : Respects cachesWithoutLimit := by
  have hcache := respect_reading Namespace.httpCache (by decide) (Option.any lacksLimit)
  intro s t h
  rw [cachesWithoutLimit_eq_reading, cachesWithoutLimit_eq_reading]
  exact hcache.allBackends s t h

theorem lacksTracing_eq_reading (s : Snapshot) : lacksTracing s =
    !((s.components.reading Namespace.openTelemetry).any (fun entry =>
        1 ≤ entry OpenTelemetryEntry.otlpTraces.index) ||
      attached Namespace.openCensus s || attached Namespace.newRelic s ||
      attached Namespace.instana s) := by
  rw [lacksTracing, reading]
  cases s.components.get? Namespace.openTelemetry <;> rfl

theorem respects_lacksTracing : Respects lacksTracing := by
  have htraces := respect_reading Namespace.openTelemetry (by decide)
    (Option.any fun entry => 1 ≤ entry OpenTelemetryEntry.otlpTraces.index)
  have hcensus := respects_attached Namespace.openCensus (by decide)
  have hrelic := respects_attached Namespace.newRelic (by decide)
  have hinstana := respects_attached Namespace.instana (by decide)
  intro s t h
  rw [lacksTracing_eq_reading, lacksTracing_eq_reading]
  exact (((htraces.service.or hcensus).or hrelic).or hinstana).not s t h

theorem metricsExtensions_eq {s t : Snapshot} (h : s.Agree SameReading t) :
    metricsExtensions s = metricsExtensions t := by
  have hmetrics : ∀ ns ∈ metricsNamespaces, ns ∈ Rule.namespaces := by decide
  refine List.countP_congr fun ns hns => ?_
  rw [respects_attached ns (hmetrics ns hns) s t h]

theorem respects_lacksMetrics : Respects fun s => metricsExtensions s == 0 :=
  fun _ _ h => congrArg (· == 0) (metricsExtensions_eq h)

theorem openTelemetryExporters_eq {s t : Snapshot}
    (h : s.components.get? Namespace.openTelemetry = t.components.get? Namespace.openTelemetry) :
    openTelemetryExporters s = openTelemetryExporters t := by
  rw [openTelemetryExporters, openTelemetryExporters, h]

theorem respects_lacksLogging : Respects lacksLogging := by
  have hlogging := respects_attached Namespace.logging (by decide)
  have hgelf := respects_attached Namespace.gelf (by decide)
  have hlogstash := respects_attached Namespace.logstash (by decide)
  exact ((hlogging.or hgelf).or hlogstash).not

theorem respects_servesWithoutBackend : Respects servesWithoutBackend := by
  refine EndpointRespects.any fun d e h => ?_
  rw [Bool.eq_iff_iff, List.isEmpty_iff_length_eq_zero, List.isEmpty_iff_length_eq_zero,
    h.backends.length_eq]

theorem respects_aggregatesNothing : Respects aggregatesNothing :=
  EndpointRespects.all fun _ _ h => by rw [h.backends.length_eq]

theorem respects_manipulatesNothing : Respects manipulatesNothing :=
  EndpointRespects.all fun _ _ h => h.encoding

theorem respects_startsManyAgentsInTurn : Respects startsManyAgentsInTurn := by
  refine (respects_hasFlag _ (by decide)).and fun s t h => ?_
  rw [h.agents.length_eq]

theorem respects_repeatsUnsafeCalls : Respects repeatsUnsafeCalls :=
  EndpointRespects.any fun _ _ h => by rw [h.writingCalls]

theorem respects_callsInTurn : Respects callsInTurn :=
  (respect_firstHasBit _ (by decide) _).endpoint.any

end Check

namespace Rule

open Check Snapshot Components

-- Two rules do more than read entries: one of them tells an empty vector from a zero, the other
-- asks for a complete vector.
inductive Looks (r : Rule) : Prop
  | entries (h : Respects r.fires)
  | grpcServer (hid : r.id = "2.2.5") (h : r.fires = servesNoGrpcService)
  | telemetry (hid : r.id = "4.1.3") (h : r.fires = fun s => 1 < telemetryExtensions s)

theorem looks_access : ∀ r ∈ access, Looks r := by
  simp only [access, List.forall_mem_cons]
  exact ⟨.entries respects_usesBasicAuth, .entries (respects_attached _ (by decide)),
    .entries respects_lacksJwt, List.forall_mem_nil _⟩

theorem looks_exposure : ∀ r ∈ exposure, Looks r := by
  have htls := respects_hasFlag .hasTls (by decide)
  have henabled := respects_hasFlag .tlsEnabled (by decide)
  simp only [exposure, List.forall_mem_cons]
  exact ⟨.entries (respects_hasFlag _ (by decide)), .entries htls.not,
    .entries (htls.and henabled.not), .entries (respects_attached _ (by decide)).not,
    .entries respects_usesClearTextHttp2, .entries respects_connectsInsecurely,
    .entries respects_showsVersion, .entries (respects_attached _ (by decide)).not,
    .entries (respects_hasWildcard .headers), .entries (respects_hasWildcard .queryStrings),
    .grpcServer rfl rfl, .entries (respects_hasWildcard .path), List.forall_mem_nil _⟩

theorem looks_traffic : ∀ r ∈ traffic, Looks r := by
  simp only [traffic, List.forall_mem_cons]
  exact ⟨.entries (respects_attached _ (by decide)).not, .entries respects_lacksRateLimit,
    .entries respects_lacksCircuitBreaker, .entries respects_cachesWithoutLimit,
    .entries (respects_timeoutAbove 3000), .entries (respects_timeoutAbove 5000),
    .entries (respects_timeoutAbove 30000), .entries (respects_timeoutAbove 60000),
    List.forall_mem_nil _⟩

theorem looks_telemetry : ∀ r ∈ telemetry, Looks r := by
  simp only [telemetry, List.forall_mem_cons]
  exact ⟨.entries respects_lacksMetrics, .telemetry rfl rfl, .entries respects_lacksTracing,
    .entries respects_lacksLogging, List.forall_mem_nil _⟩

theorem looks_design : ∀ r ∈ design, Looks r := by
  simp only [design, List.forall_mem_cons]
  exact ⟨.entries (respects_hasFlag _ (by decide)), .entries (respects_hasFlag _ (by decide)),
    .entries (respects_hasFlag _ (by decide)), .entries respects_servesWithoutBackend,
    .entries respects_aggregatesNothing, .entries respects_manipulatesNothing,
    .entries respects_startsManyAgentsInTurn, .entries respects_repeatsUnsafeCalls,
    .entries respects_callsInTurn, .entries (respects_hasWildcard .catchAll),
    List.forall_mem_nil _⟩

theorem looks_deprecation : ∀ r ∈ deprecation, Looks r := by
  simp only [deprecation, List.forall_mem_cons]
  exact ⟨.entries (respects_attached _ (by decide)), .entries (respects_attached _ (by decide)),
    .entries (respects_loadsServerPlugin .basicAuth),
    .entries (respects_loadsServerPlugin .staticFilesystem),
    .entries (respects_loadsServerPlugin .virtualHost),
    .entries (respects_loadsClientPlugin .staticFilesystem),
    .entries (respects_loadsClientPlugin .noRedirect),
    .entries (respects_loadsModifierPlugin .responseSchemaValidator),
    .entries (respects_loadsModifierPlugin .contentReplacer),
    .entries (respects_attached _ (by decide)), .entries (respects_hasFlag _ (by decide)),
    List.forall_mem_nil _⟩

theorem looks {r : Rule} (hr : r ∈ all) : Looks r :=
  forall_mem_all looks_access looks_exposure looks_traffic looks_telemetry looks_design
    looks_deprecation r hr

section Entries

variable {r : Rule} (hr : r ∈ all) {s t : Snapshot}
include hr

theorem fires_eq_of_sameReading (hgrpc : r.id ≠ "2.2.5") (htelemetry : r.id ≠ "4.1.3")
    (h : s.Agree SameReading t) : r.fires s = r.fires t := by
  cases looks hr with
  | entries hr => exact hr s t h
  | grpcServer hid => exact absurd hid hgrpc
  | telemetry hid => exact absurd hid htelemetry

theorem fires_eq_of_sameEntries (h : s.Agree SameEntries t) : r.fires s = r.fires t := by
  have hreading : s.Agree SameReading t := h.mono fun _ _ => SameEntries.sameReading
  cases looks hr with
  | entries hr => exact hr s t hreading
  | grpcServer _ hfires =>
      have hentry := h.components Namespace.grpcServer (by decide)
      rw [hfires, servesNoGrpcService, servesNoGrpcService, startsWith, startsWith, hentry]
  | telemetry _ hfires =>
      have htotal : telemetryExtensions s = telemetryExtensions t := by
        rw [telemetryExtensions, telemetryExtensions, metricsExtensions_eq hreading,
          openTelemetryExporters_eq (h.components Namespace.openTelemetry (by decide))]
      rw [hfires]
      exact congrArg (fun n => decide (1 < n)) htotal

end Entries

end Rule

namespace Snapshot

theorem audit_eq_of_agree {s t : Snapshot} (h : s.Agree Components.SameEntries t)
    (a : Settings) : s.audit a = t.audit a :=
  audit_eq_of_fires (fun _ hr => Rule.fires_eq_of_sameEntries hr h) a

def current : Snapshot where
  flags := [34]
  agents := [{ flags := [2, 1, 0, 0], backends := [{ flags := [2] }] }]
  endpoints := [{
    flags := [1, 0, 0, 4000, 2, 0]
    backends := [{ flags := [2], components := KeyMap.empty.insert "qos/http-cache" [0] }] }]
  components := KeyMap.empty.insert "telemetry/opentelemetry" [0, 0, 1, 0, 1]

def later : Snapshot where
  flags := [34 + 128 + 8192, -1]
  agents := [{
    flags := []
    backends := [{ components := KeyMap.empty.insert "ai/mcp" [3] }]
    components := KeyMap.empty.insert "proxy" [1] }]
  endpoints := [{
    flags := [1 + 64, 7, -7, 4000, 2 + 16, 0, 5]
    backends := [{ flags := [-1], components := KeyMap.empty.insert "qos/http-cache" [0] }]
    components := KeyMap.empty.insert "ai/llm" [] }]
  components :=
    (KeyMap.empty.insert "telemetry/opentelemetry" [0, 0, 1, 0, 1]).insert "telemetry/moesif" [2]

theorem audit_eq_of_agree_later :
    current.Agree Components.SameEntries later ∧ current.audit {} = later.audit {} := by
  have hagree : current.Agree Components.SameEntries later := by
    refine ⟨by decide, .cons ⟨.cons ⟨by decide⟩ .nil⟩ .nil, .cons ?_ .nil, by decide⟩
    exact ⟨by decide, by decide, by decide, by decide, .cons ⟨by decide⟩ .nil, by decide⟩
  exact ⟨hagree, audit_eq_of_agree hagree {}⟩

end Snapshot

end Gateway
