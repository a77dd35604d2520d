import Gateway.Proofs.Extension.Setting
import Gateway.Proofs.Snapshot.Plugin
import Gateway.Proofs.Snapshot.Projection

namespace Gateway.Extension

open Json Snapshot Bits

def Single (P : Int64 → Prop) (values : List Int64) : Prop :=
  ∃ word, values = [word] ∧ P word

def AtMostOne (P : Int64 → Prop) (values : List Int64) : Prop :=
  values = [] ∨ Single P values

structure RevokerForm (values : List Int64) : Prop where
  length : values.length = 2
  optimal : Within 0 1 (entryAt values 0)
  keys : NonNegative (entryAt values 1)

structure DetectorForm (values : List Int64) : Prop where
  length : values.length = 4
  lists : ∀ index < 3, NonNegative (entryAt values index)

def RateLimitWord (word : Int64) : Prop :=
  Within 0 15 word ∧ ¬(hasBit word 2 = true ∧ hasBit word 3 = true)

def HttpClientWord (word : Int64) : Prop :=
  Within 1 7 word ∧ word.toInt % 2 = 1

def exporters (o : Object) (kind : String) : List Value :=
  items ((section? o "exporters").getD []) kind

structure OpenTelemetryForm (o : Object) (values : List Int64) : Prop where
  length : values.length = 5
  otlpMetrics : Within 0 (exporters o "otlp").length (entryAt values 2)
  otlpTraces : Within 0 (exporters o "otlp").length (entryAt values 3)
  prometheus : Within 0 (exporters o "prometheus").length (entryAt values 4)

structure ResponseSchemaForm (values : List Int64) : Prop where
  length : values.length = 4
  size : NonNegative (entryAt values 0)
  body : Within 0 1 (entryAt values 1)
  status : NonNegative (entryAt values 2)
  contentType : Within 0 1 (entryAt values 3)

structure ResponseBodyForm (values : List Int64) : Prop where
  length : values.length = 6
  counts : ∀ word ∈ values, NonNegative word
  total : (values.tail.map Int64.toInt).sum ≤ (entryAt values 0).toInt

structure WebSocketForm (values : List Int64) : Prop where
  length : values.length = 11
  switches : Within 0 31 (entryAt values 0)
  sizes : ∀ index, 1 ≤ index → index ≤ 5 → NonNegative (entryAt values index)
  durations : ∀ index, 6 ≤ index → index ≤ 9 →
    Within (-9223372036854) 9223372036854 (entryAt values index)
  subprotocols : NonNegative (entryAt values 10)

def forms : List (String × (Object → List Int64 → Prop)) := [
  ("plugin/http-server", fun _ => AtMostOne (Within 0 1023)),
  ("plugin/http-client", fun _ => AtMostOne (Within 0 4)),
  ("plugin/req-resp-modifier", fun _ => AtMostOne (Within 0 7)),
  ("proxy", fun _ => Single (Within 0 31)),
  ("router", fun _ => Single (Within 0 (2 ^ 19 - 1))),
  ("auth/revoker", fun _ => RevokerForm),
  ("security/bot-detector", fun _ => DetectorForm),
  ("telemetry/opencensus", fun _ => AtMostOne (Within 0 511)),
  ("qos/ratelimit/router", fun _ => Single RateLimitWord),
  ("backend/http/client", fun _ => Single HttpClientWord),
  ("telemetry/moesif", fun _ values => values.length = 3),
  ("telemetry/opentelemetry", OpenTelemetryForm),
  ("grpc", fun _ => AtMostOne NonNegative),
  ("validation/response-json-schema", fun _ => ResponseSchemaForm),
  ("modifier/response-body", fun _ => ResponseBodyForm),
  ("modifier/response-headers", fun _ => Single (Within 0 15)),
  ("websocket", fun _ => WebSocketForm),
  ("modifier/lua-proxy", fun _ => Single (Within 0 3)),
  ("modifier/lua-backend", fun _ => Single (Within 0 3)),
  ("modifier/lua-endpoint", fun _ => Single (Within 0 3)),
  ("qos/http-cache", fun _ => Single (Within 0 7)),
  ("auth/basic", fun _ => Single (Within 0 1))]

def Formed (ns : String) (settings : Value) (values : List Int64) : Prop :=
  match forms.lookup ns, settings with
  | some Form, .object o => Form o values
  | _, _ => values = []

-- No list in memory has more items than a signed word can count, and no text more bytes.
structure Countable (o : Object) : Prop where
  lists : CountableLists o
  sections : ∀ key s, section? o key = some s → CountableLists s
  schema : ∀ s, section? o "schema" = some s → (compact (.object s)).length < 2 ^ 63

section Words

variable {n : Nat} {high : Int} (hn : n < 64) (hhigh : 2 ^ n = high + 1)
include hn hhigh

theorem single_ofConditions {conditions : List (Bool × Nat)} (h : ∀ c ∈ conditions, c.2 < n) :
    Single (Within 0 high) [ofConditions conditions] :=
  ⟨_, rfl, within_ofConditions hn hhigh h⟩

theorem pluginBits_form {bitOf : String → Nat} (h : ∀ name, bitOf name < n) (o : Object) :
    AtMostOne (Within 0 high) (pluginBits bitOf o) := by
  rw [pluginBits]
  cases pluginNames? o with
  | none => exact .inl rfl
  | some names =>
      exact .inr ⟨_, rfl, within_ofList hn hhigh (List.forall_mem_map.mpr fun name _ => h name)⟩

end Words

section Settings

variable (o : Object)

theorem serverPlugin_form : AtMostOne (Within 0 1023) (serverPlugin o) :=
  pluginBits_form (n := 10) (by decide) rfl ServerPlugin.bitOf_lt o

theorem clientPlugin_form : AtMostOne (Within 0 4) (clientPlugin o) := by
  rw [clientPlugin]
  cases text? o "name" with
  | none => exact .inl rfl
  | some name =>
      refine .inr ⟨_, rfl, ?_⟩
      exact numbered_of (P := Within 0 4) (by decide) (fun p => by cases p <;> decide) name

theorem modifierPlugin_form : AtMostOne (Within 0 7) (modifierPlugin o) :=
  pluginBits_form (n := 3) (by decide) rfl ModifierPlugin.bitOf_lt o

theorem proxy_form : Single (Within 0 31) (proxy o) :=
  single_ofConditions (n := 5) (by decide) rfl (by simp [trueBits, presentBits, ProxyFlag.bit])

theorem router_form : Single (Within 0 (2 ^ 19 - 1)) (router o) :=
  single_ofConditions (n := 19) (by decide) rfl (by simp [trueBits, presentBits, RouterFlag.bit])

theorem openCensus_form : AtMostOne (Within 0 511) (openCensus o) := by
  rw [openCensus]
  cases section? o "exporters" with
  | none => exact .inl rfl
  | some exporters =>
      exact .inr (single_ofConditions (n := 9) (by decide) rfl
        (by simp [presentBits, openCensusExporters]))

theorem rateLimit_form : Single RateLimitWord (rateLimit o) := by
  refine ⟨_, rfl, within_ofConditions (n := 4) (by decide) rfl (by simp [RateLimitFlag.bit]), ?_⟩
  rw [hasBit_ofConditions (by simp [RateLimitFlag.bit]) (by decide),
    hasBit_ofConditions (by simp [RateLimitFlag.bit]) (by decide)]
  rintro ⟨hip, hheader⟩
  have hstrategy : text? o "strategy" = some "ip" := by simpa [RateLimitFlag.bit] using hip
  have hother : text? o "strategy" = some "header" := by simpa [RateLimitFlag.bit] using hheader
  rw [hstrategy, Option.some.injEq] at hother
  exact absurd hother (by decide)

theorem httpClient_form : Single HttpClientWord (httpClient o) := by
  obtain ⟨hnonneg, hle⟩ : Within 0 7 (entryAt (httpClient o) 0) :=
    within_ofConditions (n := 3) (by decide) rfl (by simp [HttpClientFlag.bit])
  have hpresent : hasBit (entryAt (httpClient o) 0) 0 = true :=
    (hasBit_ofConditions (by simp [HttpClientFlag.bit]) (by decide)).trans rfl
  have hodd := (hasBit_first_iff _).mp hpresent
  have hone : 1 ≤ (entryAt (httpClient o) 0).toInt := by omega
  exact ⟨_, rfl, ⟨hone, hle⟩, hodd⟩

theorem responseHeaders_form : Single (Within 0 15) (responseHeaders o) :=
  single_ofConditions (n := 4) (by decide) rfl (by simp [presentBits])

theorem lua_form : Single (Within 0 3) (lua o) :=
  single_ofConditions (n := 2) (by decide) rfl (by simp)

theorem httpCache_form : Single (Within 0 7) (httpCache o) :=
  single_ofConditions (n := 3) (by decide) rfl (by simp [trueBits, CacheFlag.bit])

theorem basicAuth_form : Single (Within 0 1) (basicAuth o) :=
  ⟨_, rfl, within_indicator _⟩

end Settings

section Countable

variable {o : Object} (h : Countable o)
include h

theorem countableLists_section (key : String) : CountableLists ((section? o key).getD []) := by
  cases hs : section? o key with
  | none => exact fun _ => Nat.two_pow_pos 63
  | some s => exact h.sections key s hs

theorem tokenRevoker_form : RevokerForm (tokenRevoker o) where
  length := rfl
  optimal := within_indicator _
  keys := nonNegative_length _ h.lists

theorem botDetector_form : DetectorForm (botDetector o) where
  length := rfl
  lists := by
    intro index hlt
    match index with
    | 0 | 1 | 2 => exact nonNegative_length _ h.lists

theorem within_enabledExporters (kind disabling : String) :
    Within 0 (exporters o kind).length
      (enabledExporters ((section? o "exporters").getD []) kind disabling) :=
  within_ofNat (Nat.le_trans List.countP_le_length (List.length_filterMap_le _ _))
    (countableLists_section h _ kind)

theorem openTelemetry_form : OpenTelemetryForm o (openTelemetry o) where
  length := rfl
  otlpMetrics := within_enabledExporters h _ _
  otlpTraces := within_enabledExporters h _ _
  prometheus := within_enabledExporters h _ _

theorem grpcServer_form : AtMostOne NonNegative (grpcServer o) := by
  rw [grpcServer]
  cases hs : section? o "server" with
  | none => exact .inl rfl
  | some server => exact .inr ⟨_, rfl, nonNegative_length _ (h.sections _ server hs)⟩

theorem responseSchema_form : ResponseSchemaForm (responseSchema o) where
  length := rfl
  size := by
    refine nonNegative_ofNat ?_
    cases hs : section? o "schema" with
    | none => decide
    | some schema => exact h.schema schema hs
  body := within_indicator _
  status := nonNegative_positive _ _
  contentType := within_indicator _

theorem responseBody_form : ResponseBodyForm (responseBody o) := by
  let count (kind : String) : Nat :=
    (items o "modifiers").countP fun m => modifierKind? m == some kind
  have hlength := h.lists "modifiers"
  have hcount : ∀ kind ∈ bodyModifiers, count kind < 2 ^ 63 :=
    fun kind _ => Nat.lt_of_le_of_lt List.countP_le_length hlength
  refine ⟨rfl, ?_, ?_⟩
  · rw [responseBody, List.forall_mem_cons, List.forall_mem_map]
    exact ⟨nonNegative_ofNat hlength, fun kind hkind => nonNegative_ofNat (hcount kind hkind)⟩
  · have hsum := sum_toInt_ofNat (List.forall_mem_map.mpr hcount)
    rw [List.map_map] at hsum
    have hle := sum_countP_le modifierKind? (by decide : bodyModifiers.Nodup)
      (items o "modifiers")
    calc ((responseBody o).tail.map Int64.toInt).sum
      _ = (bodyModifiers.map count).sum := hsum
      _ ≤ (items o "modifiers").length := Int.ofNat_le.mpr hle
      _ = (entryAt (responseBody o) 0).toInt := (Int64.toInt_ofNat_of_lt hlength).symm

theorem webSocket_form : WebSocketForm (webSocket o) where
  length := rfl
  switches := within_ofConditions (n := 5) (by decide) rfl (by simp [trueBits])
  sizes := by
    intro index hlow hhigh
    match index with
    | 1 | 2 | 3 | 4 | 5 => exact nonNegative_positive _ _
  durations := by
    intro index hlow hhigh
    match index with
    | 6 | 7 | 8 | 9 => exact within_milliseconds _ _
  subprotocols := nonNegative_length _ h.lists

end Countable

theorem rel_lookup {α β : Type} {R : α → β → Prop} {xs : List (String × α)}
    {ys : List (String × β)} (h : List.Forall₂ (fun x y => x.1 = y.1 ∧ R x.2 y.2) xs ys)
    (k : String) : Option.Rel R (xs.lookup k) (ys.lookup k) := by
  induction h with
  | nil => exact .none
  | @cons x y xs ys hxy _ ih =>
      obtain ⟨j, a⟩ := x
      obtain ⟨_, b⟩ := y
      obtain ⟨rfl, hab⟩ := hxy
      rw [List.lookup_cons, List.lookup_cons]
      cases k == j with
      | true => exact .some hab
      | false => exact ih

def Meets (Form : Object → List Int64 → Prop) (summarize : Object → List Int64) : Prop :=
  ∀ o, Countable o → Form o (summarize o)

theorem forms_summaries :
    List.Forall₂ (fun x y => x.1 = y.1 ∧ Meets x.2 y.2) forms summaries := by
  rw [forms, summaries]
  simp only [List.forall₂_cons]
  exact ⟨⟨rfl, fun o _ => serverPlugin_form o⟩, ⟨rfl, fun o _ => clientPlugin_form o⟩,
    ⟨rfl, fun o _ => modifierPlugin_form o⟩, ⟨rfl, fun o _ => proxy_form o⟩,
    ⟨rfl, fun o _ => router_form o⟩, ⟨rfl, fun _ => tokenRevoker_form⟩,
    ⟨rfl, fun _ => botDetector_form⟩, ⟨rfl, fun o _ => openCensus_form o⟩,
    ⟨rfl, fun o _ => rateLimit_form o⟩, ⟨rfl, fun o _ => httpClient_form o⟩,
    ⟨rfl, fun _ _ => rfl⟩, ⟨rfl, fun _ => openTelemetry_form⟩,
    ⟨rfl, fun _ => grpcServer_form⟩, ⟨rfl, fun _ => responseSchema_form⟩,
    ⟨rfl, fun _ => responseBody_form⟩, ⟨rfl, fun o _ => responseHeaders_form o⟩,
    ⟨rfl, fun _ => webSocket_form⟩, ⟨rfl, fun o _ => lua_form o⟩, ⟨rfl, fun o _ => lua_form o⟩,
    ⟨rfl, fun o _ => lua_form o⟩, ⟨rfl, fun o _ => httpCache_form o⟩,
    ⟨rfl, fun o _ => basicAuth_form o⟩, .nil⟩

theorem formed_summary (ns : String) {settings : Value}
    (h : ∀ o, settings = .object o → Countable o) : Formed ns settings (summary ns settings) := by
  have hrel := rel_lookup forms_summaries ns
  unfold Formed summary
  generalize forms.lookup ns = form?, summaries.lookup ns = summary? at hrel
  cases hrel with
  | none => rfl
  | some hform =>
      cases settings with
      | object o => exact hform o (h o rfl)
      | _ => rfl

theorem components_formed (x : Extensions) (ns : String) (settings : Value)
    (h : x.get? ns = some settings) (hcount : ∀ o, settings = .object o → Countable o) :
    ∃ values, (components x).get? ns = some values ∧ Formed ns settings values := by
  refine ⟨summary ns settings, ?_, formed_summary ns hcount⟩
  rw [get?_components, h, Option.map_some]

def otlp : Object :=
  [("otlp", .array [.object [("disable_metrics", .bool true)], .null, .object []])]

def sampled : Object :=
  [("exporters", .object otlp), ("trace_sample_rate", .string "all")]

theorem countable_sampled : Countable sampled where
  lists := by
    intro key
    rw [items, list?, sampled, Entries.get?_cons, Entries.get?_cons]
    split
    · decide
    · split <;> exact Nat.two_pow_pos 63
  sections := by
    intro key s hs inner
    rw [section?, sampled, Entries.get?_cons, Entries.get?_cons] at hs
    split at hs
    · obtain rfl : otlp = s := Option.some.inj hs
      rw [items, list?, otlp, Entries.get?_cons]
      split
      · decide
      · exact Nat.two_pow_pos 63
    · split at hs <;> cases hs
  schema := by
    intro s hs
    cases hs

theorem components_formed_sampled :
    let x : Extensions := KeyMap.empty.insert "telemetry/opentelemetry" (.object sampled)
    x.get? "telemetry/opentelemetry" = some (.object sampled) ∧
      (∀ o, Value.object sampled = .object o → Countable o) ∧
      ∃ values, (components x).get? "telemetry/opentelemetry" = some values ∧
        OpenTelemetryForm sampled values := by
  intro x
  have hget : x.get? "telemetry/opentelemetry" = some (.object sampled) := rfl
  have hcount : ∀ o, Value.object sampled = .object o → Countable o := by
    intro o ho
    obtain rfl : sampled = o := Value.object.inj ho
    exact countable_sampled
  obtain ⟨values, hvalues, hformed⟩ := components_formed x _ _ hget hcount
  exact ⟨hget, hcount, values, hvalues, hformed⟩

end Gateway.Extension
