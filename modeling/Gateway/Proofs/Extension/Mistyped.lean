import Gateway.Proofs.Extension.Expected
import Gateway.Proofs.Extension.Form

namespace Gateway.Extension

open Json Expected

def boolean : Expected := .whole [.boolean]
def number : Expected := .whole [.number]
def text : Expected := .whole [.text]
def list : Expected := .whole [.list]
def object : Expected := .whole [.object]

def each (keys : List String) (e : Expected) : Fields :=
  keys.map (·, e)

def pluginFields : Fields :=
  [("name", .whole [.text, .list])]

def clientPluginFields : Fields :=
  [("name", text)]

def proxyFields : Fields :=
  each ["sequential", "shadow"] boolean ++
    each ["flatmap_filter", "combiner", "static"] .anything

def routerFields : Fields :=
  each ["error_body", "disable_health", "disable_access_log", "return_error_msg",
    "disable_redirect_trailing_slash", "disable_redirect_fixed_path", "remove_extra_slash",
    "disable_handle_method_not_allowed", "disable_path_decoding", "auto_options",
    "forwarded_by_client_ip", "app_engine", "hide_version_header", "use_h2c"] boolean ++
    each ["remote_ip_headers", "trusted_proxies", "logger_skip_paths"] list ++
      [("max_multipart_memory", number), ("health_path", .anything)]

def revokerFields : Fields :=
  [("hash_name", text), ("token_keys", list)]

def detectorFields : Fields :=
  each ["allow", "deny", "patterns"] list ++ [("cache_size", number)]

def openCensusFields : Fields :=
  [("exporters", .members (each ["logger", "zipkin", "jaeger", "influxdb", "prometheus", "xray",
    "stackdriver", "datadog", "ocagent"] .anything))]

def rateLimitFields : Fields :=
  each ["max_rate", "client_max_rate"] number ++ [("strategy", text)]

def httpClientFields : Fields :=
  [("client_tls", object)]

def moesifFields : Fields :=
  each ["event_queue_size", "batch_size", "timer_wake_up_seconds"] number

def otlpFields : Fields :=
  each ["disable_metrics", "disable_traces"] boolean

def prometheusFields : Fields :=
  [("disable_metrics", boolean)]

def exporterFields : Fields :=
  [("otlp", .items (.members otlpFields)), ("prometheus", .items (.members prometheusFields))]

def openTelemetryFields : Fields :=
  each ["metric_reporting_period", "trace_sample_rate"] number ++
    [("exporters", .members exporterFields)]

def grpcServerFields : Fields :=
  [("server", .members [("services", list)])]

def schemaErrorFields : Fields :=
  each ["body", "content_type"] text ++ [("status", number)]

def responseSchemaFields : Fields :=
  [("schema", object), ("error", .members schemaErrorFields)]

def responseBodyFields : Fields :=
  [("modifiers", list)]

def responseHeadersFields : Fields :=
  each ["delete", "add", "rename", "replace"] .anything

def webSocketFields : Fields :=
  each ["disable_otel_metrics", "enable_direct_communication", "return_error_details",
    "connect_event", "disconnect_event"] boolean ++
    each ["read_buffer_size", "write_buffer_size", "message_buffer_size", "max_message_size",
      "max_retries"] number ++
      each ["write_wait", "pong_wait", "ping_period", "timeout"] text ++
        [("subprotocols", list)]

def luaFields : Fields :=
  each ["pre", "post"] text

def cacheFields : Fields :=
  each ["max_items", "max_size"] number ++ [("shared", boolean)]

def basicAuthFields : Fields :=
  [("users", object), ("htpasswd_path", text)]

def expectations : List (String × Fields) := [
  ("plugin/http-server", pluginFields),
  ("plugin/http-client", clientPluginFields),
  ("plugin/req-resp-modifier", pluginFields),
  ("proxy", proxyFields),
  ("router", routerFields),
  ("auth/revoker", revokerFields),
  ("security/bot-detector", detectorFields),
  ("telemetry/opencensus", openCensusFields),
  ("qos/ratelimit/router", rateLimitFields),
  ("backend/http/client", httpClientFields),
  ("telemetry/moesif", moesifFields),
  ("telemetry/opentelemetry", openTelemetryFields),
  ("grpc", grpcServerFields),
  ("validation/response-json-schema", responseSchemaFields),
  ("modifier/response-body", responseBodyFields),
  ("modifier/response-headers", responseHeadersFields),
  ("websocket", webSocketFields),
  ("modifier/lua-proxy", luaFields),
  ("modifier/lua-backend", luaFields),
  ("modifier/lua-endpoint", luaFields),
  ("qos/http-cache", cacheFields),
  ("auth/basic", basicAuthFields)]

def Keeps (fields : Fields) (summarize : Object → List Int64) : Prop :=
  ∀ o, summarize (keptMembers fields o) = summarize o

section Kept

variable (o : Object)

theorem pluginBits_kept (bitOf : String → Nat) :
    pluginBits bitOf (keptMembers pluginFields o) = pluginBits bitOf o := by
  have hnames : pluginNames? (keptMembers pluginFields o) = pluginNames? o := by
    rw [pluginNames?, pluginNames?, get?_keptMembers]
    cases o.get? "name" with
    | none => rfl
    | some v => cases v <;> rfl
  rw [pluginBits, pluginBits, hnames]

theorem clientPlugin_kept : clientPlugin (keptMembers clientPluginFields o) = clientPlugin o := by
  simp (disch := decide) only [clientPlugin, text?_kept]

theorem proxy_kept : proxy (keptMembers proxyFields o) = proxy o := by
  simp (disch := decide) only [proxy, trueBits_kept, presentBits_kept]

theorem router_kept : router (keptMembers routerFields o) = router o := by
  simp (disch := decide) only [router, trueBits_kept, presentBits_kept, hasItems, list?_kept,
    isPositive, positive?, number?_kept]

theorem tokenRevoker_kept : tokenRevoker (keptMembers revokerFields o) = tokenRevoker o := by
  simp (disch := decide) only [tokenRevoker, text?_kept, length, list?_kept]

theorem botDetector_kept : botDetector (keptMembers detectorFields o) = botDetector o := by
  simp (disch := decide) only [botDetector, length, list?_kept, number?_kept]

theorem openCensus_kept : openCensus (keptMembers openCensusFields o) = openCensus o := by
  rw [openCensus, openCensus, section?_kept_members o rfl]
  cases section? o "exporters" with
  | none => rfl
  | some exporters =>
      simp (disch := decide) only [Option.map_some, openCensusExporters, presentBits_kept]

theorem rateLimit_kept : rateLimit (keptMembers rateLimitFields o) = rateLimit o := by
  simp (disch := decide) only [rateLimit, isPositive, positive?, number?_kept, text?_kept]

theorem httpClient_kept : httpClient (keptMembers httpClientFields o) = httpClient o := by
  have htls : clientTls? (keptMembers httpClientFields o) = clientTls? o := by
    rw [clientTls?, clientTls?, get?_keptMembers]
    cases o.get? "client_tls" with
    | none => rfl
    | some v => cases v <;> rfl
  rw [httpClient, httpClient, htls]

theorem moesif_kept : moesif (keptMembers moesifFields o) = moesif o := by
  simp (disch := decide) only [moesif, number?_kept]

theorem enabledExporters_kept {fields inner : Fields} {kind disabling : String}
    (hkind : fields.lookup kind = some (.items (.members inner)))
    (hdisabling : inner.takes .boolean disabling = true) :
    enabledExporters (keptMembers fields o) kind disabling =
      enabledExporters o kind disabling := by
  rw [enabledExporters, enabledExporters, list?_kept_items o hkind]
  cases list? o kind with
  | none => rfl
  | some entries =>
      have hobject : ∀ v : Value, ((members inner).kept v).bind Value.object? =
          v.object?.map (keptMembers inner) := by
        intro v
        cases v <;> rfl
      simp only [Option.map_some, Option.getD_some, List.filterMap_filterMap, hobject,
        ← List.map_filterMap, List.countP_map, Function.comp_def, isTrue_kept _ hdisabling]

theorem openTelemetry_kept :
    openTelemetry (keptMembers openTelemetryFields o) = openTelemetry o := by
  have hexporters : (section? (keptMembers openTelemetryFields o) "exporters").getD [] =
      keptMembers exporterFields ((section? o "exporters").getD []) :=
    getD_section?_kept o rfl
  simp (disch := decide) only [openTelemetry, number?_kept, hexporters]
  rw [enabledExporters_kept _ rfl rfl, enabledExporters_kept _ rfl rfl,
    enabledExporters_kept _ rfl rfl]

theorem grpcServer_kept : grpcServer (keptMembers grpcServerFields o) = grpcServer o := by
  rw [grpcServer, grpcServer, section?_kept_members o rfl]
  cases section? o "server" with
  | none => rfl
  | some server => simp (disch := decide) only [Option.map_some, length, list?_kept]

theorem responseSchema_kept :
    responseSchema (keptMembers responseSchemaFields o) = responseSchema o := by
  have herror : (section? (keptMembers responseSchemaFields o) "error").getD [] =
      keptMembers schemaErrorFields ((section? o "error").getD []) :=
    getD_section?_kept o rfl
  simp (disch := decide) only [responseSchema, section?_kept, herror, hasText, text?_kept,
    positive?, number?_kept]

theorem responseBody_kept : responseBody (keptMembers responseBodyFields o) = responseBody o := by
  simp (disch := decide) only [responseBody, list?_kept]

theorem responseHeaders_kept :
    responseHeaders (keptMembers responseHeadersFields o) = responseHeaders o := by
  simp (disch := decide) only [responseHeaders, presentBits_kept]

theorem webSocket_kept : webSocket (keptMembers webSocketFields o) = webSocket o := by
  simp (disch := decide) only [webSocket, trueBits_kept, positive?, number?_kept, milliseconds,
    text?_kept, length, list?_kept]

theorem lua_kept : lua (keptMembers luaFields o) = lua o := by
  simp (disch := decide) only [lua, text?_kept]

theorem httpCache_kept : httpCache (keptMembers cacheFields o) = httpCache o := by
  simp (disch := decide) only [httpCache, trueBits_kept, isPositive, positive?, number?_kept]

theorem basicAuth_kept : basicAuth (keptMembers basicAuthFields o) = basicAuth o := by
  simp (disch := decide) only [basicAuth, section?_kept, hasText, text?_kept]

end Kept

theorem keeps_summaries :
    List.Forall₂ (fun x y => x.1 = y.1 ∧ Keeps x.2 y.2) expectations summaries := by
  rw [expectations, summaries]
  simp only [List.forall₂_cons]
  exact ⟨⟨rfl, fun o => pluginBits_kept o _⟩, ⟨rfl, clientPlugin_kept⟩,
    ⟨rfl, fun o => pluginBits_kept o _⟩, ⟨rfl, proxy_kept⟩, ⟨rfl, router_kept⟩,
    ⟨rfl, tokenRevoker_kept⟩, ⟨rfl, botDetector_kept⟩, ⟨rfl, openCensus_kept⟩,
    ⟨rfl, rateLimit_kept⟩, ⟨rfl, httpClient_kept⟩, ⟨rfl, moesif_kept⟩,
    ⟨rfl, openTelemetry_kept⟩, ⟨rfl, grpcServer_kept⟩, ⟨rfl, responseSchema_kept⟩,
    ⟨rfl, responseBody_kept⟩, ⟨rfl, responseHeaders_kept⟩, ⟨rfl, webSocket_kept⟩,
    ⟨rfl, lua_kept⟩, ⟨rfl, lua_kept⟩, ⟨rfl, lua_kept⟩, ⟨rfl, httpCache_kept⟩,
    ⟨rfl, basicAuth_kept⟩, .nil⟩

def Fields.Agree (fields : Fields) (o p : Object) : Prop :=
  ∀ key e, fields.lookup key = some e →
    match e with
    | .anything => o.contains key = p.contains key
    | _ => o.get? key = p.get? key

theorem Fields.Agree.keptMembers_eq {fields : Fields} {o p : Object} (h : fields.Agree o p) :
    keptMembers fields o = keptMembers fields p := by
  refine keptMembers_congr fun key e he => ?_
  have hkey := h key e he
  cases e with
  | anything =>
      have hcontains : o.contains key = p.contains key := hkey
      rw [Entries.contains, Entries.contains] at hcontains
      cases ho : o.get? key <;> cases hp : p.get? key <;> simp_all [kept]
  | _ => rw [show o.get? key = p.get? key from hkey]

theorem Keeps.eq_of_keptMembers_eq {fields : Fields} {summarize : Object → List Int64}
    (h : Keeps fields summarize) {o p : Object}
    (hkept : keptMembers fields o = keptMembers fields p) : summarize o = summarize p := by
  rw [← h o, hkept, h p]

theorem keptMembers_without {fields : Fields} {o p : Object} {path : List Step} {e : Expected}
    {v : Value} (he : (members fields).at? path = some e) (hv : (Value.object o).at? path = some v)
    (hkind : e.accepts v = false) (hp : (Value.object o).without path = .object p) :
    keptMembers fields p = keptMembers fields o := by
  have hpath : path ≠ [] := by
    rintro rfl
    obtain rfl : members fields = e := Option.some.inj he
    obtain rfl : Value.object o = v := Option.some.inj hv
    cases hkind
  have hkept := kept_without hpath he hv hkind
  rw [hp, kept, kept, Option.some.injEq, Value.object.injEq] at hkept
  exact hkept

theorem summarize_without_mistyped {ns : String} {summarize : Object → List Int64}
    (h : summaries.lookup ns = some summarize) :
    ∃ fields, expectations.lookup ns = some fields ∧
      (∀ (o : Object) (path : List Step) (e : Expected) (v : Value),
        (members fields).at? path = some e → (Value.object o).at? path = some v →
        e.accepts v = false →
        ∃ p, (Value.object o).without path = .object p ∧ summarize p = summarize o) ∧
      ∀ o p : Object, fields.Agree o p → summarize o = summarize p := by
  have hrel := rel_lookup keeps_summaries ns
  rw [h] at hrel
  generalize expectations.lookup ns = fields? at hrel ⊢
  cases hrel with
  | @some fields _ hkeeps =>
      refine ⟨fields, rfl, ?_, fun o p hagree => hkeeps.eq_of_keptMembers_eq hagree.keptMembers_eq⟩
      intro o path e v he hv hkind
      obtain ⟨p, hp⟩ := Value.without_object o path
      exact ⟨p, hp, hkeeps.eq_of_keptMembers_eq (keptMembers_without he hv hkind hp)⟩

def exported : Object := [
  ("exporters", .object [
    ("otlp", .array [.object [("disable_traces", .string "yes"), ("host", .null)], .bool true]),
    ("prometheus", .object [])]),
  ("trace_sample_rate", .string "all")]

theorem summarize_without_mistyped_exported :
    summaries.lookup "telemetry/opentelemetry" = some openTelemetry ∧
      ∀ path ∈ [[.member "trace_sample_rate"], [.member "exporters", .member "prometheus"],
        [.member "exporters", .member "otlp", .item 1],
        [.member "exporters", .member "otlp", .item 0, .member "disable_traces"]],
        ∃ p, (Value.object exported).without path = .object p ∧
          openTelemetry p = openTelemetry exported := by
  have hlookup : summaries.lookup "telemetry/opentelemetry" = some openTelemetry := rfl
  obtain ⟨fields, hfields, hmistyped, -⟩ := summarize_without_mistyped hlookup
  obtain rfl : openTelemetryFields = fields := Option.some.inj hfields
  refine ⟨hlookup, ?_⟩
  simp only [List.forall_mem_cons]
  exact ⟨hmistyped _ _ number (.string "all") rfl rfl rfl,
    hmistyped _ _ (.items (.members prometheusFields)) (.object []) rfl rfl rfl,
    hmistyped _ _ (.members otlpFields) (.bool true) rfl rfl rfl,
    hmistyped _ _ boolean (.string "yes") rfl rfl rfl, List.forall_mem_nil _⟩

end Gateway.Extension
