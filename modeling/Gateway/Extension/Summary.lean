import Gateway.Config.Reader
import Gateway.Extension.Setting
import Gateway.Json.Printer
import Gateway.Namespace
import Gateway.Snapshot.Basic
import Gateway.Snapshot.Flag
import Gateway.Snapshot.Plugin

namespace Gateway.Extension

open Json Snapshot

def pluginNames? (o : Object) : Option (List String) :=
  match o.get? "name" with
  | some (.string name) => some [name]
  | some (.array names) => some (names.filterMap Value.string?)
  | _ => none

def pluginBits (bitOf : String → Nat) (o : Object) : List Int64 :=
  match pluginNames? o with
  | some names => [Bits.ofList (names.map bitOf)]
  | none => []

def serverPlugin : Object → List Int64 :=
  pluginBits ServerPlugin.bitOf

def modifierPlugin : Object → List Int64 :=
  pluginBits ModifierPlugin.bitOf

def clientPlugin (o : Object) : List Int64 :=
  match text? o "name" with
  | some name => [ClientPlugin.numberOf name]
  | none => []

def proxy (o : Object) : List Int64 :=
  [Bits.ofConditions (
    trueBits o [
      ("sequential", ProxyFlag.sequential.bit),
      ("shadow", ProxyFlag.shadow.bit)] ++
    presentBits o [
      ("flatmap_filter", ProxyFlag.flatmapFilter.bit),
      ("combiner", ProxyFlag.combiner.bit),
      ("static", ProxyFlag.static.bit)])]

def router (o : Object) : List Int64 :=
  [Bits.ofConditions (
    trueBits o [
      ("error_body", RouterFlag.errorBody.bit),
      ("disable_health", RouterFlag.healthDisabled.bit),
      ("disable_access_log", RouterFlag.accessLogDisabled.bit),
      ("return_error_msg", RouterFlag.returnErrorMessage.bit),
      ("disable_redirect_trailing_slash", RouterFlag.trailingSlashRedirectDisabled.bit),
      ("disable_redirect_fixed_path", RouterFlag.fixedPathRedirectDisabled.bit),
      ("remove_extra_slash", RouterFlag.extraSlashRemoved.bit),
      ("disable_handle_method_not_allowed", RouterFlag.methodNotAllowedDisabled.bit),
      ("disable_path_decoding", RouterFlag.pathDecodingDisabled.bit),
      ("auto_options", RouterFlag.autoOptions.bit),
      ("forwarded_by_client_ip", RouterFlag.forwardedByClientIp.bit),
      ("app_engine", RouterFlag.appEngine.bit),
      ("hide_version_header", RouterFlag.versionHidden.bit),
      ("use_h2c", RouterFlag.clearTextHttp2.bit)] ++
    presentBits o [("health_path", RouterFlag.healthPath.bit)] ++
    [(hasItems o "remote_ip_headers", RouterFlag.remoteIpHeaders.bit),
      (hasItems o "trusted_proxies", RouterFlag.trustedProxies.bit),
      (isPositive o "max_multipart_memory", RouterFlag.multipartMemory.bit),
      (hasItems o "logger_skip_paths", RouterFlag.loggerSkipPaths.bit)])]

def rateLimit (o : Object) : List Int64 :=
  let strategy := text? o "strategy"
  [Bits.ofConditions [
    (isPositive o "max_rate", RateLimitFlag.maxRate.bit),
    (isPositive o "client_max_rate", RateLimitFlag.clientMaxRate.bit),
    (strategy == some "ip", RateLimitFlag.byIp.bit),
    (strategy == some "header", RateLimitFlag.byHeader.bit)]]

-- The TLS section is read as a whole: one field of the wrong type makes it count as none.
def clientTls? (o : Object) : Option Config.ClientTls :=
  match o.get? "client_tls" with
  | some (.object members) =>
      (Config.ClientTls.layout.read (Datum.ofValue (.object members))).toOption
  | _ => none

def httpClient (o : Object) : List Int64 :=
  let tls := (clientTls? o).getD {}
  [Bits.ofConditions [
    (true, HttpClientFlag.present.bit),
    (tls.insecureConnections, HttpClientFlag.insecureConnections.bit),
    (!tls.clientCertificates.isEmpty, HttpClientFlag.clientCertificates.bit)]]

def httpCache (o : Object) : List Int64 :=
  [Bits.ofConditions (
    trueBits o [("shared", CacheFlag.shared.bit)] ++
    [(isPositive o "max_items", CacheFlag.maxItems.bit),
      (isPositive o "max_size", CacheFlag.maxSize.bit)])]

def grpcServer (o : Object) : List Int64 :=
  match section? o "server" with
  | some server => [length server "services"]
  | none => []

def webSocket (o : Object) : List Int64 :=
  [Bits.ofConditions (
    trueBits o [
      ("disable_otel_metrics", 0),
      ("enable_direct_communication", 1),
      ("return_error_details", 2),
      ("connect_event", 3),
      ("disconnect_event", 4)]),
    whole (positive? o "read_buffer_size"),
    whole (positive? o "write_buffer_size"),
    whole (positive? o "message_buffer_size"),
    whole (positive? o "max_message_size"),
    whole (positive? o "max_retries"),
    milliseconds o "write_wait",
    milliseconds o "pong_wait",
    milliseconds o "ping_period",
    milliseconds o "timeout",
    length o "subprotocols"]

def tokenRevoker (o : Object) : List Int64 :=
  [indicator (text? o "hash_name" == some "optimal"), length o "token_keys"]

def botDetector (o : Object) : List Int64 :=
  [length o "allow", length o "deny", length o "patterns", whole (number? o "cache_size")]

def basicAuth (o : Object) : List Int64 :=
  let hasUsers := (section? o "users").any fun users => !users.isEmpty
  [indicator (hasUsers || hasText o "htpasswd_path")]

def openCensusExporters : List (String × Nat) := [
  ("logger", 0),
  ("zipkin", 1),
  ("jaeger", 2),
  ("influxdb", 3),
  ("prometheus", 4),
  ("xray", 5),
  ("stackdriver", 6),
  ("datadog", 7),
  ("ocagent", 8)]

def openCensus (o : Object) : List Int64 :=
  match section? o "exporters" with
  | some exporters => [Bits.ofConditions (presentBits exporters openCensusExporters)]
  | none => []

def moesif (o : Object) : List Int64 :=
  [whole (number? o "event_queue_size"), whole (number? o "batch_size"),
    whole (number? o "timer_wake_up_seconds")]

def enabledExporters (exporters : Object) (kind disabling : String) : Int64 :=
  let entries := ((list? exporters kind).getD []).filterMap Value.object?
  Int64.ofNat (entries.countP fun e => !isTrue e disabling)

def openTelemetry (o : Object) : List Int64 :=
  let exporters := (section? o "exporters").getD []
  [((number? o "metric_reporting_period").map Double.toInt64).getD (-1),
    ((number? o "trace_sample_rate").map fun rate => (rate.scale 100).toInt64).getD (-1),
    enabledExporters exporters "otlp" "disable_metrics",
    enabledExporters exporters "otlp" "disable_traces",
    enabledExporters exporters "prometheus" "disable_metrics"]

def responseSchema (o : Object) : List Int64 :=
  let size := match section? o "schema" with
    | some schema => (compact (.object schema)).length
    | none => 0
  let error := (section? o "error").getD []
  [Int64.ofNat size, indicator (hasText error "body"), whole (positive? error "status"),
    indicator (hasText error "content_type")]

def bodyModifiers : List String :=
  ["regexp", "literal", "upper", "lower", "trim"]

def modifierKind? (v : Value) : Option String :=
  (v.object?.bind (·.head?)).map (·.1)

def responseBody (o : Object) : List Int64 :=
  let modifiers := (list? o "modifiers").getD []
  Int64.ofNat modifiers.length ::
    bodyModifiers.map fun kind =>
      Int64.ofNat (modifiers.countP fun m => modifierKind? m == some kind)

def responseHeaders (o : Object) : List Int64 :=
  [Bits.ofConditions (presentBits o [("delete", 0), ("add", 1), ("rename", 2), ("replace", 3)])]

def lua (o : Object) : List Int64 :=
  [Bits.ofConditions [((text? o "pre").isSome, 0), ((text? o "post").isSome, 1)]]

def summaries : List (String × (Object → List Int64)) := [
  (Namespace.serverPlugin, serverPlugin),
  (Namespace.clientPlugin, clientPlugin),
  (Namespace.modifierPlugin, modifierPlugin),
  (Namespace.proxy, proxy),
  (Namespace.router, router),
  (Namespace.tokenRevoker, tokenRevoker),
  (Namespace.botDetector, botDetector),
  (Namespace.openCensus, openCensus),
  (Namespace.routerRateLimit, rateLimit),
  (Namespace.httpClient, httpClient),
  (Namespace.moesif, moesif),
  (Namespace.openTelemetry, openTelemetry),
  (Namespace.grpcServer, grpcServer),
  (Namespace.responseSchema, responseSchema),
  (Namespace.responseBody, responseBody),
  (Namespace.responseHeaders, responseHeaders),
  (Namespace.webSocket, webSocket),
  (Namespace.luaProxy, lua),
  (Namespace.luaBackend, lua),
  (Namespace.luaEndpoint, lua),
  (Namespace.httpCache, httpCache),
  (Namespace.basicAuth, basicAuth)]

def summary (ns : String) (settings : Value) : List Int64 :=
  match summaries.lookup ns, settings with
  | some summarize, .object o => summarize o
  | _, _ => []

def components (extensions : Extensions) : Components :=
  extensions.map summary

end Gateway.Extension
