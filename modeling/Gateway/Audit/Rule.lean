import Gateway.Audit.Check
import Gateway.Audit.Settings

namespace Gateway

structure Rule where
  id : String
  severity : Severity
  message : String
  fires : Snapshot → Bool

namespace Rule

open Check

def access : List Rule := [
  ⟨"1.1.1", .medium,
    "Implement more secure alternatives than Basic Auth to protect your data.",
    usesBasicAuth⟩,
  ⟨"1.1.2", .medium,
    "Implement more secure alternatives than API Keys to protect your data.",
    attached Namespace.apiKeys⟩,
  ⟨"1.2.1", .high,
    "Prioritize using JWT for endpoint authorization to ensure security.",
    lacksJwt⟩]

def exposure : List Rule := [
  ⟨"2.1.1", .high,
    "Only allow secure connections (avoid insecure_connections).",
    hasFlag .insecureConnections⟩,
  ⟨"2.1.2", .high,
    "Enable TLS or use a TLS terminator in front of the gateway.",
    fun s => !hasFlag .hasTls s⟩,
  ⟨"2.1.3", .critical,
    "Ensure your TLS is enabled.",
    fun s => hasFlag .hasTls s && !hasFlag .tlsEnabled s⟩,
  ⟨"2.1.7", .high,
    "Ensure you enable HTTP security header checks (security/http).",
    fun s => !attached Namespace.httpSecurity s⟩,
  ⟨"2.1.8", .high,
    "Avoid clear text communication (h2c).",
    usesClearTextHttp2⟩,
  ⟨"2.1.9", .high,
    "Establish secure connections in internal traffic (avoid insecure_connections internally).",
    connectsInsecurely⟩,
  ⟨"2.2.1", .medium,
    "Ensure that the version banner is hidden in runtime.",
    showsVersion⟩,
  ⟨"2.2.2", .high,
    "Ensure that CORS is enabled.",
    fun s => !attached Namespace.cors s⟩,
  ⟨"2.2.3", .high,
    "Avoid passing all input headers to the backend.",
    hasWildcard .headers⟩,
  ⟨"2.2.4", .high,
    "Avoid passing all input query strings to the backend.",
    hasWildcard .queryStrings⟩,
  ⟨"2.2.5", .high,
    "Avoid exposing gRPC server without services declared.",
    servesNoGrpcService⟩,
  ⟨"2.3.1", .low,
    "Avoid using wildcards in endpoint paths.",
    hasWildcard .path⟩]

def traffic : List Rule := [
  ⟨"3.1.1", .medium,
    "Ensure that the Bot detector is enabled.",
    fun s => !attached Namespace.botDetector s⟩,
  ⟨"3.1.2", .medium,
    "Ensure you enable some rate-limiting strategy and avoid having an All-You-Can-Eat API.",
    lacksRateLimit⟩,
  ⟨"3.1.3", .medium,
    "Ensure you protect your backends with a circuit breaker.",
    lacksCircuitBreaker⟩,
  ⟨"3.2.1", .high,
    "Ensure all your backend caches have a size limit.",
    cachesWithoutLimit⟩,
  ⟨"3.3.1", .low,
    "Ensure that your timeouts are below 3 seconds.",
    timeoutAbove 3000⟩,
  ⟨"3.3.2", .medium,
    "Ensure that your timeouts are below 5 seconds.",
    timeoutAbove 5000⟩,
  ⟨"3.3.3", .high,
    "Ensure that your timeouts are below 30 seconds.",
    timeoutAbove 30000⟩,
  ⟨"3.3.4", .critical,
    "Ensure that your timeouts are below 60 seconds.",
    timeoutAbove 60000⟩]

def telemetry : List Rule := [
  ⟨"4.1.1", .medium,
    "Ensure that you have some telemetry system for metrics.",
    fun s => metricsExtensions s == 0⟩,
  ⟨"4.1.3", .medium,
    "Avoid duplicating telemetry options to prevent system overload.",
    fun s => 1 < telemetryExtensions s⟩,
  ⟨"4.2.1", .medium,
    "Ensure that you have some telemetry system for tracing.",
    lacksTracing⟩,
  ⟨"4.3.1", .medium,
    "Ensure that you have the improved logging component, which improves log parsing.",
    lacksLogging⟩]

def design : List Rule := [
  ⟨"5.1.1", .low,
    "Enable strict REST for endpoint paths.",
    hasFlag .restDisabled⟩,
  ⟨"5.1.2", .low,
    "Avoid exposing the debug endpoint in production.",
    hasFlag .debugEndpoint⟩,
  ⟨"5.1.3", .low,
    "Avoid exposing the echo endpoint in production.",
    hasFlag .echoEndpoint⟩,
  ⟨"5.1.4", .low,
    "Declare at least one backend for every endpoint.",
    servesWithoutBackend⟩,
  ⟨"5.1.5", .low,
    "Benefit from the backend aggregation capabilities of the gateway.",
    aggregatesNothing⟩,
  ⟨"5.1.6", .low,
    "Benefit from the data manipulation capabilities of the gateway (avoid no-op everywhere).",
    manipulatesNothing⟩,
  ⟨"5.1.7", .low,
    "Avoid sequential start with many async agents.",
    startsManyAgentsInTurn⟩,
  ⟨"5.2.1", .medium,
    "Avoid more than one unsafe method in the same endpoint.",
    repeatsUnsafeCalls⟩,
  ⟨"5.2.2", .medium,
    "Avoid sequential proxy; chained backend calls add latency.",
    callsInTurn⟩,
  ⟨"5.2.3", .high,
    "Avoid using the catch-all endpoint.",
    hasWildcard .catchAll⟩]

def deprecation : List Rule := [
  ⟨"7.1.1", .low,
    "Avoid using deprecated Instana telemetry.",
    attached Namespace.instana⟩,
  ⟨"7.1.2", .low,
    "Avoid using deprecated Google Analytics telemetry.",
    attached Namespace.googleAnalytics⟩,
  ⟨"7.1.3", .low,
    "Avoid using the deprecated basic-auth server plugin; use auth/basic instead.",
    loadsServerPlugin .basicAuth⟩,
  ⟨"7.1.4", .low,
    "Avoid using the deprecated static-filesystem server plugin; use server/static-filesystem instead.",
    loadsServerPlugin .staticFilesystem⟩,
  ⟨"7.1.5", .low,
    "Avoid using the deprecated virtualhost server plugin; use server/virtualhost instead.",
    loadsServerPlugin .virtualHost⟩,
  ⟨"7.1.6", .low,
    "Avoid using the deprecated static-filesystem client plugin; use backend/static-filesystem instead.",
    loadsClientPlugin .staticFilesystem⟩,
  ⟨"7.1.7", .low,
    "Avoid using the deprecated no-redirect client plugin; use backend/http/client instead.",
    loadsClientPlugin .noRedirect⟩,
  ⟨"7.1.8", .low,
    "Avoid using the deprecated response-schema-validator plugin; use validation/response-json-schema instead.",
    loadsModifierPlugin .responseSchemaValidator⟩,
  ⟨"7.1.9", .low,
    "Avoid using the deprecated content-replacer plugin; use modifier/response-body instead.",
    loadsModifierPlugin .contentReplacer⟩,
  ⟨"7.2.1", .low,
    "Avoid using deprecated OpenCensus telemetry; use OpenTelemetry instead.",
    attached Namespace.openCensus⟩,
  ⟨"7.3.1", .low,
    "Avoid using deprecated TLS public_key and private_key; declare keys instead.",
    hasFlag .rawKeyFiles⟩]

def all : List Rule :=
  access ++ exposure ++ traffic ++ telemetry ++ design ++ deprecation

def find? (id : String) : Option Rule :=
  all.find? (·.id == id)

theorem forall_mem_all {P : Rule → Prop} (haccess : ∀ r ∈ access, P r)
    (hexposure : ∀ r ∈ exposure, P r) (htraffic : ∀ r ∈ traffic, P r)
    (htelemetry : ∀ r ∈ telemetry, P r) (hdesign : ∀ r ∈ design, P r)
    (hdeprecation : ∀ r ∈ deprecation, P r) : ∀ r ∈ all, P r := by
  simp only [all, List.forall_mem_append]
  exact ⟨⟨⟨⟨⟨haccess, hexposure⟩, htraffic⟩, htelemetry⟩, hdesign⟩, hdeprecation⟩

theorem of_find? {id : String} {r : Rule} (h : find? id = some r) : r ∈ all ∧ r.id = id :=
  ⟨List.mem_of_find?_eq_some h, by simpa using List.find?_some h⟩

end Rule

end Gateway
