import Gateway.Namespace
import Gateway.Snapshot.Basic
import Gateway.Snapshot.Flag
import Gateway.Snapshot.Plugin

namespace Gateway.Check

open Snapshot

def hasFlag (flag : ServiceFlag) (s : Snapshot) : Bool :=
  Bits.hasBit s.serviceFlags flag.bit

def attached (ns : String) (s : Snapshot) : Bool :=
  s.components.contains ns

def firstHasBit (components : Components) (ns : String) (bit : Nat) : Bool :=
  match components.get? ns with
  | some values => Bits.hasBit (entryAt values 0) bit
  | none => false

def startsWith (components : Components) (ns : String) (number : Int64) : Bool :=
  (components.get? ns).bind (·.head?) == some number

def hasWildcard (w : Wildcard) (s : Snapshot) : Bool :=
  s.endpoints.any fun e => Bits.hasBit (e.flag EndpointFlag.wildcards.index) w.bit

def timeoutAbove (limit : Int64) (s : Snapshot) : Bool :=
  s.endpoints.any fun e => limit < e.flag EndpointFlag.timeout.index

def loadsServerPlugin (plugin : ServerPlugin) (s : Snapshot) : Bool :=
  firstHasBit s.components Namespace.serverPlugin plugin.bit

def loadsClientPlugin (plugin : ClientPlugin) (s : Snapshot) : Bool :=
  s.endpoints.any fun e => startsWith e.components Namespace.clientPlugin plugin.number

def loadsModifierPlugin (plugin : ModifierPlugin) (s : Snapshot) : Bool :=
  s.endpoints.any fun e =>
    firstHasBit e.components Namespace.modifierPlugin plugin.bit ||
      e.backends.any fun b => firstHasBit b.components Namespace.modifierPlugin plugin.bit

def usesBasicAuth (s : Snapshot) : Bool :=
  loadsServerPlugin .basicAuth s || firstHasBit s.components Namespace.basicAuth 0 ||
    s.endpoints.any fun e => firstHasBit e.components Namespace.basicAuth 0

def lacksJwt (s : Snapshot) : Bool :=
  !s.endpoints.any fun e => e.components.contains Namespace.jwtValidator

def usesClearTextHttp2 (s : Snapshot) : Bool :=
  hasFlag .clearTextHttp2 s ||
    firstHasBit s.components Namespace.router RouterFlag.clearTextHttp2.bit

def connectsInsecurely (s : Snapshot) : Bool :=
  s.allBackends.any fun b =>
    firstHasBit b.components Namespace.httpClient HttpClientFlag.insecureConnections.bit

def showsVersion (s : Snapshot) : Bool :=
  !firstHasBit s.components Namespace.router RouterFlag.versionHidden.bit

def servesNoGrpcService (s : Snapshot) : Bool :=
  startsWith s.components Namespace.grpcServer 0

def lacksRateLimit (s : Snapshot) : Bool :=
  !(attached Namespace.routerRateLimit s || attached Namespace.serviceRateLimit s ||
    loadsServerPlugin .redisRateLimit s ||
    s.endpoints.any fun e =>
      e.components.contains Namespace.routerRateLimit ||
        e.components.contains Namespace.proxyRateLimit ||
        e.backends.any fun b => b.components.contains Namespace.proxyRateLimit)

def lacksCircuitBreaker (s : Snapshot) : Bool :=
  !s.endpoints.any fun e =>
    e.components.contains Namespace.circuitBreaker ||
      e.backends.any fun b => b.components.contains Namespace.circuitBreaker

def cachesWithoutLimit (s : Snapshot) : Bool :=
  s.allBackends.any fun b =>
    match b.components.get? Namespace.httpCache with
    | some values =>
        !Bits.hasBit (entryAt values 0) CacheFlag.maxItems.bit ||
          !Bits.hasBit (entryAt values 0) CacheFlag.maxSize.bit
    | none => false

def metricsNamespaces : List String :=
  [Namespace.openCensus, Namespace.metrics, Namespace.newRelic, Namespace.googleAnalytics,
    Namespace.instana]

def metricsExtensions (s : Snapshot) : Nat :=
  metricsNamespaces.countP fun ns => attached ns s

def openTelemetryExporters (s : Snapshot) : Int64 :=
  match s.components.get? Namespace.openTelemetry with
  | some values =>
      if OpenTelemetryEntry.prometheus.index < values.length then
        entryAt values OpenTelemetryEntry.otlpMetrics.index +
          entryAt values OpenTelemetryEntry.prometheus.index
      else 0
  | none => 0

def telemetryExtensions (s : Snapshot) : Int64 :=
  Int64.ofNat (metricsExtensions s) + openTelemetryExporters s

def lacksTracing (s : Snapshot) : Bool :=
  let traced := match s.components.get? Namespace.openTelemetry with
    | some values => 1 ≤ entryAt values OpenTelemetryEntry.otlpTraces.index
    | none => false
  !(traced || attached Namespace.openCensus s || attached Namespace.newRelic s ||
    attached Namespace.instana s)

def lacksLogging (s : Snapshot) : Bool :=
  !(attached Namespace.logging s || attached Namespace.gelf s || attached Namespace.logstash s)

def servesWithoutBackend (s : Snapshot) : Bool :=
  s.endpoints.any fun e => e.backends.isEmpty

def aggregatesNothing (s : Snapshot) : Bool :=
  s.endpoints.all fun e => e.backends.length ≤ 1

def manipulatesNothing (s : Snapshot) : Bool :=
  s.endpoints.all fun e => Bits.hasBit (e.flag EndpointFlag.encoding.index) Encoding.noOp.bit

def startsManyAgentsInTurn (s : Snapshot) : Bool :=
  hasFlag .sequentialStart s && 10 ≤ s.agents.length

def repeatsUnsafeCalls (s : Snapshot) : Bool :=
  s.endpoints.any fun e => 1 < e.flag EndpointFlag.writingCalls.index

def callsInTurn (s : Snapshot) : Bool :=
  s.endpoints.any fun e => firstHasBit e.components Namespace.proxy ProxyFlag.sequential.bit

end Gateway.Check
