import Gateway.Bits

namespace Gateway.Snapshot

inductive ServiceFlag where
  | plugin
  | sequentialStart
  | debugEndpoint
  | insecureConnections
  | restDisabled
  | hasTls
  | tlsEnabled
  | clientsVerified
  | systemPoolDisabled
  | certificateAuthorities
  | echoEndpoint
  | clearTextHttp2
  | rawKeyFiles
  deriving DecidableEq

def ServiceFlag.bit : ServiceFlag → Nat
  | .plugin => 0
  | .sequentialStart => 1
  | .debugEndpoint => 2
  | .insecureConnections => 3
  | .restDisabled => 4
  | .hasTls => 5
  | .tlsEnabled => 6
  | .clientsVerified => 7
  | .systemPoolDisabled => 8
  | .certificateAuthorities => 9
  | .echoEndpoint => 10
  | .clearTextHttp2 => 11
  | .rawKeyFiles => 12

inductive Encoding where
  | noOp
  | json
  | safeJson
  | text
  | rss
  | xml
  | other
  deriving DecidableEq

namespace Encoding

def ofName : String → Encoding
  | "no-op" => .noOp
  | "json" => .json
  | "safejson" => .safeJson
  | "string" => .text
  | "rss" => .rss
  | "xml" => .xml
  | _ => .other

def bit : Encoding → Nat
  | .noOp => 0
  | .json => 1
  | .safeJson => 2
  | .text => 3
  | .rss => 4
  | .xml => 5
  | .other => 6

def word (e : Encoding) : Int64 :=
  Bits.withBit 0 e.bit

end Encoding

inductive BackendFlag where
  | allow
  | deny
  | mapping
  | group
  | target
  | isCollection
  deriving DecidableEq

def BackendFlag.bit : BackendFlag → Nat
  | .allow => 7
  | .deny => 8
  | .mapping => 9
  | .group => 10
  | .target => 11
  | .isCollection => 12

inductive Wildcard where
  | path
  | queryStrings
  | headers
  | catchAll
  deriving DecidableEq

def Wildcard.bit : Wildcard → Nat
  | .path => 0
  | .queryStrings => 1
  | .headers => 2
  | .catchAll => 3

inductive EndpointFlag where
  | encoding
  | queryStrings
  | headers
  | timeout
  | wildcards
  | writingCalls
  deriving DecidableEq

def EndpointFlag.index : EndpointFlag → Nat
  | .encoding => 0
  | .queryStrings => 1
  | .headers => 2
  | .timeout => 3
  | .wildcards => 4
  | .writingCalls => 5

inductive RouterFlag where
  | errorBody
  | healthDisabled
  | accessLogDisabled
  | healthPath
  | returnErrorMessage
  | trailingSlashRedirectDisabled
  | fixedPathRedirectDisabled
  | extraSlashRemoved
  | methodNotAllowedDisabled
  | pathDecodingDisabled
  | autoOptions
  | forwardedByClientIp
  | remoteIpHeaders
  | trustedProxies
  | appEngine
  | multipartMemory
  | loggerSkipPaths
  | versionHidden
  | clearTextHttp2
  deriving DecidableEq

def RouterFlag.bit : RouterFlag → Nat
  | .errorBody => 0
  | .healthDisabled => 1
  | .accessLogDisabled => 2
  | .healthPath => 3
  | .returnErrorMessage => 4
  | .trailingSlashRedirectDisabled => 5
  | .fixedPathRedirectDisabled => 6
  | .extraSlashRemoved => 7
  | .methodNotAllowedDisabled => 8
  | .pathDecodingDisabled => 9
  | .autoOptions => 10
  | .forwardedByClientIp => 11
  | .remoteIpHeaders => 12
  | .trustedProxies => 13
  | .appEngine => 14
  | .multipartMemory => 15
  | .loggerSkipPaths => 16
  | .versionHidden => 17
  | .clearTextHttp2 => 18

inductive ProxyFlag where
  | sequential
  | flatmapFilter
  | shadow
  | combiner
  | static
  deriving DecidableEq

def ProxyFlag.bit : ProxyFlag → Nat
  | .sequential => 0
  | .flatmapFilter => 1
  | .shadow => 2
  | .combiner => 3
  | .static => 4

inductive HttpClientFlag where
  | present
  | insecureConnections
  | clientCertificates
  deriving DecidableEq

def HttpClientFlag.bit : HttpClientFlag → Nat
  | .present => 0
  | .insecureConnections => 1
  | .clientCertificates => 2

inductive CacheFlag where
  | shared
  | maxItems
  | maxSize
  deriving DecidableEq

def CacheFlag.bit : CacheFlag → Nat
  | .shared => 0
  | .maxItems => 1
  | .maxSize => 2

inductive RateLimitFlag where
  | maxRate
  | clientMaxRate
  | byIp
  | byHeader
  deriving DecidableEq

def RateLimitFlag.bit : RateLimitFlag → Nat
  | .maxRate => 0
  | .clientMaxRate => 1
  | .byIp => 2
  | .byHeader => 3

inductive OpenTelemetryEntry where
  | reportingPeriod
  | sampleRate
  | otlpMetrics
  | otlpTraces
  | prometheus
  deriving DecidableEq

def OpenTelemetryEntry.index : OpenTelemetryEntry → Nat
  | .reportingPeriod => 0
  | .sampleRate => 1
  | .otlpMetrics => 2
  | .otlpTraces => 3
  | .prometheus => 4

end Gateway.Snapshot
