import Gateway.Config.Defaults
import Gateway.Extension.Summary
import Gateway.Snapshot.Flag
import Gateway.Text.Basic

namespace Gateway

open Snapshot

namespace Config

def catchAllPath : String :=
  "/__catchall"

def timeoutMilliseconds (timeout : Option String) : Int64 :=
  (timeout.bind Duration.milliseconds?).getD 0

def Tls.conditions (t : Tls) : List (Bool × ServiceFlag) := [
  (true, .hasTls),
  (!t.disabled, .tlsEnabled),
  (t.clientsVerified, .clientsVerified),
  (t.systemPoolDisabled, .systemPoolDisabled),
  (!t.certificateAuthorities.isEmpty, .certificateAuthorities),
  (t.publicKey ≠ "" || t.privateKey ≠ "", .rawKeyFiles)]

def allowsInsecureConnections (c : Config) : Bool :=
  c.insecureConnections || c.clientTls.any (·.insecureConnections)

def conditions (c : Config) : List (Bool × ServiceFlag) := [
  (c.pluginLoader.isSome, .plugin),
  (c.sequentialStart, .sequentialStart),
  (c.debugEndpoint, .debugEndpoint),
  (c.allowsInsecureConnections, .insecureConnections),
  (c.restDisabled, .restDisabled),
  (c.echoEndpoint, .echoEndpoint),
  (c.clearTextHttp2, .clearTextHttp2)] ++
  (c.tls.map Tls.conditions).getD []

def serviceFlags (c : Config) : Int64 :=
  Bits.ofConditions (c.conditions.map fun (holds, flag) => (holds, flag.bit))

def Backend.conditions (b : Backend) : List (Bool × BackendFlag) := [
  (!b.allow.isEmpty, .allow),
  (!b.deny.isEmpty, .deny),
  (!b.mapping.isEmpty, .mapping),
  (b.group ≠ "", .group),
  (b.target ≠ "", .target),
  (b.isCollection, .isCollection)]

def Backend.shape (b : Backend) : Int64 :=
  Bits.ofConditions ((true, (Encoding.ofName b.encoding).bit) ::
    b.conditions.map fun (holds, flag) => (holds, flag.bit))

def Backend.snapshot (b : Backend) : Snapshot.Backend where
  flags := [b.shape]
  components := Extension.components b.extensions

def Agent.snapshot (a : Agent) : Snapshot.Agent where
  flags := [
    (Encoding.ofName a.encoding).word,
    a.consumer.workers,
    a.connection.maxRetries,
    timeoutMilliseconds a.consumer.timeout]
  backends := a.backends.map (·.snapshot)
  components := Extension.components a.extensions

def safeMethods : List String :=
  ["GET", "HEAD"]

def Backend.isUnsafe (b : Backend) : Bool :=
  let method := orElse (Text.trim b.method) defaultMethod
  !(safeMethods.any (Text.sameLetters method)) || b.extensions.contains Namespace.grpcBackend

def Endpoint.wildcards (e : Endpoint) : Int64 :=
  Bits.ofConditions [
    (e.path.toList.getLast? == some '*', Wildcard.path.bit),
    (e.queryStrings.contains "*", Wildcard.queryStrings.bit),
    (e.headers.contains "*", Wildcard.headers.bit),
    (e.path == catchAllPath, Wildcard.catchAll.bit)]

def Endpoint.snapshot (e : Endpoint) : Snapshot.Endpoint where
  flags := [
    (Encoding.ofName (e.outputEncoding.getD defaultEncoding)).word,
    Int64.ofNat e.queryStrings.length,
    Int64.ofNat e.headers.length,
    timeoutMilliseconds e.timeout,
    e.wildcards,
    Int64.ofNat (e.backends.countP (·.isUnsafe))]
  backends := e.backends.map (·.snapshot)
  components := Extension.components e.extensions

def snapshot (c : Config) : Snapshot where
  flags := [c.serviceFlags]
  agents := c.agents.map (·.snapshot)
  endpoints := c.endpoints.map (·.snapshot)
  components := Extension.components c.extensions

end Config

end Gateway
