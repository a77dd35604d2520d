import Gateway.Namespace
import Gateway.Snapshot.Basic

namespace Gateway.Snapshot

abbrev AliasTable := List (String × String)

namespace AliasTable

def code? (table : AliasTable) (ns : String) : Option String :=
  (table.find? (·.1 == ns)).map (·.2)

def namespace? (table : AliasTable) (code : String) : Option String :=
  (table.find? (·.2 == code)).map (·.1)

-- A code keeps its namespace forever; new ones go to the end.
def standard : AliasTable := [
  (Namespace.serverPlugin, "a"),
  (Namespace.clientPlugin, "b"),
  (Namespace.modifierPlugin, "c"),
  (Namespace.proxy, "d"),
  (Namespace.router, "e"),
  (Namespace.tokenRevoker, "f"),
  (Namespace.botDetector, "g"),
  (Namespace.openCensus, "h"),
  (Namespace.routerRateLimit, "i"),
  (Namespace.proxyRateLimit, "j"),
  (Namespace.newRelic, "k"),
  (Namespace.googleAnalytics, "l"),
  (Namespace.instana, "m"),
  (Namespace.jwtValidator, "n"),
  (Namespace.jwtSigner, "o"),
  (Namespace.apiKeys, "p"),
  (Namespace.httpSecurity, "q"),
  (Namespace.logging, "r"),
  (Namespace.gelf, "s"),
  (Namespace.logstash, "t"),
  (Namespace.grpcBackend, "u"),
  (Namespace.basicAuth, "v"),
  (Namespace.virtualHost, "w"),
  (Namespace.serverStaticFiles, "x"),
  (Namespace.backendStaticFiles, "y"),
  (Namespace.httpClient, "z"),
  (Namespace.moesif, "0"),
  (Namespace.openTelemetry, "1"),
  (Namespace.grpcServer, "2"),
  (Namespace.responseBodyGenerator, "3"),
  (Namespace.responseSchema, "4"),
  (Namespace.webSocket, "5"),
  (Namespace.responseHeaders, "6"),
  (Namespace.luaProxy, "7"),
  (Namespace.luaBackend, "8"),
  (Namespace.luaEndpoint, "9"),
  (Namespace.httpCache, "10"),
  (Namespace.languageModel, "11"),
  (Namespace.modelContext, "12")]

end AliasTable

def putRenamed (rename : String → Option String) (m : Components) (e : String × List Int64) :
    Components :=
  match rename e.1 with
  | some k => m.insert k e.2
  | none => m

def putKept (rename : String → Option String) (taken m : Components)
    (e : String × List Int64) : Components :=
  match rename e.1 with
  | some _ => m
  | none => if taken.contains e.1 then m else m.insert e.1 e.2

def rekey (rename : String → Option String) (components : Components) : Components :=
  let renamed := components.entries.foldl (putRenamed rename) KeyMap.empty
  components.entries.foldl (putKept rename renamed) renamed

def shortenWith (table : AliasTable) : Components → Components :=
  rekey table.code?

def expandWith (table : AliasTable) : Components → Components :=
  rekey table.namespace?

def shorten : Components → Components :=
  shortenWith AliasTable.standard

def expand : Components → Components :=
  expandWith AliasTable.standard

end Gateway.Snapshot
