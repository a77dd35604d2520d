namespace Gateway.Snapshot

inductive ServerPlugin where
  | staticFilesystem
  | basicAuth
  | geoIp
  | redisRateLimit
  | urlRewrite
  | virtualHost
  | wildcard
  | ipFilter
  | jwkAggregator
  deriving DecidableEq

namespace ServerPlugin

def bit : ServerPlugin → Nat
  | .staticFilesystem => 1
  | .basicAuth => 2
  | .geoIp => 3
  | .redisRateLimit => 4
  | .urlRewrite => 5
  | .virtualHost => 6
  | .wildcard => 7
  | .ipFilter => 8
  | .jwkAggregator => 9

def ofName? : String → Option ServerPlugin
  | "static-filesystem" => some .staticFilesystem
  | "basic-auth" => some .basicAuth
  | "geoip" => some .geoIp
  | "redis-ratelimit" => some .redisRateLimit
  | "url-rewrite" => some .urlRewrite
  | "virtualhost" => some .virtualHost
  | "wildcard" => some .wildcard
  | "ip-filter" => some .ipFilter
  | "jwk-aggregator" => some .jwkAggregator
  | _ => none

def bitOf (name : String) : Nat :=
  ((ofName? name).map bit).getD 0

end ServerPlugin

inductive ClientPlugin where
  | noRedirect
  | httpLogger
  | staticFilesystem
  | httpProxy
  deriving DecidableEq

namespace ClientPlugin

def number : ClientPlugin → Int64
  | .noRedirect => 1
  | .httpLogger => 2
  | .staticFilesystem => 3
  | .httpProxy => 4

def ofName? : String → Option ClientPlugin
  | "no-redirect" => some .noRedirect
  | "http-logger" => some .httpLogger
  | "static-filesystem" => some .staticFilesystem
  | "http-proxy" => some .httpProxy
  | _ => none

def numberOf (name : String) : Int64 :=
  ((ofName? name).map number).getD 0

end ClientPlugin

inductive ModifierPlugin where
  | responseSchemaValidator
  | contentReplacer
  deriving DecidableEq

namespace ModifierPlugin

def bit : ModifierPlugin → Nat
  | .responseSchemaValidator => 1
  | .contentReplacer => 2

def ofName? : String → Option ModifierPlugin
  | "response-schema-validator" => some .responseSchemaValidator
  | "content-replacer" => some .contentReplacer
  | _ => none

def bitOf (name : String) : Nat :=
  ((ofName? name).map bit).getD 0

end ModifierPlugin

end Gateway.Snapshot
