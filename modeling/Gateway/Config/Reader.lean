import Gateway.Config.Basic
import Gateway.Datum.Value

namespace Gateway.Config

open Datum

def PluginLoader.layout : Layout PluginLoader where
  start := {}
  fields := [
    .of "folder" readString fun x s => { s with folder := x },
    .of "pattern" readString fun x s => { s with pattern := x }]

def KeyPair.layout : Layout KeyPair where
  start := {}
  fields := [
    .of "public_key" readString fun x s => { s with publicKey := x },
    .of "private_key" readString fun x s => { s with privateKey := x }]

def Tls.layout : Layout Tls where
  start := {}
  fields := [
    .of "disabled" readBool fun x s => { s with disabled := x },
    .of "public_key" readString fun x s => { s with publicKey := x },
    .of "private_key" readString fun x s => { s with privateKey := x },
    .of "keys" (readList KeyPair.layout.read) fun x s => { s with keys := x },
    .of "enable_mtls" readBool fun x s => { s with clientsVerified := x },
    .of "disable_system_ca_pool" readBool fun x s => { s with systemPoolDisabled := x },
    .of "ca_certs" (readList readString) fun x s => { s with certificateAuthorities := x },
    .of "min_version" (readOption readString) fun x s => { s with minVersion := x },
    .of "max_version" (readOption readString) fun x s => { s with maxVersion := x }]

def ClientTls.layout : Layout ClientTls where
  start := {}
  fields := [
    .of "allow_insecure_connections" readBool fun x s => { s with insecureConnections := x },
    .of "disable_system_ca_pool" readBool fun x s => { s with systemPoolDisabled := x },
    .of "ca_certs" (readList readString) fun x s => { s with certificateAuthorities := x },
    .of "client_certs" (readList KeyPair.layout.read) fun x s =>
      { s with clientCertificates := x }]

def Backend.layout : Layout Backend where
  start := {}
  fields := [
    .of "url_pattern" readString fun x s => { s with urlPattern := x },
    .of "host" (readList readString) fun x s => { s with hosts := x },
    .of "method" readString fun x s => { s with method := x },
    .of "encoding" readString fun x s => { s with encoding := x },
    .of "group" readString fun x s => { s with group := x },
    .of "target" readString fun x s => { s with target := x },
    .of "is_collection" readBool fun x s => { s with isCollection := x },
    .of "allow" (readList readString) fun x s => { s with allow := x },
    .of "deny" (readList readString) fun x s => { s with deny := x },
    .of "mapping" (readMap readString) fun x s => { s with mapping := x },
    .of "extra_config" (readMap readValue) fun x s => { s with extensions := x }]

def Endpoint.layout : Layout Endpoint where
  start := {}
  fields := [
    .of "endpoint" readString fun x s => { s with path := x },
    .of "method" readString fun x s => { s with method := x },
    .of "timeout" (readOption readString) fun x s => { s with timeout := x },
    .of "output_encoding" (readOption readString) fun x s => { s with outputEncoding := x },
    .of "input_query_strings" (readList readString) fun x s => { s with queryStrings := x },
    .of "input_headers" (readList readString) fun x s => { s with headers := x },
    .of "backend" (readList Backend.layout.read) fun x s => { s with backends := x },
    .of "extra_config" (readMap readValue) fun x s => { s with extensions := x }]

def Consumer.layout : Layout Consumer where
  start := {}
  fields := [
    .of "topic" readString fun x s => { s with topic := x },
    .of "workers" readInt64 fun x s => { s with workers := x },
    .of "timeout" (readOption readString) fun x s => { s with timeout := x },
    .of "max_rate" readDouble fun x s => { s with maxRate := x }]

def Connection.layout : Layout Connection where
  start := {}
  fields := [
    .of "max_retries" readInt64 fun x s => { s with maxRetries := x },
    .of "backoff_strategy" readString fun x s => { s with backoffStrategy := x },
    .of "health_interval" (readOption readString) fun x s => { s with healthInterval := x }]

def Agent.layout : Layout Agent where
  start := {}
  fields := [
    .of "name" readString fun x s => { s with name := x },
    .of "encoding" readString fun x s => { s with encoding := x },
    .of "consumer" Consumer.layout.read fun x s => { s with consumer := x },
    .of "connection" Connection.layout.read fun x s => { s with connection := x },
    .of "backend" (readList Backend.layout.read) fun x s => { s with backends := x },
    .of "extra_config" (readMap readValue) fun x s => { s with extensions := x }]

def layout : Layout Config where
  start := {}
  fields := [
    .of "version" readUInt32 fun x s => { s with version := x },
    .of "name" (readOption readString) fun x s => { s with name := x },
    .of "timeout" (readOption readString) fun x s => { s with timeout := x },
    .of "output_encoding" (readOption readString) fun x s => { s with outputEncoding := x },
    .of "sequential_start" readBool fun x s => { s with sequentialStart := x },
    .of "debug_endpoint" readBool fun x s => { s with debugEndpoint := x },
    .of "echo_endpoint" readBool fun x s => { s with echoEndpoint := x },
    .of "allow_insecure_connections" readBool fun x s => { s with insecureConnections := x },
    .of "disable_rest" readBool fun x s => { s with restDisabled := x },
    .of "use_h2c" readBool fun x s => { s with clearTextHttp2 := x },
    .of "plugin" (readOption PluginLoader.layout.read) fun x s => { s with pluginLoader := x },
    .of "tls" (readOption Tls.layout.read) fun x s => { s with tls := x },
    .of "client_tls" (readOption ClientTls.layout.read) fun x s => { s with clientTls := x },
    .of "endpoints" (readList Endpoint.layout.read) fun x s => { s with endpoints := x },
    .of "async_agent" (readList Agent.layout.read) fun x s => { s with agents := x },
    .of "extra_config" (readMap readValue) fun x s => { s with extensions := x }]

def read : Reader Config :=
  layout.read

end Gateway.Config
