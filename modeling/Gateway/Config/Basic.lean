import Gateway.Json.Value

namespace Gateway

abbrev Extensions := KeyMap Json.Value

namespace Config

structure PluginLoader where
  folder : String := ""
  pattern : String := ""

structure KeyPair where
  publicKey : String := ""
  privateKey : String := ""

structure Tls where
  disabled : Bool := false
  publicKey : String := ""
  privateKey : String := ""
  keys : List KeyPair := []
  clientsVerified : Bool := false
  systemPoolDisabled : Bool := false
  certificateAuthorities : List String := []
  minVersion : Option String := none
  maxVersion : Option String := none

structure ClientTls where
  insecureConnections : Bool := false
  systemPoolDisabled : Bool := false
  certificateAuthorities : List String := []
  clientCertificates : List KeyPair := []

structure Backend where
  urlPattern : String := ""
  hosts : List String := []
  method : String := ""
  encoding : String := ""
  group : String := ""
  target : String := ""
  isCollection : Bool := false
  allow : List String := []
  deny : List String := []
  mapping : KeyMap String := KeyMap.empty
  extensions : Extensions := KeyMap.empty

structure Endpoint where
  path : String := ""
  method : String := ""
  timeout : Option String := none
  outputEncoding : Option String := none
  queryStrings : List String := []
  headers : List String := []
  backends : List Backend := []
  extensions : Extensions := KeyMap.empty

structure Consumer where
  topic : String := ""
  workers : Int64 := 0
  timeout : Option String := none
  maxRate : Double := Double.ofInt 0

structure Connection where
  maxRetries : Int64 := 0
  backoffStrategy : String := ""
  healthInterval : Option String := none

structure Agent where
  name : String := ""
  encoding : String := ""
  consumer : Consumer := {}
  connection : Connection := {}
  backends : List Backend := []
  extensions : Extensions := KeyMap.empty

end Config

structure Config where
  version : UInt32 := 0
  name : Option String := none
  timeout : Option String := none
  outputEncoding : Option String := none
  sequentialStart : Bool := false
  debugEndpoint : Bool := false
  echoEndpoint : Bool := false
  insecureConnections : Bool := false
  restDisabled : Bool := false
  clearTextHttp2 : Bool := false
  pluginLoader : Option Config.PluginLoader := none
  tls : Option Config.Tls := none
  clientTls : Option Config.ClientTls := none
  endpoints : List Config.Endpoint := []
  agents : List Config.Agent := []
  extensions : Extensions := KeyMap.empty

end Gateway
