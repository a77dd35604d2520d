import Gateway.Config.Basic
import Gateway.Text.Basic

namespace Gateway.Config

def defaultTimeout : String :=
  "2s"

def defaultEncoding : String :=
  "json"

def defaultMethod : String :=
  "GET"

def orElse (s inherited : String) : String :=
  if s = "" then inherited else s

def Backend.withDefaults (method : String) (b : Backend) : Backend :=
  { b with
    method := Text.upper (orElse b.method method)
    encoding := orElse b.encoding defaultEncoding }

def Endpoint.withDefaults (timeout encoding : String) (e : Endpoint) : Endpoint :=
  let method := Text.upper (orElse e.method defaultMethod)
  { e with
    timeout := some (e.timeout.getD timeout)
    outputEncoding := some (e.outputEncoding.getD encoding)
    method := method
    backends := e.backends.map (·.withDefaults method) }

def Agent.withDefaults (a : Agent) : Agent :=
  { a with
    encoding := orElse a.encoding defaultEncoding
    backends := a.backends.map fun b =>
      { b with
        method := orElse b.method defaultMethod
        encoding := orElse b.encoding defaultEncoding } }

def withDefaults (c : Config) : Config :=
  let timeout := c.timeout.getD defaultTimeout
  let encoding := c.outputEncoding.getD defaultEncoding
  { c with
    timeout := some timeout
    outputEncoding := some encoding
    endpoints := c.endpoints.map (·.withDefaults timeout encoding)
    agents := c.agents.map (·.withDefaults) }

end Gateway.Config
