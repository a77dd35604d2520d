namespace Gateway.Namespace

def serverPlugin : String := "plugin/http-server"
def clientPlugin : String := "plugin/http-client"
def modifierPlugin : String := "plugin/req-resp-modifier"
def proxy : String := "proxy"
def router : String := "router"
def tokenRevoker : String := "auth/revoker"
def botDetector : String := "security/bot-detector"
def openCensus : String := "telemetry/opencensus"
def routerRateLimit : String := "qos/ratelimit/router"
def proxyRateLimit : String := "qos/ratelimit/proxy"
def serviceRateLimit : String := "qos/ratelimit/service"
def newRelic : String := "telemetry/newrelic"
def googleAnalytics : String := "telemetry/ganalytics"
def instana : String := "telemetry/instana"
def jwtValidator : String := "auth/validator"
def jwtSigner : String := "auth/signer"
def apiKeys : String := "auth/api-keys"
def httpSecurity : String := "security/http"
def cors : String := "security/cors"
def logging : String := "telemetry/logging"
def gelf : String := "telemetry/gelf"
def logstash : String := "telemetry/logstash"
def metrics : String := "telemetry/metrics"
def moesif : String := "telemetry/moesif"
def openTelemetry : String := "telemetry/opentelemetry"
def grpcBackend : String := "backend/grpc"
def basicAuth : String := "auth/basic"
def virtualHost : String := "server/virtualhost"
def serverStaticFiles : String := "server/static-filesystem"
def backendStaticFiles : String := "backend/static-filesystem"
def httpClient : String := "backend/http/client"
def grpcServer : String := "grpc"
def responseBodyGenerator : String := "modifier/response-body-generator"
def responseBody : String := "modifier/response-body"
def responseHeaders : String := "modifier/response-headers"
def responseSchema : String := "validation/response-json-schema"
def webSocket : String := "websocket"
def luaProxy : String := "modifier/lua-proxy"
def luaBackend : String := "modifier/lua-backend"
def luaEndpoint : String := "modifier/lua-endpoint"
def httpCache : String := "qos/http-cache"
def circuitBreaker : String := "qos/circuit-breaker"
def languageModel : String := "ai/llm"
def modelContext : String := "ai/mcp"

end Gateway.Namespace
