import PageFlow.Engine.Context
import PageFlow.Engine.Repeat
import PageFlow.Json.Complaint
import PageFlow.Json.Printer

/-! Requests through the session's own context. A status outside 200 to 299 is a failure and is
repeated like a lost connection. -/
namespace PageFlow
namespace Actions

open Engine

/-- One request; only a successful response is one. -/
def fetchOnce (api : ApiContext) (request : HttpRequest) : Attempt HttpResponse := do
  let response ← fetch api request
  if response.isSuccess then pure response
  else throw (.http (request.title ++ " returned status " ++ toString response.status))

def fetchWithRetry (api : ApiContext) (request : HttpRequest) (policy : RetryPolicy) :
    Attempt HttpResponse :=
  withRetryNamed request.title policy fun _ => fetchOnce api request

/-- A query value: texts as they are, all else as compact JSON. -/
def queryValue : Json → String
  | .str s => s
  | other => other.compact

def requestOf (config : EngineConfig) (method : HttpMethod) (p : HttpParams) : HttpRequest where
  method := method
  url := p.url
  headers := p.options.headers
  query := p.options.params.map fun q => (q.1, queryValue q.2)
  body := match method with
    | .post => p.options.data
    | .get => none
  timeout := (p.options.timeout.map Duration.ofSeconds).getD config.httpTimeout

def responseValue (request : HttpRequest) (returnJson : Bool) (response : HttpResponse) :
    Except FlowError Json :=
  if returnJson then
    match Json.parseBytes? response.body with
    | some j => .ok j
    | none => .error (.http
        (request.title ++ " did not return JSON: " ++ Json.complaint response.body))
  else .ok response.toJson

def httpRequest (method : HttpMethod) : Executor := fun c => do
  let p ← c.params HttpParams.read
  let request := requestOf c.config method p
  let standard := c.config.httpRetry
  let policy := standard.withRetries (p.options.retries.getD standard.retries)
  let response ← fetchWithRetry c.session.api request policy
  let value ← ofAnswer (responseValue request p.options.returnJson response)
  pure (some (.value (.json value)))

end Actions
end PageFlow
