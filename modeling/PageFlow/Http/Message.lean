import PageFlow.Duration
import PageFlow.Json.Value
import PageFlow.Text.Utf8

/-! Requests and responses as the engine sees them. -/
namespace PageFlow

inductive HttpMethod where
  | get | post
deriving DecidableEq, Repr, Inhabited

def HttpMethod.name : HttpMethod → String
  | .get => "GET"
  | .post => "POST"

def HttpMethod.title : HttpMethod → String
  | .get => "Get"
  | .post => "Post"

structure HttpRequest where
  method : HttpMethod
  url : String
  headers : List (String × String)
  query : List (String × String)
  body : Option Json
  timeout : Duration
deriving Inhabited

/-- A request that only asks for an address. -/
def HttpRequest.get (url : String) (timeout : Duration) : HttpRequest :=
  ⟨.get, url, [], [], none, timeout⟩

def HttpRequest.title (r : HttpRequest) : String := r.method.name ++ " " ++ r.url

structure HttpResponse where
  status : Nat
  url : String
  headers : List (String × String)
  body : Bytes
deriving Inhabited

namespace HttpResponse

def isSuccess (r : HttpResponse) : Bool := 200 ≤ r.status && r.status < 300

def text (r : HttpResponse) : String := Text.decodeLossy r.body

def headerObject (r : HttpResponse) : Json := Json.object (r.headers.map fun h => (h.1, .str h.2))

def head (r : HttpResponse) : Json :=
  .obj [("headers", r.headerObject), ("status", .ofNat r.status), ("url", .str r.url)]

def toJson (r : HttpResponse) : Json :=
  .obj [("body", .str r.text), ("headers", r.headerObject), ("status", .ofNat r.status),
    ("url", .str r.url)]

end HttpResponse
end PageFlow
