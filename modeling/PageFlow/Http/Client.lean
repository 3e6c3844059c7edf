import PageFlow.Http.Chunked
import PageFlow.Http.Cookie
import PageFlow.Http.Message
import PageFlow.Http.Reference
import PageFlow.Text.Base64
import PageFlow.Json.Printer
import PageFlow.Config
import PageFlow.Prog

/-! A client for requests: it keeps cookies, follows redirects and may go through a proxy. An
exchange sends one request to a place and brings a response or none; why there is none does not
matter. -/
namespace PageFlow
namespace Http

/-- A request as it is sent: names of headers in lowercase. -/
structure Sent where
  verb : String
  target : String
  headers : List (String × String)
  body : Bytes
deriving Inhabited

structure Received where
  status : Nat
  headers : List (String × Bytes)
  body : Bytes
  /-- whether the body came to its end -/
  complete : Bool
deriving Inhabited

structure Exchange where
  place : String
  /-- whether the connection has to be encrypted -/
  encrypted : Bool
  request : Sent
  timeout : Duration

abbrev Traffic (α : Type) := Prog Exchange (fun _ => Option Received) α

structure Proxy where
  address : Url
  credentials : Option (String × String)
deriving Inhabited

structure Client where
  proxy : Option Proxy
  jar : Jar
deriving Inhabited

def builderError : String := "builder error"
def sendingError : String := "error sending request"
def followingError : String := "error following redirect"

/-- The address of a proxy; without a scheme it is one of the web. -/
def proxyAddress? (server : String) : Option Url :=
  let guessed := (Url.parse? ("http://" ++ server)).filter Url.hasHost
  match Url.parse server with
  | .ok u => if u.hasHost then some u else guessed
  | .error .relative => guessed
  | .error .invalid => none

def plainText? (escaped : String) : Option String := Text.decode? (Percent.decode escaped)
def plainText (escaped : String) : String := Text.decodeLossy (Percent.decode escaped)

def login? (credentials : String × String) : Option (String × String) :=
  if credentials = ("", "") then none else some credentials

def Url.credentials (u : Url) : Option (String × String) := do
  let user ← plainText? u.user
  if u.password = "" then login? (user, "")
  else match plainText? u.password with
    | some password => some (user, password)
    | none => login? (user, "")

def Url.withoutLogin (u : Url) : Url := { u with user := "", password := "" }

/-- The texts that a proxy reads: percent signs with digits stand for bytes. -/
def proxyLogin (credentials : String × String) : String × String :=
  let read (s : String) := plainText (escape Escaped.user s.toList)
  (read credentials.1, read credentials.2)

def Proxy.open (c : ProxyConfig) : Except FlowError Proxy :=
  match proxyAddress? c.server with
  | some u =>
    .ok ⟨u.withoutLogin, ((c.credentials.map proxyLogin).getD
      (plainText u.user, plainText u.password) |> login?)⟩
  | none => .error (.http builderError)

/-- Schemes of proxies. The client speaks the first two of them. -/
def proxySchemes : List String := ["http", "https", "socks4", "socks4a", "socks5", "socks5h"]

/-- A client; a proxy that is none of a known kind is left out. -/
def Client.open : Option ProxyConfig → Except FlowError Client
  | none => .ok ⟨none, []⟩
  | some c => (Proxy.open c).map fun p =>
    ⟨if proxySchemes.contains p.address.scheme then some p else none, []⟩

def isTokenChar (c : Char) : Bool := c.isAlphanum || "!#$%&'*+-.^_`|~".toList.contains c
def isHeaderName (s : String) : Bool := s ≠ "" && s.toList.all isTokenChar
def isHeaderValue (s : String) : Bool :=
  s.toList.all fun c => c = '\t' || (' ' ≤ c && c.toNat ≠ 127)

def hasHeader (name : String) (headers : List (String × String)) : Bool :=
  headers.any fun h => h.1 = name

def basic (credentials : String × String) : String :=
  "Basic " ++ String.ofList (Base64.encode (Text.encode (credentials.1 ++ ":" ++ credentials.2)))

/-- A request on its way, perhaps after redirects. -/
structure Journey where
  method : HttpMethod
  url : Url
  /-- what its request line asks a host for -/
  target : String
  /-- what its request line asks a proxy for -/
  address : String
  headers : List (String × String)
  body : Bytes
  previous : Option Url

def Url.withoutFragment (u : Url) : Url := { u with fragment := none }

/-- The length of the longest address that is asked for. -/
def longest : Nat := 65534

/-- Whether an address can be asked for: it is one of the web, is not too long, and its host
holds no quotes and braces. -/
def Url.isReachable (u : Url) : Bool :=
  (u.scheme = "http" || u.scheme = "https") && u.text.length ≤ longest &&
    (u.host.getD "").toList.all fun c => !"\"`\x7b\x7d".toList.contains c

def proxyAuthorization : String := "proxy-authorization"

/-- Headers that a client adds to those of a request. -/
def Client.ownHeaders (c : Client) (u : Url) (given : List (String × String)) :
    List (String × String) :=
  let accept := if hasHeader "accept" given then [] else [("accept", "*/*")]
  let login := if u.scheme ≠ "http" ∨ hasHeader proxyAuthorization given then none
    else c.proxy.bind Proxy.credentials
  accept ++ login.toList.map fun l => (proxyAuthorization, basic l)

/-- The request of a caller, or what is wrong with it: a text without an address, an address that
cannot be asked for, or a header that is no good. -/
def Journey.start (c : Client) (r : HttpRequest) : Except String Journey :=
  let refusal (u : Url) := builderError ++ " for url (" ++ u.text ++ ")"
  match Url.parse? r.url with
  | none => .error builderError
  | some u =>
    if !u.hasHost then .error (refusal u)
    else if r.headers.any fun h => !isHeaderName h.1 || !isHeaderValue h.2 then
      .error builderError
    else
      let login := u.credentials
      let url := (if login.isSome then u.withoutLogin else u).addQuery r.query
      let given := login.toList.map (fun l => ("authorization", basic l)) ++
        r.headers.map fun h => (h.1.toLower, h.2)
      let (kind, body) := match r.body with
        | none => ([], [])
        | some (.str s) => ([], Text.encode s)
        | some j => ([("content-type", "application/json")], Text.encode j.compact)
      let given := given ++ if hasHeader "content-type" given then [] else kind
      if url.isReachable then
        .ok ⟨r.method, url, url.target, url.withoutFragment.text,
          given ++ c.ownHeaders url given, body, none⟩
      else .error (refusal url)

def serviceOf (u : Url) : Nat := u.service.getD ((webSchemes.lookup u.scheme).getD 0)
def placeOf (u : Url) : String := u.host.getD "" ++ ":" ++ toString (serviceOf u)

def payloadHeaders : List String :=
  ["content-type", "content-length", "content-encoding", "transfer-encoding"]

def secretHeaders : List String :=
  ["authorization", "cookie", "cookie2", proxyAuthorization, "www-authenticate"]

def without (names : List String) (headers : List (String × String)) : List (String × String) :=
  headers.filter fun h => !names.contains h.1

def referer? (previous next : Url) : Option String :=
  if previous.scheme = "https" ∧ next.scheme = "http" then none
  else some previous.withoutLogin.withoutFragment.text

/-- Headers of a request at the place where it is now. -/
def Journey.placedHeaders (j : Journey) : List (String × String) :=
  match j.previous with
  | none => j.headers
  | some previous =>
    let headers := if placeOf previous = placeOf j.url then j.headers
      else without secretHeaders j.headers
    match referer? previous j.url with
    | some v => without ["referer"] headers ++ [("referer", v)]
    | none => headers

namespace Client

def sent (c : Client) (now : Int) (j : Journey) : Sent :=
  let headers := j.placedHeaders
  let cookies := if hasHeader "cookie" headers then []
    else (c.jar.header? now j.url).toList.map fun v => ("cookie", v)
  let headers := if j.body.isEmpty then without ["transfer-encoding"] headers else headers
  let length := if j.body.isEmpty ∨ hasHeader "content-length" headers then []
    else [("content-length", toString j.body.length)]
  ⟨j.method.name, if c.proxy.isSome then j.address else j.target, headers ++ cookies ++ length,
    j.body⟩

/-- The request that asks a proxy for a tunnel. -/
def tunnel (p : Proxy) (u : Url) : Sent :=
  ⟨"CONNECT", placeOf u, p.credentials.toList.map fun l => (proxyAuthorization, basic l), []⟩

/-- Sends a request: to its host, to a proxy, or through the tunnel that a proxy opens. -/
def exchange (c : Client) (now : Int) (j : Journey) (timeout : Duration) :
    Traffic (Option Received) := do
  let encrypted := j.url.scheme = "https"
  let request := c.sent now j
  match c.proxy with
  | none => Prog.call ⟨placeOf j.url, encrypted, request, timeout⟩
  | some p =>
    let place := placeOf p.address
    let behind := p.address.scheme = "https"
    if p.address.scheme ≠ "http" ∧ !behind then pure none
    else if encrypted then
      match ← Prog.call ⟨place, behind, tunnel p j.url, timeout⟩ with
      | some reply =>
        if reply.status = 200 then
          Prog.call ⟨place, true, { request with target := j.target }, timeout⟩
        else pure none
      | none => pure none
    else Prog.call ⟨place, behind, request, timeout⟩

def take (c : Client) (now : Int) (u : Url) (r : Received) : Client :=
  let lines := (r.headers.filter fun h => h.1 = "set-cookie").filterMap fun h => Text.decode? h.2
  { c with jar := lines.foldl (fun jar line => jar.set now u line) c.jar }

end Client

def trimValue (b : Bytes) : Bytes :=
  let isGap (x : UInt8) : Bool := x = 32 || x = 9
  ((b.dropWhile isGap).reverse.dropWhile isGap).reverse

def Received.values (r : Received) (name : String) : List Bytes :=
  (r.headers.filter fun h => h.1 = name).map fun h => trimValue h.2

/-- Whether a response can be read: its status has three digits and ends the exchange, its headers
are well formed, and it has one length unless its body is coded. -/
def Received.isReadable (r : Received) : Bool :=
  let lengths := if (r.values "transfer-encoding").isEmpty then r.values "content-length" else []
  100 < r.status && r.status < 1000 && (r.status = 101 || 200 ≤ r.status) &&
    r.headers.length ≤ 100 && lengths.all (fun l => some l = lengths.head?) &&
    r.headers.all fun h =>
      isHeaderName h.1 && h.2.all fun b => b = 9 || (32 ≤ b && b ≠ 127)

/-- What a response makes of a request. -/
inductive Turn where
  | stay
  /-- the text of what is wrong, and an address if it is not the first one -/
  | lost (what : String) (at_ : Option Url)
  | on (url : Url) (target address : String)

def redirectTo? (j : Journey) (r : Received) : Option Reference := do
  if [301, 302, 303, 307, 308].contains r.status then
    let line ← r.headers.find? fun h => h.1 = "location"
    let next ← Reference.read? (← Text.decode? (trimValue line.2))
    let base ← Reference.read? j.address
    let next := base.resolve next
    if next.isBarePlace ∨ (next.place?.isSome ∧ next.text.length ≤ longest) then some next
    else none
  else none

/-- Where a request goes on; `left` says whether it may. -/
def Journey.turn (j : Journey) (r : Received) (left : Bool) : Turn :=
  match redirectTo? j r with
  | none => .stay
  | some next =>
    let address := if next.isBarePlace then (next.scheme.getD "") ++ ":" ++ next.path
      else next.text
    match Url.parse? address with
    | none => .lost builderError none
    | some u =>
      if !left then .lost followingError (some j.url.withoutFragment)
      else if u.scheme ≠ "http" ∧ u.scheme ≠ "https" then .lost builderError (some u)
      else if next.isBarePlace then .lost sendingError none
      else .on u next.target address

/-- Whether a redirect turns a request into a mere look. -/
def losesBody (j : Journey) (status : Nat) : Bool :=
  status = 303 || ((status = 301 || status = 302) && j.method = .post)

def Journey.follow (j : Journey) (status : Nat) (next : Url) (target address : String) : Journey :=
  let bare := losesBody j status
  ⟨if bare then .get else j.method, next, target, address,
    if bare then without payloadHeaders j.headers else j.headers, if bare then [] else j.body,
    some j.url⟩

/-- The body of a response, if it came to its end: a coded one in chunks, or up to the end of the
connection. -/
def Received.body? (r : Received) : Option Bytes :=
  if r.status = 101 ∨ r.status = 204 ∨ r.status = 304 then some []
  else match (r.values "transfer-encoding").getLast? with
    | some codings =>
      let parts := Text.splitOn (· = ',') (Text.decodeLossy codings).toList
      let last := Text.trim (parts.getLast?.getD [])
      if last.map Char.toLower = "chunked".toList then Chunked.decode? r.body else some r.body
    | none => if r.complete then some r.body else none

def responseOf (u : Url) (r : Received) : Except FlowError HttpResponse :=
  match r.body? with
  | some body =>
    .ok ⟨r.status, u.withoutFragment.text,
      r.headers.map fun h => (h.1, Text.decodeLossy (trimValue h.2)), body⟩
  | none => .error (.http "error decoding response body")

def sendError (r : HttpRequest) (u : Url) (what : String) : FlowError :=
  .http (r.title ++ ": " ++ what ++ " for url (" ++ u.text ++ ")")

def redirectLimit : Nat := 10

/-- Sends a request, and those that it is redirected to; `first` is where it started. -/
def travel (r : HttpRequest) (now : Int) (first : Url) :
    Nat → Client → Journey → Traffic (Except FlowError HttpResponse × Client)
  | left, c, j => do
    match (← c.exchange now j r.timeout).filter Received.isReadable with
    | none => pure (.error (sendError r first sendingError), c)
    | some reply => do
      let c := c.take now j.url reply
      match j.turn reply (left ≠ 0), left with
      | .on next target address, left + 1 =>
        travel r now first left c (j.follow reply.status next target address)
      | .lost what at_, _ => pure (.error (sendError r (at_.getD first) what), c)
      | _, _ => pure (responseOf j.url reply, c)

/-- The response to a request sent at some second, and the client after it. -/
def Client.fetch (c : Client) (now : Int) (r : HttpRequest) :
    Traffic (Except FlowError HttpResponse × Client) :=
  match Journey.start c r with
  | .error what => pure (.error (.http (r.title ++ ": " ++ what)), c)
  | .ok j => travel r now j.url redirectLimit c j

end Http
end PageFlow
