import PageFlow.Http.Client

/-! A server with canned responses: it gives them in order, one to each request, and notes what it
got. It speaks in the clear only; at any other place, or while the network is down, nobody
answers. -/
namespace PageFlow
namespace Scripted

structure Canned where
  status : Nat
  headers : List (String × Bytes)
  body : Bytes
  hang : Bool
  drop : Bool
  /-- bytes announced that do not come -/
  missing : Nat
deriving Inhabited

/-- What the server answers when its responses have run out. -/
def Canned.last : Canned := ⟨200, [], Text.encode "\x7b\x7d", false, false, 0⟩

/-- The second at which the server answers: the start of 2026. -/
def presentSecond : Int := Moment.dayNumber 2026 1 1 * 86400

structure Server where
  place : String
  isUp : Bool
  responses : List Canned
  received : List Http.Sent
deriving Inhabited

def Canned.received (c : Canned) : Http.Received where
  status := c.status
  headers := (c.headers.map fun h => (h.1.toLower, h.2)) ++
    [("content-length", Text.encode (toString (c.body.length + c.missing))),
      ("connection", Text.encode "close")]
  body := c.body
  complete := c.missing = 0

/-- A request as a server reads it: without the blanks around values, and without the name of the
server itself. -/
def readByServer (r : Http.Sent) : Http.Sent :=
  let isGap (c : Char) : Bool := c = ' ' || c = '\t'
  let bare (s : String) : String :=
    String.ofList ((s.toList.dropWhile isGap).reverse.dropWhile isGap).reverse
  { r with headers := (r.headers.filter (·.1 ≠ "host")).map fun h => (h.1, bare h.2) }

def Server.answer (s : Server) (x : Http.Exchange) : Option Http.Received × Nat × Server :=
  if !s.isUp || x.encrypted || x.place ≠ s.place then (none, 0, s)
  else
    let c := s.responses.head?.getD .last
    let s := { s with received := readByServer x.request :: s.received, responses := s.responses.tail }
    if c.hang then (none, x.timeout.toNanos, s)
    else if c.drop then (none, 0, s)
    else (some c.received, 0, s)

def Server.fetch (s : Server) (c : Http.Client) (r : HttpRequest) :
    Except FlowError HttpResponse × Nat × Http.Client × Server :=
  let handle (x : Http.Exchange) (s : Nat × Server) :
      Option (Option Http.Received) × Nat × Server :=
    let (reply, taken, server) := s.2.answer x
    (some reply, s.1 + taken, server)
  match Prog.run handle (c.fetch presentSecond r) (0, s) with
  | (some (response, c), taken, s) => (response, taken, c, s)
  | (none, taken, s) => (.error (.http ""), taken, c, s)

end Scripted
end PageFlow
