import PageFlow.Scripted.Server
import PageFlow.Scripted.Queues
import PageFlow.Scripted.Shell
import PageFlow.Chromium.Backend
import PageFlow.Engine.Host

/-! A browser's debugging endpoint that plays a script: the calls of a driver take their outcomes
from queues and are logged, an entry that equals the one before it only once. Its clock moves with
the waits and where an outcome says so. -/
namespace PageFlow
namespace Scripted
namespace Endpoint

open DevTools

structure Outcome where
  error : Option (Int × String)
  hang : Bool
  returned : Option Returned
  /-- milliseconds by which the clock moves after the answer -/
  jumpMs : Nat
  failure : Option String
  challenge : Bool
deriving Inhabited

def Outcome.plain : Outcome := ⟨none, false, none, 0, none, false⟩

structure Node where
  text : Json
  attributes : List (String × Json)
  rows : Json
deriving Inhabited

structure Script where
  elements : List (String × Node)
  /-- which elements a lookup finds -/
  dom : List (String × List String)
  queues : Queues Outcome
  refuse : Bool
deriving Inhabited

structure World where
  now : Instant
  script : Script
  executable : String
  /-- newest first -/
  log : List (List Json)
  /-- whether each browser is connected, newest first -/
  browsers : List Bool
  /-- the browser of each page and whether the page counts as closed, newest first -/
  pages : List (Nat × Bool)
  clients : List Http.Client
  server : Server
  switches : List String
  count : Nat
  host : Host
deriving Inhabited

abbrev Play := StateM World

def World.addLog (w : World) (entry : List Json) : World :=
  if w.log.head?.any fun e => e == entry then w else { w with log := entry :: w.log }

/-- Logs a key, together with the keys before it. -/
def World.addKey (w : World) (c : Char) : World :=
  let key := Json.str (String.singleton c)
  match w.log with
  | (.str "keys" :: keys) :: rest => { w with log := (.str "keys" :: (keys ++ [key])) :: rest }
  | log => { w with log := [.str "keys", key] :: log }

def play (key : String) (ok : Outcome → τ) : Play (Option (Except Fault τ)) := do
  let w ← get
  let (o, queues) := w.script.queues.take key
  let o := o.getD .plain
  set { w with script := { w.script with queues := queues }, now := w.now + o.jumpMs * 10 ^ 6 }
  if o.hang then pure none
  else pure (some (match o.error with
    | some (code, text) => .error (.refused code text)
    | none => .ok (ok o)))

def note (entry : List Json) : Play Unit := modify fun w => w.addLog entry

def ended (τ : Type) (v : τ) : Play (Option (Except Fault τ)) := pure (some (.ok v))

def evaluateKey (expression : String) : String :=
  if expression.startsWith "[document.readyState" then "probe"
  else if (expression.splitOn "removeAttribute").length ≠ 1 then "cleanup"
  else "evaluate"

def evaluateDefault (expression : String) : Returned :=
  if evaluateKey expression = "probe" then .value (.arr [.str "complete", .int 0]) else .undefined

def nodeOf (w : World) (name : String) : Node :=
  (w.script.elements.lookup name).getD ⟨.null, [], .null⟩

/-- The queue of a function called on an element, and what it returns. -/
def callDefault (n : Node) (function : String) : String × Returned :=
  if function = Chromium.isVisibleFunction then ("isVisible", .value (.bool true))
  else if function = Chromium.isEditableFunction then ("isEditable", .value (.bool true))
  else if function = Chromium.rowsFunction then ("rows", .value (.str n.rows.compact))
  else if function = Chromium.scrollFunction then ("scroll", .undefined)
  else if function = Chromium.clearFunction then ("clear", .undefined)
  else if function = Chromium.changedFunction then ("changed", .undefined)
  else ("mark", .value (.int 0))

def returned (key : String) (standard : Returned) : Play (Option (Except Fault Returned)) :=
  play key fun o => o.returned.getD standard

/-- Digits of a token are not shown. -/
def isHexDigit (c : Char) : Bool := c.isDigit || ('a' ≤ c && c ≤ 'f')

/-- A text with a word in place of each 32 hexadecimal digits. -/
def hideTokens : Nat → List Char → List Char
  | 0, cs => cs
  | _, [] => []
  | n + 1, c :: rest =>
    let front := (c :: rest).take 32
    if front.length = 32 && front.all isHexDigit then
      "TOKEN".toList ++ hideTokens n ((c :: rest).drop 32)
    else c :: hideTokens n rest

def readable (s : String) : String := String.ofList (hideTokens (s.length + 1) s.toList)

def finds (key : String) (o : World) : List String := listed key o.script.dom

def coordinates : Json → List Float
  | .arr items => items.map fun j => match j with
    | .int n => Float.ofInt n
    | .float x => x
    | _ => 0.0
  | _ => []

/-- The box of an element that says nothing else. -/
def standardQuad : List Float := [10.0, 10.0, 110.0, 10.0, 110.0, 30.0, 10.0, 30.0]

def quadsOf : Option Returned → List (List Float)
  | some (.value (.arr quads)) => quads.map coordinates
  | _ => [standardQuad]

def pictureOf : Option Returned → Bytes
  | some (.value (.str s)) => (Hex.decode? s.toList).getD []
  | _ => [0x89, 0x50, 0x4e, 0x47]

def addPage (b : Browser) : Play Page := do
  let w ← get
  set { w with pages := (b.number, false) :: w.pages }
  pure ⟨w.pages.length + 1⟩

def serve (t : Target) : (c : Call) → Play (Option (Except Fault (Returns c)))
  | .createTarget url => do
    note [.str "createTarget", .str url]
    match ← play "createTarget" fun _ => () with
    | none => pure none
    | some (.error f) => pure (some (.error f))
    | some (.ok ()) => do
      let p ← addPage (match t with
        | .browser b => b
        | .page _ => ⟨0⟩)
      pure (some (.ok p))
  | .viewport width height => do
    note [.str "viewport", .ofNat width, .ofNat height]
    ended Unit ()
  | .enableFetch => do
    note [.str "fetchEnable", .bool true]
    play "fetchEnable" fun _ => ()
  | .navigate url => do
    note [.str "navigate", .str url]
    play "navigate" fun o => ⟨o.failure, if o.challenge then some "R1" else none⟩
  | .continueRequest request => do
    note [.str "continueRequest", .str request]
    play "continueRequest" fun _ => ()
  | .continueWithAuth request user password => do
    note [.str "continueWithAuth", .str request, .str user, .str password]
    play "continueWithAuth" fun _ => ()
  | .reload => do
    note [.str "reload"]
    play "reload" fun _ => ()
  | .evaluate expression => do
    note [.str "evaluate", .str (readable expression), .bool true, .bool true]
    returned (evaluateKey expression) (evaluateDefault expression)
  | .document => play "document" fun _ => ()
  | .find root selector => do
    let selector := readable selector
    let key := match root with
      | some node => node ++ ">" ++ selector
      | none => selector
    note [.str "find", .str (root.getD ""), .str selector]
    let w ← get
    play ("find:" ++ key) fun _ => finds key w
  | .findXpath query => do
    note [.str "findXpath", .str query]
    let w ← get
    play ("find:xpath:" ++ query) fun _ => finds ("xpath:" ++ query) w
  | .innerText node => do
    note [.str "innerText", .str node]
    let w ← get
    returned ("innerText:" ++ node) (.value (nodeOf w node).text)
  | .getAttribute node name => do
    note [.str "getAttribute", .str node, .str name]
    let w ← get
    returned ("getAttribute:" ++ node)
      (.value (((nodeOf w node).attributes.lookup name).getD .null))
  | .callOn node function => do
    note [.str "call", .str node, .str (readable function), .bool true]
    let w ← get
    let (kind, standard) := callDefault (nodeOf w node) function
    returned (kind ++ ":" ++ node) standard
  | .reveal node => do
    note [.str "reveal", .str node]
    returned ("reveal:" ++ node) (.value (.bool false))
  | .quads node => play ("quads:" ++ node) fun o => quadsOf o.returned
  | .mouse event x y => do
    if event = .press then note [.str "mouse", .float x, .float y]
    play "mouse" fun _ => ()
  | .key c => do
    modify fun w => w.addKey c
    play "keys" fun _ => ()
  | .contentSize => ended (Nat × Nat) (640, 480)
  | .screenshot => do
    note [.str "screenshot", .str "png"]
    play "screenshot" fun o => pictureOf o.returned
  | .closeTarget => do
    note [.str "closePage"]
    play "closePage" fun _ => ()
  | .closeBrowser => do
    note [.str "closeBrowser"]
    ended Unit ()

def World.isConnected (w : World) (b : Nat) : Bool :=
  w.browsers[w.browsers.length - b]?.getD false

def World.pageAt (w : World) (p : Page) : Nat × Bool :=
  (w.pages[w.pages.length - p.number]?).getD (0, false)

def World.browserOf (w : World) : Target → Nat
  | .browser b => b.number
  | .page p => (w.pageAt p).1

def send (t : Target) (c : Call) : Play (Option (Except Fault (Returns c))) := do
  let w ← get
  if w.isConnected (w.browserOf t) then serve t c else pure (some (.error .gone))

def unreachableText : String := "IO error: Network is unreachable (os error 101)"
def refusedText : String := "IO error: Connection refused (os error 111)"

def start (executable : Option String) (switches : List String) : Play (Except String Browser) := do
  let w ← get
  if executable.getD w.executable ≠ w.executable then pure (.error noSuchFile)
  else do
    set { w with switches := switches }
    if !w.server.isUp then pure (.error unreachableText)
    else if w.script.refuse then pure (.error refusedText)
    else do
      set { w with switches := switches, browsers := true :: w.browsers }
      pure (.ok ⟨w.browsers.length + 1⟩)

def fetch (a : ApiContext) (r : HttpRequest) : Play (Except FlowError HttpResponse) := do
  let w ← get
  let place := w.clients.length - a.number
  let (response, taken, client, server) :=
    w.server.fetch ((w.clients[place]?).getD ⟨none, []⟩) r
  set { w with now := w.now + taken, clients := w.clients.set place client, server := server }
  pure response

/-- What the first moment of the clock is called. -/
def epochMillis : Nat := 1700000000000

def ofHost (op : Engine.Op) : Play (Option (Engine.Reply op)) :=
  match Host.answer? op with
  | some f => do
    let w ← get
    let (r, h) := f w.host
    set { w with host := h }
    pure (some r)
  | none => pure none

def scratchFile (scratch : Nat) : String := "/scratch/" ++ toString scratch ++ "/source.pdf"

def extract (command : PdfCommand) (scratch : Nat) (selection : Json) : Play ProcessEnd := do
  let w ← get
  let file (name : String) : Option String :=
    if name = scratchFile scratch then some (Text.decodeLossy (w.host.content scratch)) else none
  pure (if isAbsent command.program then .notStarted noSuchFile
    else Shell.call file command.program
      (command.args ++ [scratchFile scratch, selection.compact]) command.timeout)

def ofEngine : (op : Engine.Op) → Play (Option (Engine.Reply op))
  | .fetch a r => do
    let response ← fetch a r
    pure (some response)
  | .date => do
    let w ← get
    pure (some (.ofMillis (epochMillis + w.now / 10 ^ 6)))
  | .runExtractor command scratch selection => do
    let r ← extract command scratch selection
    pure (some r)
  | op => ofHost op

def answer : (op : Chromium.Op) → Play (Option (Chromium.Reply op))
  | .start executable switches => do
    let r ← start executable switches
    pure (some r)
  | .send t c => do
    let r ← send t c
    pure (some r)
  | .listen p _ => do
    let w ← get
    pure (some (if w.isConnected (w.browserOf (.page p)) then .ok () else .error .gone))
  | .isConnected b => do
    let w ← get
    pure (some (w.isConnected b.number))
  | .disconnect b => do
    modify fun w => { w with browsers := w.browsers.set (w.browsers.length - b.number) false }
    pure (some ())
  | .isClosed p => do
    let w ← get
    pure (some (w.pageAt p).2)
  | .markClosed p => do
    let w ← get
    let (browser, before) := w.pageAt p
    set { w with pages := w.pages.set (w.pages.length - p.number) (browser, true) }
    pure (some before)
  | .fresh => do
    let w ← get
    set { w with count := w.count + 1 }
    pure (some (w.count + 1))
  | .now => do
    let w ← get
    pure (some w.now)
  | .sleep d => do
    modify fun w => { w with now := w.now + d.toNanos }
    pure (some ())
  | .openClient proxy => do
    match Http.Client.open proxy with
    | .error e => pure (some (.error e))
    | .ok c => do
      let w ← get
      set { w with clients := c :: w.clients }
      pure (some (.ok ⟨w.clients.length + 1⟩))
  | .host op => ofEngine op

def perform (t : Chromium.Remote τ) (w : World) : Option τ × World :=
  Prog.run (fun op w => (answer op).run w) t w

end Endpoint
end Scripted
end PageFlow
