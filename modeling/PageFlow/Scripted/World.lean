import PageFlow.Scripted.Extractor
import PageFlow.Scripted.Queues
import PageFlow.Engine.Host
import PageFlow.Text.Hex

/-! A browser that plays a script. Lookups find the elements of a scripted document, every call
takes its outcome from a queue, and the clock is virtual: it stands still but for the waits. The
calls are logged; equal calls one after another share an entry. -/
namespace PageFlow
namespace Scripted

structure Outcome where
  delayMs : Nat
  /-- the newest browser is lost after the delay -/
  disconnect : Bool
  error : Option FlowError
  value : Option Json
deriving Inhabited

def Outcome.success : Outcome := ⟨0, false, none, none⟩

/-- An element of the scripted document. It is there, and visible, only for a while. -/
structure Node where
  name : String
  text : Option String
  attributes : List (String × String)
  editable : Bool
  hidden : Bool
  rows : Except FlowError (List TableRow)
  children : List (String × List Node)
  fromMs : Nat
  untilMs : Option Nat
  visibleFromMs : Nat
  visibleUntilMs : Option Nat

instance : Inhabited Node := ⟨⟨"", none, [], false, false, .ok [], [], 0, none, 0, none⟩⟩

def within (now start : Nat) (stop : Option Nat) : Bool :=
  start ≤ now && match stop with
    | some t => now < t
    | none => true

def Node.isPresent (n : Node) (now : Nat) : Bool := within now n.fromMs n.untilMs
def Node.isVisible (n : Node) (now : Nat) : Bool :=
  !n.hidden && within now n.visibleFromMs n.visibleUntilMs

structure LogEntry where
  first : Nat
  last : Nat
  count : Nat
  name : String
  args : List Json

structure World where
  now : Nat
  /-- when a running program is to be stopped -/
  deadline : Option Nat
  dom : List (String × List Node)
  queues : Queues Outcome
  /-- newest first -/
  log : List LogEntry
  /-- whether each browser launched is connected, newest first -/
  browsers : List Bool
  /-- whether each page opened is closed, newest first -/
  pages : List Bool
  apis : Nat
  /-- what each handle refers to, newest first -/
  nodes : List Node
  /-- moments at which the newest browser is lost -/
  losses : List Nat
  host : Host
  extractor : Option Extractor
deriving Inhabited

def World.ofScript (dom : List (String × List Node)) (queues : Queues Outcome)
    (extractor : Option Extractor) : World :=
  { (default : World) with
    dom := replaceAll dom [("css:body", [{ (default : Node) with name := "body" }])]
    queues := replaceAll queues []
    extractor := extractor }

/-- A play: it reads and changes the world, and may be stopped. -/
abbrev Play := OptionT (StateM World)

namespace World

def setFlag (flags : List Bool) (number : Nat) (b : Bool) : List Bool :=
  flags.set (flags.length - number) b

def flag (flags : List Bool) (number : Nat) : Bool := flags[flags.length - number]?.getD false

def loseNewest (w : World) : World :=
  { w with browsers := setFlag w.browsers w.browsers.length false }

/-- Moves the clock; what was to be lost until then is lost. -/
def moveTo (w : World) (t : Nat) : World :=
  let due := w.losses.any (· ≤ t)
  let w := { w with now := t, losses := w.losses.filter (t < ·) }
  if due then w.loseNewest else w

def addLog (w : World) (name : String) (args : List Json) : World :=
  match w.log with
  | e :: rest =>
    if e.name = name ∧ (e.args == args) = true then
      { w with log := { e with last := w.now, count := e.count + 1 } :: rest }
    else { w with log := ⟨w.now, w.now, 1, name, args⟩ :: w.log }
  | [] => { w with log := [⟨w.now, w.now, 1, name, args⟩] }

def takeOutcome (w : World) (key : String) : Outcome × World :=
  let (o, queues) := w.queues.take key
  (o.getD .success, { w with queues := queues })

def first? (w : World) (key : String) : Option Node :=
  (listed key w.dom).find? fun n => n.isPresent w.now

end World

/-- Milliseconds of the wait that is longest in effect: thirty years. -/
def farFuture : Nat := 30 * 365 * 86400 * 1000

/-- The moment when a wait ends: on a whole millisecond. -/
def wakeAt (now : Nat) (d : Duration) : Nat :=
  if d.secs < 2 ^ 63 then now + (d.toNanos + 10 ^ 6 - 1) / 10 ^ 6 else now + farFuture

/-- Waits until a moment, or up to the deadline and no further. -/
def waitUntil (t : Nat) : Play Unit := do
  let w ← get
  match w.deadline with
  | some stop =>
    if t ≤ stop ∨ t ≤ w.now then set (w.moveTo t)
    else do
      set (w.moveTo (max stop w.now))
      failure
  | none => set (w.moveTo t)

def play (key : String) : Play (Except FlowError (Option Json)) := do
  let w ← get
  let (o, w) := w.takeOutcome key
  set w
  if 0 < o.delayMs then waitUntil (w.now + o.delayMs)
  if o.disconnect then modify World.loseNewest
  match o.error with
  | some e => pure (.error e)
  | none => pure (.ok o.value)

def note (name : String) (args : List Json) : Play Unit := modify fun w => w.addLog name args

def durationJson (d : Duration) : Json := .obj [("nanos", .ofNat d.nanos), ("secs", .ofNat d.secs)]

def simple (name : String) (args : List Json) (key : String) : Play (Except FlowError Unit) := do
  note name args
  let r ← play key
  pure (r.map fun _ => ())

def pageArg (p : Page) : Json := .ofNat p.number

def nodeOf (e : Element) : Play Node := do
  let w ← get
  pure (w.nodes[w.nodes.length - e.handle]?.getD default)

/-- New handles on nodes, in order. -/
def handlesOn (page : Page) : List Node → Play (List Element)
  | [] => pure []
  | n :: rest => do
    let w ← get
    set { w with nodes := n :: w.nodes }
    let more ← handlesOn page rest
    pure (⟨page, w.nodes.length + 1, n.name, "<" ++ n.name ++ ">"⟩ :: more)

def found (page : Page) (nodes : List Node) : Play (List Element) := do
  let w ← get
  handlesOn page (nodes.filter fun n => n.isPresent w.now)

def query (root : Root) (kind : SelectorKind) (selector : String) :
    Play (Except FlowError (List Element)) := do
  let key := kind.name ++ ":" ++ selector
  match root with
  | .page p => do
    note "query" [pageArg p, .str kind.name, .str selector]
    match ← play ("query:" ++ key) with
    | .error e => pure (.error e)
    | .ok _ => do
      let w ← get
      let all ← found p (listed key w.dom)
      pure (.ok all)
  | .element e => do
    note "elementQuery" [.str e.node, .str kind.name, .str selector]
    match ← play ("elementQuery:" ++ e.node) with
    | .error e => pure (.error e)
    | .ok _ => do
      let n ← nodeOf e
      let all ← found e.page (listed key n.children)
      pure (.ok all)

/-- A call on an element that answers with something of the element. -/
def onElement (name : String) (e : Element) (args : List Json)
    (answer : Node → World → Except FlowError τ) : Play (Except FlowError τ) := do
  note name (.str e.node :: args)
  match ← play (name ++ ":" ++ e.node) with
  | .error e => pure (.error e)
  | .ok _ => do
    let n ← nodeOf e
    let w ← get
    pure (answer n w)

def bytesOf (j : Json) (key : String) : Bytes :=
  match (j.get? (key ++ "Hex")).bind Json.text? with
  | some hex => (Hex.decode? hex.toList).getD []
  | none => Text.encode (((j.get? key).bind Json.text?).getD "")

def responseOf (request : HttpRequest) : Option Json → HttpResponse
  | none => ⟨200, request.url, [], Text.encode "\x7b\x7d"⟩
  | some v =>
    let headers := match v.get? "headers" with
      | some (.obj fields) => fields.filterMap fun f => f.2.text?.map fun t => (f.1, t)
      | _ => []
    ⟨((v.get? "status").bind Json.nat?).getD 200,
      ((v.get? "url").bind Json.text?).getD request.url, headers, bytesOf v "body"⟩

def fetch (a : ApiContext) (r : HttpRequest) : Play (Except FlowError HttpResponse) := do
  note "fetch" [.ofNat a.number, .str r.method.name, .str r.url,
    Json.object (r.headers.map fun h => (h.1, .str h.2)),
    .arr (r.query.map fun q => .arr [.str q.1, .str q.2]), .bool r.body.isSome,
    r.body.getD .null, durationJson r.timeout]
  let result ← play "fetch"
  pure (result.map (responseOf r))

def loadKey (s : LoadState) : String := "load:" ++ s.name

/-- Three waits side by side: each takes its outcome at once, and the last to end ends them all. -/
def loads (p : Page) (first second third : LoadState) (timeout : Duration) :
    Play (Except FlowError Unit × Except FlowError Unit × Except FlowError Unit) := do
  let start (s : LoadState) : Play Outcome := do
    note "load" [pageArg p, .str s.name, durationJson timeout]
    let w ← get
    let (o, w) := w.takeOutcome (loadKey s)
    let w := if o.disconnect then
        if 0 < o.delayMs then { w with losses := (w.now + o.delayMs) :: w.losses }
        else w.loseNewest
      else w
    set w
    pure o
  let a ← start first
  let b ← start second
  let c ← start third
  let w ← get
  waitUntil (w.now + max a.delayMs (max b.delayMs c.delayMs))
  let result (o : Outcome) : Except FlowError Unit := match o.error with
    | some e => .error e
    | none => .ok ()
  pure (result a, result b, result c)

def evaluate (p : Page) (expression : String) : Play (Except FlowError Json) := do
  note "evaluate" [pageArg p, .str expression]
  let r ← play "evaluate"
  pure (r.map fun v => v.getD .null)

/-- A play that is given up when it would end after a time; one that ends just then is not. -/
def playWithin (d : Duration) (p : Play τ) : Play (Option τ) := do
  let w ← get
  let stop := wakeAt w.now d
  let outer := w.deadline
  let limit := match outer with
    | some t => min t stop
    | none => stop
  let (result, after) := (p.run.run { w with deadline := some limit } : Option τ × World)
  set { after with deadline := outer }
  match result, outer with
  | some v, _ => pure (some v)
  | none, some t => if t < stop then failure else pure none
  | none, none => pure none

def epochMillis : Nat := 1700000000000

/-- Closing a page; it counts as closed at once. -/
def markClosed (p : Page) : Play Unit :=
  modify fun w => { w with pages := World.setFlag w.pages p.number true }

/-- Starts closing a page; the rest of it happens by itself. -/
def closeLater (p : Page) : Play Unit := do
  note "closePage" [pageArg p]
  markClosed p
  let w ← get
  let (o, w) := w.takeOutcome "closePage"
  set (if o.disconnect then
      if 0 < o.delayMs then { w with losses := (w.now + o.delayMs) :: w.losses }
      else w.loseNewest
    else w)

def extract (command : PdfCommand) (scratch : Nat) (selection : Json) : Play ProcessEnd := do
  let w ← get
  match w.extractor with
  | some process => do
    note "pdf" [selection, .str (Hex.text (w.host.content scratch))]
    pure (process.run command.program selection)
  | none => pure (.notStarted noSuchFile)

def ofHost (op : Engine.Op) : Play (Engine.Reply op) :=
  match Host.answer? op with
  | some f => do
    let w ← get
    let (r, h) := f w.host
    set { w with host := h }
    pure r
  | none => failure

def answer : (op : Engine.Op) → Play (Engine.Reply op)
  | .launch => do
    let r ← simple "launch" [] "launch"
    let w ← get
    match r with
    | .ok () => do
      set { w with browsers := true :: w.browsers }
      pure (.ok ⟨w.browsers.length + 1⟩)
    | .error e => pure (.error e)
  | .newPage b => do
    let r ← simple "newPage" [.ofNat b.number] "newPage"
    let w ← get
    match r with
    | .ok () => do
      set { w with pages := false :: w.pages }
      pure (.ok ⟨w.pages.length + 1⟩)
    | .error e => pure (.error e)
  | .newApi b => do
    let r ← simple "newApi" [.ofNat b.number] "newApi"
    let w ← get
    match r with
    | .ok () => do
      set { w with apis := w.apis + 1 }
      pure (.ok ⟨w.apis + 1⟩)
    | .error e => pure (.error e)
  | .isConnected b => do
    let w ← get
    pure (World.flag w.browsers b.number)
  | .closeBrowser b => do
    note "closeBrowser" [.ofNat b.number]
    modify fun w => { w with browsers := World.setFlag w.browsers b.number false }
    let r ← play "closeBrowser"
    pure (r.map fun _ => ())
  | .goto p url waitUntil timeout =>
    simple "goto" [pageArg p, .str url, .str waitUntil.name, durationJson timeout] "goto"
  | .reload p => simple "reload" [pageArg p] "reload"
  | .load p state timeout =>
    simple "load" [pageArg p, .str state.name, durationJson timeout] (loadKey state)
  | .loads p first second third timeout => loads p first second third timeout
  | .query root kind selector => query root kind selector
  | .evaluate p expression => evaluate p expression
  | .evaluateWithin p expression timeout => playWithin timeout (evaluate p expression)
  | .screenshot p => do
    note "screenshot" [pageArg p]
    let r ← play "screenshot"
    pure (r.map fun v => ((v.bind Json.text?).bind fun s => Hex.decode? s.toList).getD
      [0x89, 0x50, 0x4e, 0x47])
  | .isClosed p => do
    let w ← get
    pure (World.flag w.pages p.number)
  | .closePage p => do
    note "closePage" [pageArg p]
    markClosed p
    let r ← play "closePage"
    pure (r.map fun _ => ())
  | .closePageLater p => closeLater p
  | .fetch a request => fetch a request
  | .text e => onElement "text" e [] fun n _ => .ok n.text
  | .attributeOf e name =>
    onElement "attribute" e [.str name] fun n _ => .ok (n.attributes.lookup name)
  | .isVisible e => onElement "visible" e [] fun n w => .ok (n.isVisible w.now)
  | .isEditable e => onElement "editable" e [] fun n _ => .ok n.editable
  | .click e => onElement "click" e [] fun _ _ => .ok ()
  | .fill e text => onElement "fill" e [.str text] fun _ _ => .ok ()
  | .scrollIntoView e => onElement "scroll" e [] fun _ _ => .ok ()
  | .rows e => onElement "rows" e [] fun n _ => n.rows
  | .now => do
    let w ← get
    pure (w.now * 10 ^ 6)
  | .sleep d => do
    let w ← get
    waitUntil (wakeAt w.now d)
  | .date => do
    let w ← get
    pure (.ofMillis (epochMillis + w.now))
  | .runExtractor command scratch selection => extract command scratch selection
  | op => ofHost op

def perform (t : Job τ) (w : World) : Option τ × World :=
  Prog.run (fun op w => (answer op).run.run w) t w

end Scripted
end PageFlow
