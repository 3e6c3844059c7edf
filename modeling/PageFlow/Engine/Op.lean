import PageFlow.Prog
import PageFlow.Engine.Handle
import PageFlow.Params
import PageFlow.Table
import PageFlow.Record
import PageFlow.Http.Message

/-! The operations that the engine asks for: those of a browser driver, the clock, the shared
state of a pool, files and processes of the PDF extractor, and a store of flows and results. -/
namespace PageFlow

/-- A program called with a file and a selection. -/
structure PdfCommand where
  program : String
  args : List String
  timeout : Duration
deriving DecidableEq, Repr, Inhabited

inductive ExitStatus where
  | code (n : Nat)
  | signal (n : Nat)
deriving DecidableEq, Repr

inductive ProcessEnd where
  | notStarted (text : String)
  | late
  | ended (status : ExitStatus) (stdout stderr : Bytes)

namespace Engine

inductive Op where
  | launch
  | newPage (b : Browser)
  | newApi (b : Browser)
  | isConnected (b : Browser)
  | closeBrowser (b : Browser)
  | goto (p : Page) (url : String) (waitUntil : LoadState) (timeout : Duration)
  | reload (p : Page)
  | load (p : Page) (state : LoadState) (timeout : Duration)
  /-- three waits for a load side by side, over when all of them are -/
  | loads (p : Page) (first second third : LoadState) (timeout : Duration)
  | query (root : Root) (kind : SelectorKind) (selector : String)
  | evaluate (p : Page) (expression : String)
  /-- an evaluation that is given up after a time -/
  | evaluateWithin (p : Page) (expression : String) (timeout : Duration)
  | screenshot (p : Page)
  | isClosed (p : Page)
  | closePage (p : Page)
  /-- starts closing a page and does not wait for it -/
  | closePageLater (p : Page)
  | fetch (a : ApiContext) (request : HttpRequest)
  | text (e : Element)
  | attributeOf (e : Element) (name : String)
  | isVisible (e : Element)
  | isEditable (e : Element)
  | click (e : Element)
  | fill (e : Element) (text : String)
  | scrollIntoView (e : Element)
  | rows (e : Element)
  | now
  | sleep (d : Duration)
  | date
  | lockPool
  | unlockPool
  | pooled
  | setPooled (b : Option Browser)
  | countLaunch
  | enter (p : Page) (a : ApiContext)
  | leave (s : Session)
  /-- marks a session as released and says whether it was before -/
  | markReleased (s : Session)
  | newScratch
  | writeScratch (scratch : Nat) (content : Bytes)
  | removeScratch (scratch : Nat)
  | runExtractor (command : PdfCommand) (scratch : Nat) (selection : Json)
  | freshId
  | saveFlow (f : FlowDefinition)
  | loadFlow (id : Uuid)
  | saveResult (r : FlowResultRecord)
  | loadResult (id : Uuid)
  | resultsFor (user : String)

abbrev Answer (τ : Type) := Except FlowError τ

def Reply : Op → Type
  | .launch => Answer Browser
  | .newPage _ => Answer Page
  | .newApi _ => Answer ApiContext
  | .isConnected _ => Bool
  | .closeBrowser _ => Answer Unit
  | .goto _ _ _ _ => Answer Unit
  | .reload _ => Answer Unit
  | .load _ _ _ => Answer Unit
  | .loads _ _ _ _ _ => Answer Unit × Answer Unit × Answer Unit
  | .query _ _ _ => Answer (List Element)
  | .evaluate _ _ => Answer Json
  | .evaluateWithin _ _ _ => Option (Answer Json)
  | .screenshot _ => Answer Bytes
  | .isClosed _ => Bool
  | .closePage _ => Answer Unit
  | .closePageLater _ => Unit
  | .fetch _ _ => Answer HttpResponse
  | .text _ => Answer (Option String)
  | .attributeOf _ _ => Answer (Option String)
  | .isVisible _ => Answer Bool
  | .isEditable _ => Answer Bool
  | .click _ => Answer Unit
  | .fill _ _ => Answer Unit
  | .scrollIntoView _ => Answer Unit
  | .rows _ => Answer (List TableRow)
  | .now => Instant
  | .sleep _ => Unit
  | .date => Moment
  | .lockPool => Unit
  | .unlockPool => Unit
  | .pooled => Option Browser
  | .setPooled _ => Unit
  | .countLaunch => Unit
  | .enter _ _ => Session
  | .leave _ => Unit
  | .markReleased _ => Bool
  | .newScratch => Answer Nat
  | .writeScratch _ _ => Answer Unit
  | .removeScratch _ => Unit
  | .runExtractor _ _ _ => ProcessEnd
  | .freshId => Uuid
  | .saveFlow _ => Unit
  | .loadFlow _ => Answer FlowDefinition
  | .saveResult _ => Unit
  | .loadResult _ => Answer FlowResultRecord
  | .resultsFor _ => List FlowResultRecord

end Engine

abbrev Job (α : Type) := Prog Engine.Op Engine.Reply α

/-- A program of the engine that may fail. -/
abbrev Attempt (α : Type) := ExceptT FlowError (Prog Engine.Op Engine.Reply) α

namespace Engine

def ask (op : Op) : Job (Reply op) := Prog.call op

/-- The outcome of an attempt as a value. -/
def outcome (a : Attempt τ) : Attempt (Except FlowError τ) := ExceptT.lift a.run

def ofAnswer (r : Except FlowError τ) : Attempt τ := ExceptT.mk (pure r)

def launch : Attempt Browser := ExceptT.mk (ask .launch)
def newPage (b : Browser) : Attempt Page := ExceptT.mk (ask (.newPage b))
def newApi (b : Browser) : Attempt ApiContext := ExceptT.mk (ask (.newApi b))
def isConnected (b : Browser) : Attempt Bool := ExceptT.lift (ask (.isConnected b))
def closeBrowser (b : Browser) : Attempt Unit := ExceptT.mk (ask (.closeBrowser b))
def goto (p : Page) (url : String) (waitUntil : LoadState) (timeout : Duration) : Attempt Unit :=
  ExceptT.mk (ask (.goto p url waitUntil timeout))
def reload (p : Page) : Attempt Unit := ExceptT.mk (ask (.reload p))
def load (p : Page) (state : LoadState) (timeout : Duration) : Attempt Unit :=
  ExceptT.mk (ask (.load p state timeout))
def loads (p : Page) (first second third : LoadState) (timeout : Duration) :
    Attempt (Answer Unit × Answer Unit × Answer Unit) :=
  ExceptT.lift (ask (.loads p first second third timeout))
def query (root : Root) (kind : SelectorKind) (selector : String) : Attempt (List Element) :=
  ExceptT.mk (ask (.query root kind selector))
def evaluate (p : Page) (expression : String) : Attempt Json :=
  ExceptT.mk (ask (.evaluate p expression))
def evaluateWithin (p : Page) (expression : String) (timeout : Duration) :
    Attempt (Option (Answer Json)) := ExceptT.lift (ask (.evaluateWithin p expression timeout))
def screenshot (p : Page) : Attempt Bytes := ExceptT.mk (ask (.screenshot p))
def isClosed (p : Page) : Attempt Bool := ExceptT.lift (ask (.isClosed p))
def closePage (p : Page) : Attempt Unit := ExceptT.mk (ask (.closePage p))
def closePageLater (p : Page) : Attempt Unit := ExceptT.lift (ask (.closePageLater p))
def fetch (a : ApiContext) (request : HttpRequest) : Attempt HttpResponse :=
  ExceptT.mk (ask (.fetch a request))
def text (e : Element) : Attempt (Option String) := ExceptT.mk (ask (.text e))
def attributeOf (e : Element) (name : String) : Attempt (Option String) :=
  ExceptT.mk (ask (.attributeOf e name))
def isVisible (e : Element) : Attempt Bool := ExceptT.mk (ask (.isVisible e))
def isEditable (e : Element) : Attempt Bool := ExceptT.mk (ask (.isEditable e))
def click (e : Element) : Attempt Unit := ExceptT.mk (ask (.click e))
def fill (e : Element) (text : String) : Attempt Unit := ExceptT.mk (ask (.fill e text))
def scrollIntoView (e : Element) : Attempt Unit := ExceptT.mk (ask (.scrollIntoView e))
def rows (e : Element) : Attempt (List TableRow) := ExceptT.mk (ask (.rows e))
def now : Attempt Instant := ExceptT.lift (ask .now)
def sleep (d : Duration) : Attempt Unit := ExceptT.lift (ask (.sleep d))
def date : Attempt Moment := ExceptT.lift (ask .date)
def lockPool : Attempt Unit := ExceptT.lift (ask .lockPool)
def unlockPool : Attempt Unit := ExceptT.lift (ask .unlockPool)
def pooled : Attempt (Option Browser) := ExceptT.lift (ask .pooled)
def setPooled (b : Option Browser) : Attempt Unit := ExceptT.lift (ask (.setPooled b))
def countLaunch : Attempt Unit := ExceptT.lift (ask .countLaunch)
def enter (p : Page) (a : ApiContext) : Attempt Session := ExceptT.lift (ask (.enter p a))
def leave (s : Session) : Attempt Unit := ExceptT.lift (ask (.leave s))
def markReleased (s : Session) : Attempt Bool := ExceptT.lift (ask (.markReleased s))
def newScratch : Attempt Nat := ExceptT.mk (ask .newScratch)
def writeScratch (scratch : Nat) (content : Bytes) : Attempt Unit :=
  ExceptT.mk (ask (.writeScratch scratch content))
def removeScratch (scratch : Nat) : Attempt Unit := ExceptT.lift (ask (.removeScratch scratch))
def runExtractor (command : PdfCommand) (scratch : Nat) (selection : Json) : Attempt ProcessEnd :=
  ExceptT.lift (ask (.runExtractor command scratch selection))
def freshId : Attempt Uuid := ExceptT.lift (ask .freshId)
def saveFlow (f : FlowDefinition) : Attempt Unit := ExceptT.lift (ask (.saveFlow f))
def loadFlow (id : Uuid) : Attempt FlowDefinition := ExceptT.mk (ask (.loadFlow id))
def saveResult (r : FlowResultRecord) : Attempt Unit := ExceptT.lift (ask (.saveResult r))
def loadResult (id : Uuid) : Attempt FlowResultRecord := ExceptT.mk (ask (.loadResult id))
def resultsFor (user : String) : Attempt (List FlowResultRecord) :=
  ExceptT.lift (ask (.resultsFor user))

end Engine
end PageFlow
