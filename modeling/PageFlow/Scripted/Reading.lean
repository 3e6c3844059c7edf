import PageFlow.Scripted.World
import PageFlow.Scripted.Endpoint
import PageFlow.Json.Lenient

/-! Scripts written as JSON: outcomes of calls, elements, canned responses, processes and the
errors that calls end in. Bytes stand as text or, in a field of their own, as hexadecimal digits.
-/
namespace PageFlow
namespace Scripted

open Json.Lenient

def actionNamed (name : String) : Action := (Action.ofName? name).getD .navigate

/-- The error that a description names, with so many errors inside one another. -/
def errorWithin : Nat → Json → FlowError
  | 0, j => .session (str j "message")
  | depth + 1, j =>
    let message := str j "message"
    let act := actionNamed (str j "action")
    let source := errorWithin depth (field j "source")
    match str j "type" with
    | "EmptyFlow" => .emptyFlow
    | "FirstStepNotNavigate" => .firstNotNavigate (actionNamed (str j "found"))
    | "GrammarViolation" =>
      .grammarViolation (nat j "index") act (actionNamed (str j "previous")) (str j "allowed")
    | "MissingContext" => .missingContext act
    | "LocatorTimeout" => .locatorTimeout (str j "selector") (nat j "timeoutMs")
    | "StepProcessing" => .stepProcessing (nat j "index") act source
    | "RetryExhausted" => .retryExhausted (str j "operation") (nat j "attempts") source
    | "InvalidStep" => .invalidStep act message
    | "NavigationError" => .navigation message
    | "ElementError" => .element message
    | "Timeout" => .timeout message
    | "JsError" => .script message
    | "HttpError" => .http message
    | "ScreenshotError" => .screenshot message
    | "PdfError" => .pdf message
    | "NotFound" => .notFound message
    | "CdpError" => .devTools message
    | "IoError" => .io message
    | "JsonError" => .json message
    | _ => .session message

def readError (j : Json) : FlowError := errorWithin 100 j

/-- An entry of a queue; a negative number of times stands for ever. -/
def readLasting (f : Json → τ) (j : Json) : Lasting τ :=
  ⟨f j, match j.get? "times" with
    | some (.int n) => if n < 0 then none else some n.toNat
    | _ => some 1⟩

def readLists (f : Json → τ) (j : Json) : List (String × List τ) :=
  (entries j).map fun e => (e.1, (e.2.array?.getD []).map f)

def readOutcome (j : Json) : Outcome :=
  ⟨nat j "delayMs", bool j "disconnect", (j.get? "error").map readError, j.get? "value"⟩

/-- An element, with so many levels of elements below it. -/
def nodeWithin : Nat → Json → Node
  | depth, j =>
    { name := str j "name"
      text := (field j "text").text?
      attributes := stringFields (field j "attributes")
      editable := bool j "editable"
      hidden := bool j "hidden"
      rows := match Json.ofValue (Json.items TableRow.read) ((j.get? "rows").getD (.arr [])) with
        | .ok rows => .ok rows
        | .error f => .error (.json f.message)
      children := match depth with
        | 0 => []
        | depth + 1 => readLists (nodeWithin depth) (field j "children")
      fromMs := nat j "from"
      untilMs := (field j "until").nat?
      visibleFromMs := nat j "visibleFrom"
      visibleUntilMs := (field j "visibleUntil").nat? }

def readDom (j : Json) : List (String × List Node) := readLists (nodeWithin 100) j
def readQueues (j : Json) : Queues Outcome := readLists (readLasting readOutcome) j

def readExtractor (j : Json) : Extractor :=
  ⟨bytesOf j "stdout", bytesOf j "stderr", bool j "echoSelection", nat j "exit",
    (field j "signal").nat?, bool j "hang"⟩

def readCommand (j : Json) : PdfCommand :=
  ⟨orElse (str j "program") "sh", [], .ofMillis (natOr j "timeoutMs" 60000)⟩

/-- The value of a header; a function changes what stands as text. -/
def readHeader (change : String → String) : Json → Option (String × Bytes)
  | .arr [.str name, .str value] => some (name, Text.encode (change value))
  | .arr [.str name, j] => some (name, (Hex.decode? (str j "hex").toList).getD [])
  | _ => none

def readCanned (change : String → String) (j : Json) : Canned :=
  ⟨natOr j "status" 200, (list j "headers").filterMap (readHeader change), bytesOf j "body",
    bool j "hang", bool j "drop", nat j "missingBytes"⟩

namespace Endpoint

def readReturned (j : Json) : Option DevTools.Returned :=
  match j.get? "exception" with
  | some (.str s) => some (.thrown s)
  | _ => if bool j "undefined" then some .undefined else (j.get? "value").map .value

def readFault (j : Json) : Int × String :=
  (match j.get? "code" with
    | some (.int n) => n
    | _ => -32000, str j "message")

def readOutcome (j : Json) : Outcome :=
  ⟨(j.get? "error").map readFault, bool j "hang", readReturned j, nat j "jumpMs",
    (field j "errorText").text?, bool j "challenge"⟩

def readNode (j : Json) : Node := ⟨field j "text", entries (field j "attributes"), field j "rows"⟩

def readScript (j : Json) : Script :=
  ⟨(entries (field j "elements")).map fun e => (e.1, readNode e.2),
    (entries (field j "dom")).map fun e => (e.1, (e.2.array?.getD []).filterMap Json.text?),
    readLists (readLasting readOutcome) (field j "queues"), bool j "refuse"⟩

def World.start (executable : String) (server : Server) (script : Script) : World :=
  { (default : World) with
    script := script, executable := executable, server := server, host := .start }

end Endpoint
end Scripted
end PageFlow
