import PageFlow.Action
import PageFlow.Json.Decode

/-! What can go wrong with a flow. Each error has a message for people and a code for programs;
structural errors say that the flow itself is at fault, so trying again cannot help. -/
namespace PageFlow

inductive FlowError where
  | session (text : String)
  | emptyFlow
  | firstNotNavigate (found : Action)
  | grammarViolation (index : Nat) (action previous : Action) (allowed : String)
  | missingContext (action : Action)
  | locatorTimeout (selector : String) (timeoutMs : Nat)
  | stepProcessing (index : Nat) (action : Action) (source : FlowError)
  | retryExhausted (operation : String) (attempts : Nat) (source : FlowError)
  | invalidStep (action : Action) (message : String)
  | navigation (text : String)
  | element (text : String)
  | timeout (text : String)
  | script (text : String)
  | http (text : String)
  | screenshot (text : String)
  | pdf (text : String)
  | notFound (text : String)
  | devTools (text : String)
  | io (text : String)
  | json (text : String)
deriving DecidableEq, Repr, Inhabited

namespace FlowError

def message : FlowError → String
  | session text => "Session error: " ++ text
  | emptyFlow => "Flow is empty"
  | firstNotNavigate found =>
    "The first step must be " ++ Action.navigate.name ++ ", found " ++ found.name
  | grammarViolation index action previous allowed =>
    "Step " ++ toString index ++ " (" ++ action.name ++ ") cannot follow " ++ previous.name ++
      "; allowed predecessors: " ++ allowed
  | missingContext action => action.name ++ " needs an element or value from a previous step"
  | locatorTimeout selector timeoutMs =>
    "No element matched " ++ selector ++ " within " ++ toString timeoutMs ++ "ms"
  | stepProcessing index action source =>
    "Processing step " ++ toString index ++ ". " ++ action.name ++ ": " ++ source.message
  | retryExhausted operation attempts source =>
    operation ++ " failed after " ++ toString attempts ++ " attempts: " ++ source.message
  | invalidStep action text => "Invalid parameters for " ++ action.name ++ ": " ++ text
  | navigation text => "Navigation failed: " ++ text
  | element text => "Element error: " ++ text
  | timeout text => "Timeout waiting for: " ++ text
  | script text => "JavaScript error: " ++ text
  | http text => "HTTP error: " ++ text
  | screenshot text => "Screenshot failed: " ++ text
  | pdf text => "PDF extraction failed: " ++ text
  | notFound text => text ++ " not found"
  | devTools text => "CDP error: " ++ text
  | io text => "IO error: " ++ text
  | json text => "JSON error: " ++ text

def code : FlowError → String
  | session _ => "SESSION_ERROR"
  | emptyFlow | firstNotNavigate _ | grammarViolation _ _ _ _ => "GRAMMAR_VIOLATION"
  | missingContext _ => "MISSING_CONTEXT"
  | locatorTimeout _ _ => "LOCATOR_TIMEOUT"
  | stepProcessing _ _ _ => "STEP_PROCESSING_ERROR"
  | retryExhausted _ _ _ => "RETRY_EXHAUSTED"
  | invalidStep _ _ => "VALIDATION_ERROR"
  | notFound _ => "NOT_FOUND"
  | _ => "INTERNAL_ERROR"

def isStructural : FlowError → Bool
  | emptyFlow | firstNotNavigate _ | grammarViolation _ _ _ _ | missingContext _
  | invalidStep _ _ => true
  | stepProcessing _ _ source => source.isStructural
  | _ => false

def details : FlowError → Option Json
  | stepProcessing index action source => some (.obj
      [("action", .str action.name), ("cause", .str source.code), ("step", .ofNat index)])
  | grammarViolation index action previous _ => some (.obj
      [("action", .str action.name), ("previous", .str previous.name), ("step", .ofNat index)])
  | retryExhausted _ attempts _ => some (.obj [("attempts", .ofNat attempts)])
  | _ => none

end FlowError

structure ErrorBody where
  code : String
  message : String
  details : Option Json
  timestamp : String
deriving Inhabited

namespace ErrorBody

def ofError (e : FlowError) (timestamp : String) : ErrorBody :=
  ⟨e.code, e.message, e.details, timestamp⟩

def toJson (b : ErrorBody) : Json :=
  .obj ([("code", .str b.code)] ++ (b.details.toList.map fun d => ("details", d)) ++
    [("message", .str b.message), ("timestamp", .str b.timestamp)])

def fields : Json.Fields ErrorBody :=
  ErrorBody.mk <$> Json.field "code" Json.string <*> Json.field "message" Json.string
    <*> Json.fieldNamedOption "details" Json.Doc.json <*> Json.field "timestamp" Json.string

def read : Json.Doc → Json.Read ErrorBody := Json.record "ErrorBody" fields

end ErrorBody
end PageFlow
