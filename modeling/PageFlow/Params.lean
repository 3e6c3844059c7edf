import PageFlow.Duration
import PageFlow.Step
import PageFlow.FlowError

/-! What the data of a step must hold, action by action. -/
namespace PageFlow

/-- The language of a selector. -/
inductive SelectorKind where
  | css | xpath | script
deriving DecidableEq, Repr, Inhabited

namespace SelectorKind

def name : SelectorKind → String
  | css => "css"
  | xpath => "xpath"
  | script => "script"

def named : List (String × SelectorKind) := [("css", css), ("xpath", xpath), ("script", script)]

def read : Json.Doc → Json.Read SelectorKind := Json.variant named

def describe (kind : SelectorKind) (selector : String) : String :=
  kind.name ++ " `" ++ selector ++ "`"

end SelectorKind

/-- The milestone of a page load that a step waits for. -/
inductive LoadState where
  | load | domContentLoaded | networkIdle
deriving DecidableEq, Repr, Inhabited

namespace LoadState

def name : LoadState → String
  | load => "load"
  | domContentLoaded => "domcontentloaded"
  | networkIdle => "networkidle"

def title : LoadState → String
  | load => "Load"
  | domContentLoaded => "DomContentLoaded"
  | networkIdle => "NetworkIdle"

def named : List (String × LoadState) :=
  [("load", load), ("domcontentloaded", domContentLoaded), ("networkidle", networkIdle)]

def read : Json.Doc → Json.Read LoadState := Json.variant named

end LoadState

/-- What an element must be to count as found. -/
inductive WaitState where
  | attached | visible
deriving DecidableEq, Repr, Inhabited

def WaitState.named : List (String × WaitState) := [("attached", .attached), ("visible", .visible)]
def WaitState.read : Json.Doc → Json.Read WaitState := Json.variant WaitState.named

inductive TableFormat where
  | records | grid
deriving DecidableEq, Repr, Inhabited

def TableFormat.name : TableFormat → String
  | .records => "records"
  | .grid => "grid"

def TableFormat.read : Json.Doc → Json.Read TableFormat :=
  Json.variant [("records", .records), ("grid", .grid)]

structure NavigateParams where
  url : String
  waitUntil : LoadState
  timeout : Float
  retries : Option Nat
  waitForFullLoad : Bool

def NavigateParams.fields : Json.Fields NavigateParams :=
  NavigateParams.mk <$> Json.field "url" Json.string
    <*> Json.fieldOr "waitUntil" LoadState.read .load
    <*> Json.fieldOr "timeout" Json.double 5.0 <*> Json.fieldOption "retries" Json.word32
    <*> Json.fieldOr "waitForFullLoad" Json.boolean false

def NavigateParams.read : Json.Doc → Json.Read NavigateParams :=
  Json.record "NavigateParams" NavigateParams.fields

structure FindElementParams where
  by_ : SelectorKind
  locator : String
  timeout : Float
  multiple : Bool
  waitFor : WaitState
  strict : Bool
  /-- look within the elements of the latest selection -/
  inSelection : Bool

def FindElementParams.fields : Json.Fields FindElementParams :=
  FindElementParams.mk <$> Json.fieldOr "by" SelectorKind.read .css
    <*> Json.field "locator" Json.string <*> Json.fieldOr "timeout" Json.double 10.0
    <*> Json.fieldOr "multiple" Json.boolean false
    <*> Json.fieldOr "waitFor" WaitState.read .attached
    <*> Json.fieldOr "strict" Json.boolean false <*> Json.fieldOr "scoped" Json.boolean false

def FindElementParams.read : Json.Doc → Json.Read FindElementParams :=
  Json.record "FindElementParams" FindElementParams.fields

inductive AttributeParams where
  | bare (name : String)
  | named (key : String)

def AttributeParams.name : AttributeParams → String
  | bare name => name
  | named key => key

def AttributeParams.read : Json.Doc → Json.Read AttributeParams :=
  Json.anyOf "AttributeParams" [fun d => (Json.string d).map .bare,
    Json.named "AttributeParams" (AttributeParams.named <$> Json.field "attribute" Json.string)]

structure ExtractTableParams where
  format : TableFormat
  hasHeader : Option Bool

def ExtractTableParams.default : ExtractTableParams := ⟨.records, none⟩

def ExtractTableParams.fields : Json.Fields ExtractTableParams :=
  ExtractTableParams.mk <$> Json.fieldOr "format" TableFormat.read .records
    <*> Json.fieldOption "hasHeader" Json.boolean

def ExtractTableParams.read : Json.Doc → Json.Read ExtractTableParams :=
  Json.record "ExtractTableParams" ExtractTableParams.fields

/-- How long to wait for the load, or for which milestone as well. -/
inductive WaitForLoadParams where
  | seconds (timeout : Float)
  | state (state : LoadState) (timeout : Float)

def WaitForLoadParams.read : Json.Doc → Json.Read WaitForLoadParams :=
  Json.anyOf "WaitForLoadParams" [fun d => (Json.double d).map .seconds,
    Json.named "WaitForLoadParams" (WaitForLoadParams.state
      <$> Json.fieldOr "state" LoadState.read .load <*> Json.fieldOr "timeout" Json.double 30.0)]

/-- A script as the body of a function, or with an argument and a time limit of its own. -/
inductive ScriptParams where
  | body (script : String)
  | detailed (script : String) (arg : Option Json) (isFunction : Bool) (timeout : Float)

def ScriptParams.read : Json.Doc → Json.Read ScriptParams :=
  Json.anyOf "ScriptParams" [fun d => (Json.string d).map .body,
    Json.named "ScriptParams" (ScriptParams.detailed <$> Json.field "script" Json.string
      <*> Json.fieldOption "arg" Json.Doc.json <*> Json.fieldOr "isFunction" Json.boolean false
      <*> Json.fieldOr "timeout" Json.double 30.0)]

inductive InputTextParams where
  | bare (text : String)
  | detailed (text : String)

def InputTextParams.text : InputTextParams → String
  | bare text => text
  | detailed text => text

def InputTextParams.read : Json.Doc → Json.Read InputTextParams :=
  Json.anyOf "InputTextParams" [fun d => (Json.string d).map .bare,
    Json.named "InputTextParams" (InputTextParams.detailed <$> Json.field "text" Json.string)]

structure DisappearanceOptions where
  timeout : Option Float
  maxRetries : Option Nat

def DisappearanceOptions.read : Json.Doc → Json.Read DisappearanceOptions :=
  Json.record "DisappearanceOptions" (DisappearanceOptions.mk
    <$> Json.fieldOption "timeout" Json.double <*> Json.fieldOption "maxRetries" Json.word32)

structure WaitForDisappearanceParams where
  by_ : SelectorKind
  locator : String
  options : DisappearanceOptions

def WaitForDisappearanceParams.read : Json.Doc → Json.Read WaitForDisappearanceParams :=
  Json.record "WaitForDisappearanceParams" (WaitForDisappearanceParams.mk
    <$> Json.fieldOr "by" SelectorKind.read .css <*> Json.field "locator" Json.string
    <*> Json.fieldOr "options" DisappearanceOptions.read ⟨none, none⟩)

structure RequestOptions where
  headers : List (String × String)
  params : List (String × Json)
  data : Option Json
  timeout : Option Float
  retries : Option Nat
  returnJson : Bool

def RequestOptions.none : RequestOptions := ⟨[], [], .none, .none, .none, false⟩

def RequestOptions.read : Json.Doc → Json.Read RequestOptions :=
  Json.record "RequestOptions" (RequestOptions.mk
    <$> Json.fieldOr "headers" (Json.entries Json.string) []
    <*> Json.fieldOr "params" (Json.entries Json.Doc.json) []
    <*> Json.fieldOption "data" Json.Doc.json <*> Json.fieldOption "timeout" Json.double
    <*> Json.fieldOption "retries" Json.word32 <*> Json.fieldOr "returnJson" Json.boolean false)

structure HttpParams where
  url : String
  options : RequestOptions

def HttpParams.read : Json.Doc → Json.Read HttpParams :=
  Json.record "HttpParams" (HttpParams.mk <$> Json.field "url" Json.string
    <*> Json.fieldOr "options" RequestOptions.read .none)

structure PdfSource where
  url : String
  extract : Json

def PdfSource.read : Json.Doc → Json.Read PdfSource :=
  Json.record "PdfSource" (PdfSource.mk <$> Json.field "url" Json.string
    <*> Json.fieldOr "extract" Json.Doc.json .null)

/-- A source alone, or as the options of a saved flow that says whether to use its address. -/
inductive ExtractPdfParams where
  | direct (source : PdfSource)
  | wrapped (usingUrl : Bool) (options : PdfSource)

def ExtractPdfParams.source : ExtractPdfParams → Option PdfSource
  | direct source => some source
  | wrapped true options => some options
  | wrapped false _ => none

def ExtractPdfParams.read : Json.Doc → Json.Read ExtractPdfParams :=
  Json.anyOf "ExtractPdfParams" [fun d => (PdfSource.read d).map .direct,
    Json.named "ExtractPdfParams" (ExtractPdfParams.wrapped
      <$> Json.fieldOr "usingUrl" Json.boolean true <*> Json.field "options" PdfSource.read)]

namespace Step

def params (s : Step) (read : Json.Doc → Json.Read τ) : Except FlowError τ :=
  match read (.value s.data) with
  | .ok v => .ok v
  | .error flaw => .error (.invalidStep s.action flaw.message)

/-- The data of a step for its action; null data stands for a default. -/
def paramsOr (s : Step) (read : Json.Doc → Json.Read τ) (default : τ) : Except FlowError τ :=
  if s.data.isNull then .ok default else s.params read

end Step
end PageFlow
