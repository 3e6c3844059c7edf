import PageFlow.Engine.Context
import PageFlow.Json.Printer

/-! Actions on the page as a whole: screenshots, scripts and scrolling. -/
namespace PageFlow
namespace Actions

open Engine

def screenshot : Executor := fun c => do
  if ← isClosed c.page then throw (.screenshot "page is closed")
  else do
    let png ← Engine.screenshot c.page
    pure (some (.value (.bytes png)))

/-- The expression of a script. A body runs inside a function that may wait and return; a function
is called with the argument itself. -/
def scriptExpression (script : String) (arg : Option Json) (isFunction : Bool) : String :=
  let argument := match arg with
    | some j => j.compact
    | none => "undefined"
  if isFunction then "(" ++ script ++ ")(" ++ argument ++ ")"
  else "(async function(arg) " ++ Json.openBrace ++ "\n" ++ script ++ "\n" ++ Json.closeBrace ++
    ")(" ++ argument ++ ")"

def ScriptParams.expression : ScriptParams → String
  | .body script => scriptExpression script none false
  | .detailed script arg isFunction _ => scriptExpression script arg isFunction

def ScriptParams.limit (config : EngineConfig) : ScriptParams → Duration
  | .body _ => config.browser.defaultTimeout
  | .detailed _ _ _ timeout => .ofSeconds timeout

def executeScript : Executor := fun c => do
  let p ← c.params ScriptParams.read
  let limit := ScriptParams.limit c.config p
  match ← evaluateWithin c.page (ScriptParams.expression p) limit with
  | some answer => do
    let value ← ofAnswer answer
    pure (some (.value (.json value)))
  | none => throw (.timeout ("script to finish within " ++ toString limit.toMillis ++ "ms"))

def scrollTopScript : String := "window.scrollTo(0, 0)"
def scrollBottomScript : String := "window.scrollTo(0, document.body.scrollHeight)"

/-- Runs a script and goes on whatever becomes of it. -/
def runAnyway (script : String) : Executor := fun c => do
  let _ ← outcome (evaluate c.page script)
  pure none

def scrollToTop : Executor := runAnyway scrollTopScript
def scrollToBottom : Executor := runAnyway scrollBottomScript

end Actions
end PageFlow
