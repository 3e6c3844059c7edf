import PageFlow.Chromium.Remote

/-! Scripts that run in a page. What a script throws is an error, and so is a call that returns
nothing; a script without a value has the value null. -/
namespace PageFlow
namespace Chromium

open DevTools

def exceptionText : String := "<exception>"

def evaluated : Except Fault Returned → Engine.Answer Json
  | .error f => .error (.script f.text)
  | .ok (.thrown _) => .error (.script exceptionText)
  | .ok .undefined => .ok .null
  | .ok (.value v) => .ok v

def evaluate (p : Page) (expression : String) : Remote (Engine.Answer Json) := do
  let r ← call (.page p) (.evaluate expression)
  pure (evaluated r)

/-- An evaluation that is given up after a time. -/
def evaluateWithin (p : Page) (expression : String) (timeout : Duration) :
    Remote (Option (Engine.Answer Json)) := do
  let start ← now
  let r ← callBy (start + timeout.toNanos) (.page p) (.evaluate expression)
  pure (r.map evaluated)

def calledOn : Except Fault Returned → Engine.Answer Json
  | .error f => .error (.element f.text)
  | .ok (.thrown text) => .error (.script text)
  | .ok .undefined => .ok .null
  | .ok (.value v) => .ok v

def callOn (e : Element) (function : String) : Remote (Engine.Answer Json) := do
  let r ← call (.page e.page) (.callOn e.node function)
  pure (calledOn r)

end Chromium
end PageFlow
