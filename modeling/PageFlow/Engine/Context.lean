import PageFlow.Engine.Op
import PageFlow.Config

/-! What an action sees while its step runs, and how it is applied to the elements at hand. -/
namespace PageFlow

structure Context where
  session : Session
  step : Step
  /-- value of the last step that produced one -/
  prev : Pending
  selection : Pending
  config : EngineConfig

/-- An action: what it produces, or nothing if the value at hand stays. -/
abbrev Executor := Context → Attempt (Option Pending)

namespace Context

def page (c : Context) : Page := c.session.page

/-- The elements to work on. A captured value defers to the latest selection. -/
def elementTarget (c : Context) : Pending :=
  match c.prev with
  | .value _ => c.selection
  | other => other

def params (c : Context) (read : Json.Doc → Json.Read τ) : Attempt τ :=
  Engine.ofAnswer (c.step.params read)

def paramsOr (c : Context) (read : Json.Doc → Json.Read τ) (default : τ) : Attempt τ :=
  Engine.ofAnswer (c.step.paramsOr read default)

end Context

inductive Fanned (τ : Type) where
  | one (v : τ)
  | many (vs : List τ)

def Fanned.toJson : Fanned Json → Json
  | .one j => j
  | .many js => .arr js

/-- Applies an action to elements in order; the first failure ends it. -/
def eachElement (f : Element → Attempt τ) : List Element → Attempt (List τ)
  | [] => pure []
  | e :: rest => do
    let v ← f e
    let vs ← eachElement f rest
    pure (v :: vs)

def forEachElement (c : Context) (f : Element → Attempt τ) : Attempt (Fanned τ) :=
  match c.elementTarget with
  | .element e => do
    let v ← f e
    pure (.one v)
  | .elements all => do
    let vs ← eachElement f all
    pure (.many vs)
  | .notFound miss => throw (.locatorTimeout miss.selector miss.timeoutMs)
  | .empty => throw (.missingContext c.step.action)
  | .value _ => throw (.missingContext c.step.action)

end PageFlow
