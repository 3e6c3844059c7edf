import PageFlow.Step
import PageFlow.FlowError

/-! Which action may directly follow which. A flow is accepted iff it starts with a navigation and
every step may follow the one before it. -/
namespace PageFlow
namespace Grammar

/-- The actions allowed directly before an action; none listed means any. -/
def allowedBefore : Action → List Action
  | .click | .inputText | .scrollIntoElement => [.findElement]
  | .extractText | .extractTable | .extractAttribute =>
    [.findElement, .extractText, .extractAttribute, .extractTable, .click, .scrollIntoElement]
  | .waitForLoad | .waitForFullLoad => [.navigate]
  | _ => []

def mayFollow (previous action : Action) : Bool :=
  (allowedBefore action).isEmpty || (allowedBefore action).contains previous

def describe (actions : List Action) : String := ", ".intercalate (actions.map Action.name)

/-- Checks neighbours; `k` is the position, from 1, of the second step of the list. -/
def checkPairs : Nat → List Step → Except FlowError Unit
  | k, a :: b :: rest =>
    if mayFollow a.action b.action then checkPairs (k + 1) (b :: rest)
    else .error (.grammarViolation k b.action a.action (describe (allowedBefore b.action)))
  | _, _ => .ok ()

def validate : List Step → Except FlowError Unit
  | [] => .error .emptyFlow
  | s :: rest =>
    if s.action = .navigate then checkPairs 2 (s :: rest)
    else .error (.firstNotNavigate s.action)

end Grammar
end PageFlow
