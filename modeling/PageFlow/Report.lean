import PageFlow.Step
import PageFlow.StepValue
import PageFlow.FlowError

/-! Reports of runs: one outcome for every step that was started. -/
namespace PageFlow

structure StepOutcome where
  step : Step
  /-- seconds spent in the step -/
  timeTaken : Float
  result : Option StepValue
  error : Option ErrorBody
deriving Inhabited

namespace StepOutcome

/-- A result and an error are written only when there is one. -/
def toJson (o : StepOutcome) : Json :=
  .obj ((o.error.toList.map fun e => ("error", e.toJson)) ++
    (o.result.toList.map fun v => ("result", v.toJson)) ++
    [("step", o.step.toJson), ("timeTaken", .float o.timeTaken)])

def readResult (d : Json.Doc) : Json.Read StepValue := (Json.Doc.json d).map StepValue.ofJson

def fields : Json.Fields StepOutcome :=
  StepOutcome.mk <$> Json.field "step" Step.read <*> Json.field "timeTaken" Json.double
    <*> Json.fieldOption "result" readResult <*> Json.fieldOption "error" ErrorBody.read

def read : Json.Doc → Json.Read StepOutcome := Json.record "StepOutcome" fields

end StepOutcome

structure FlowReport where
  success : Bool
  results : List StepOutcome
deriving Inhabited

namespace FlowReport

def failure (r : FlowReport) : Option ErrorBody := r.results.getLast?.bind (·.error)

def values (r : FlowReport) : List StepValue := r.results.filterMap (·.result)

def members (r : FlowReport) : List (String × Json) :=
  [("results", .arr (r.results.map StepOutcome.toJson)), ("success", .bool r.success)]

def toJson (r : FlowReport) : Json := .obj r.members

def fields : Json.Fields FlowReport :=
  FlowReport.mk <$> Json.field "success" Json.boolean
    <*> Json.field "results" (Json.items StepOutcome.read)

def read : Json.Doc → Json.Read FlowReport := Json.record "FlowReport" fields

end FlowReport

inductive RunState where
  | idle | initializing | completed | released
  | running (step : Nat)
  | failed (step : Nat)

def RunState.text : RunState → String
  | idle => "idle"
  | initializing => "initializing"
  | running step => "running step " ++ toString step
  | completed => "completed"
  | failed step => "failed at step " ++ toString step
  | released => "released"

end PageFlow
