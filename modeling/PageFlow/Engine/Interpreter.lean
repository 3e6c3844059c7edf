import PageFlow.Engine.Registry
import PageFlow.Engine.Pool
import PageFlow.Grammar

/-! Running flows. Each step gets the value of the last step that produced one and the latest
selection of elements. The first step that fails ends the run; the session is released in any
case. -/
namespace PageFlow

structure Interpreter where
  registry : Registry
  config : EngineConfig

namespace Interpreter

open Engine

def standard (config : EngineConfig) : Interpreter :=
  ⟨Registry.standard config.pdf.extractor, config⟩

/-- The value and the selection that one step leaves to the next. -/
structure Threaded where
  prev : Pending
  selection : Pending

def Threaded.start : Threaded := ⟨.empty, .empty⟩

def Threaded.after (t : Threaded) : Option Pending → Threaded
  | none => t
  | some v => ⟨v, if v.isElementContext then v else t.selection⟩

def context (i : Interpreter) (session : Session) (t : Threaded) (step : Step) : Context :=
  ⟨session, step, t.prev, t.selection, i.config⟩

def captured (step : Step) (produced : Option Pending) : Option StepValue :=
  if step.action.isCapturing then produced.bind Pending.stepValue? else none

def secondsBetween (start stop : Instant) : Float := (Duration.ofNanos (stop - start)).toSeconds

/-- Runs steps, the first of them at a position counted from 1. -/
def runFrom (i : Interpreter) (session : Session) : Nat → Threaded → List Step → Job FlowReport
  | _, _, [] => pure ⟨true, []⟩
  | position, t, step :: rest => do
    let start ← ask .now
    let outcome ← (i.registry.execute (i.context session t step)).run
    let stop ← ask .now
    let taken := secondsBetween start stop
    match outcome with
    | .ok produced => do
      let report ← runFrom i session (position + 1) (t.after produced) rest
      pure ⟨report.success, ⟨step, taken, captured step produced, none⟩ :: report.results⟩
    | .error e => do
      let date ← ask .date
      let body := ErrorBody.ofError (.stepProcessing position step.action e) date.millisText
      pure ⟨false, [⟨step, taken, none, some body⟩]⟩

def runSteps (i : Interpreter) (session : Session) (steps : List Step) : Job FlowReport :=
  runFrom i session 1 .start steps

/-- Checks a request, takes a session and runs all steps. -/
def run (i : Interpreter) (request : FlowRequest) : Attempt FlowReport := do
  ofAnswer (Grammar.validate request.steps)
  let session ← Pool.acquire
  let report ← ExceptT.lift (i.runSteps session request.steps)
  let _ ← outcome (Pool.release session)
  pure report

end Interpreter
end PageFlow
