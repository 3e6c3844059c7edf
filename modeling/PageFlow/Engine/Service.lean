import PageFlow.Engine.Interpreter

/-! Saved flows and their runs. A flow is checked before it is saved; the report of every run that
got a session is kept, with the user who started it. -/
namespace PageFlow
namespace Service

open Engine

def saveFlow (name : String) (steps : List Step) : Attempt FlowDefinition := do
  ofAnswer (Grammar.validate steps)
  let id ← freshId
  let created ← date
  let flow : FlowDefinition := ⟨id, name, steps, created⟩
  Engine.saveFlow flow
  pure flow

def execute (i : Interpreter) (flowId : Option Uuid) (request : FlowRequest) (user : String) :
    Attempt FlowResultRecord := do
  let report ← i.run request
  let id ← freshId
  let created ← date
  let record : FlowResultRecord := ⟨id, flowId, user, created, report⟩
  saveResult record
  pure record

def runFlow (i : Interpreter) (flowId : Uuid) (user : String) : Attempt FlowResultRecord := do
  let flow ← loadFlow flowId
  execute i (some flowId) ⟨flow.steps⟩ user

def runRequest (i : Interpreter) (request : FlowRequest) (user : String) :
    Attempt FlowResultRecord :=
  execute i none request user

def result (id : Uuid) : Attempt FlowResultRecord := loadResult id

def resultsFor (user : String) : Attempt (List FlowResultRecord) := Engine.resultsFor user

end Service
end PageFlow
