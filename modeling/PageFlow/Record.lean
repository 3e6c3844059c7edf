import PageFlow.Report
import PageFlow.Uuid
import PageFlow.Moment

/-! What is kept of flows and runs: a saved flow with its name, and the report of a run with the
user who started it. The report's fields stand among the record's own. -/
namespace PageFlow

structure FlowDefinition where
  id : Uuid
  name : String
  steps : List Step
  createdAt : Moment
deriving Inhabited

namespace FlowDefinition

def toJson (f : FlowDefinition) : Json :=
  .obj [("createdAt", .str f.createdAt.text), ("id", .str f.id.text), ("name", .str f.name),
    ("steps", .arr (f.steps.map Step.toJson))]

def fields : Json.Fields FlowDefinition :=
  FlowDefinition.mk <$> Json.field "id" Uuid.read <*> Json.field "name" Json.string
    <*> Json.field "steps" (Json.items Step.read) <*> Json.field "createdAt" Moment.read

def read : Json.Doc → Json.Read FlowDefinition := Json.record "FlowDefinition" fields

end FlowDefinition

structure FlowResultRecord where
  id : Uuid
  flowId : Option Uuid
  userId : String
  createdAt : Moment
  report : FlowReport
deriving Inhabited

namespace FlowResultRecord

def toJson (r : FlowResultRecord) : Json :=
  .obj ([("createdAt", .str r.createdAt.text)] ++
    (r.flowId.toList.map fun i => ("flowId", .str i.text)) ++ [("id", .str r.id.text)] ++
    r.report.members ++ [("userId", .str r.userId)])

def ownFields : Json.Fields (FlowReport → FlowResultRecord) :=
  FlowResultRecord.mk <$> Json.field "id" Uuid.read <*> Json.fieldOption "flowId" Uuid.read
    <*> Json.field "userId" Json.string <*> Json.field "createdAt" Moment.read

/-- A member that is not the record's own is set aside and must be whole; it is read later. -/
def setAside : Json.Doc → Json.Read Json.Doc
  | .text depth s =>
    if (s.toJson? depth).isSome then .ok (.held s) else .error .malformed
  | d => .ok d

/-- Visits all members in order: own ones are read, the others set aside. -/
def visit (slots : List Json.Slot) : List String → List (Option String × Json.Doc) →
    Json.Read (List (Option String × Json.Doc))
  | _, [] => .ok []
  | _, (none, _) :: _ => .error .malformed
  | seen, (some key, d) :: rest =>
    match slots.find? fun s => s.key = key with
    | none => do
      let held ← setAside d
      let others ← visit slots seen rest
      .ok ((some key, held) :: others)
    | some slot =>
      if key ∈ seen then .error (.duplicateField key)
      else do
        slot.check d
        visit slots (key :: seen) rest

def read (d : Json.Doc) : Json.Read FlowResultRecord :=
  match d.shape with
  | .obj members => do
    let others ← visit ownFields.slots [] members
    let env := fun key => Json.lookupMember key members
    match Json.missing? ownFields.slots env with
    | some key => .error (.missingField key)
    | none => do
      let make ← ownFields.build env
      let report ← FlowReport.fields.ofMembers others
      .ok (make report)
  | s => .error (s.unlike "struct FlowResultRecord")

end FlowResultRecord
end PageFlow
