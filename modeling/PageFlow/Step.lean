import PageFlow.Action
import PageFlow.Json.Decode

/-! The steps of a flow as they come over the wire, and the requests that hold them. -/
namespace PageFlow

structure Step where
  label : String
  description : String
  action : Action
  data : Json
  placeholder : Option Json
deriving Inhabited

namespace Step

def ofAction (action : Action) (data : Json) : Step := ⟨action.name, "", action, data, none⟩

/-- The placeholder is written only when it is there. -/
def toJson (s : Step) : Json :=
  .obj ([("action", .str s.action.name), ("data", s.data), ("description", .str s.description),
    ("label", .str s.label)] ++ (s.placeholder.toList.map fun p => ("placeholder", p)))

def readAction : Json.Doc → Json.Read Action := Json.variant Action.named

def fields : Json.Fields Step :=
  Step.mk <$> Json.fieldOr "label" Json.string "" <*> Json.fieldOr "description" Json.string ""
    <*> Json.field "action" readAction <*> Json.fieldOr "data" Json.Doc.json .null
    <*> Json.fieldOption "placeholder" Json.Doc.json

def read : Json.Doc → Json.Read Step := Json.record "Step" fields

end Step

structure FlowRequest where
  steps : List Step
deriving Inhabited

namespace FlowRequest

def toJson (r : FlowRequest) : Json := .obj [("steps", .arr (r.steps.map Step.toJson))]

def fields : Json.Fields FlowRequest := FlowRequest.mk <$> Json.field "steps" (Json.items Step.read)

def read : Json.Doc → Json.Read FlowRequest := Json.record "FlowRequest" fields

end FlowRequest
end PageFlow
