import PageFlow.Json.Value

/-! Lenient access to the fields of a value: what is missing, or of another kind, has the plainest
value of its kind. -/
namespace PageFlow
namespace Json
namespace Lenient

def field (j : Json) (key : String) : Json := (j.get? key).getD .null
def has (j : Json) (key : String) : Bool := (j.get? key).isSome
def str (j : Json) (key : String) : String := ((field j key).text?).getD ""
def nat (j : Json) (key : String) : Nat := ((field j key).nat?).getD 0
def natOr (j : Json) (key : String) (d : Nat) : Nat := ((field j key).nat?).getD d
def bool (j : Json) (key : String) : Bool := ((field j key).bool?).getD false
def list (j : Json) (key : String) : List Json := ((field j key).array?).getD []
def strings (j : Json) (key : String) : List String := (list j key).filterMap Json.text?

def entries : Json → List (String × Json)
  | .obj fields => fields
  | _ => []

def stringFields (j : Json) : List (String × String) :=
  (entries j).filterMap fun e => e.2.text?.map fun t => (e.1, t)

def orElse (s d : String) : String := if s = "" then d else s

end Lenient
end Json
end PageFlow
