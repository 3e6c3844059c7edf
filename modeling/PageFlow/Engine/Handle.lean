import PageFlow.StepValue
import PageFlow.Text.Quoted

/-! Handles on what a browser driver holds: browsers, pages, contexts for requests, elements. -/
namespace PageFlow

structure Browser where
  number : Nat
deriving DecidableEq, Repr, Inhabited

structure Page where
  number : Nat
deriving DecidableEq, Repr, Inhabited

structure ApiContext where
  number : Nat
deriving DecidableEq, Repr, Inhabited

/-- A reference to an element that a lookup found. Two lookups give two handles on one element. -/
structure Element where
  page : Page
  handle : Nat
  /-- what the driver calls the element -/
  node : String
  description : String
deriving DecidableEq, Repr, Inhabited

def Element.debugText (e : Element) : String :=
  "ElementHandle(" ++ Text.quoted e.description ++ ")"

inductive Root where
  | page (p : Page)
  | element (e : Element)
deriving DecidableEq, Repr, Inhabited

/-- One page and one context for requests, owned by a single run. -/
structure Session where
  number : Nat
  page : Page
  api : ApiContext
deriving DecidableEq, Repr, Inhabited

/-- A lookup that found nothing in time. -/
structure LocatorMiss where
  selector : String
  timeoutMs : Nat
deriving DecidableEq, Repr, Inhabited

/-- The value handed from one step to the next. -/
inductive Pending where
  | empty
  | element (e : Element)
  | elements (all : List Element)
  | notFound (miss : LocatorMiss)
  | value (v : StepValue)
deriving Inhabited

namespace Pending

def isEmpty : Pending → Bool
  | empty => true
  | _ => false

/-- Whether it holds elements, or the record of not finding one. -/
def isElementContext : Pending → Bool
  | element _ | elements _ | notFound _ => true
  | _ => false

def stepValue? : Pending → Option StepValue
  | value v => some v
  | _ => none

end Pending
end PageFlow
