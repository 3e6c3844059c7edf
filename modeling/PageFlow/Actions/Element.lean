import PageFlow.Engine.Context
import PageFlow.Engine.Locator
import PageFlow.Text.Blank

/-! Actions on elements: finding them, clicking and filling them, reading their texts and
attributes, scrolling to them. -/
namespace PageFlow
namespace Actions

open Engine

/-- A text without its outer blanks; nothing and a blank text are null. -/
def trimmedJson : Option String → Json
  | none => .null
  | some s => if Text.trimmed s = "" then .null else .str (Text.trimmed s)

def findOptions (p : FindElementParams) : Locator.Options :=
  ⟨.ofSeconds p.timeout, p.multiple, p.waitFor, p.strict⟩

def pendingOf (p : FindElementParams) : Locator.Resolved → Pending
  | .one e => .element e
  | .many all => .elements all
  | .none => .notFound ⟨p.by_.describe p.locator, (findOptions p).timeout.toMillis⟩

/-- What lookups under several parents found, in the order of the parents. -/
def gathered : Fanned Locator.Resolved → Locator.Resolved
  | .one r => r
  | .many rs => .many (rs.flatMap Locator.Resolved.toList)

def findElement : Executor := fun c => do
  let p ← c.params FindElementParams.read
  let resolved ←
    if p.inSelection then do
      let each ← forEachElement c fun parent =>
        Locator.resolve (.element parent) p.by_ p.locator (findOptions p)
      pure (gathered each)
    else Locator.resolve (.page c.page) p.by_ p.locator (findOptions p)
  pure (some (pendingOf p resolved))

/-- Scrolls to an element if it can, waits until it is visible and clicks it. -/
def clickOne (timeout : Duration) (e : Element) : Attempt Unit := do
  let _ ← outcome (scrollIntoView e)
  Locator.waitUntilVisible e timeout
  Engine.click e

def click : Executor := fun c => do
  let _ ← forEachElement c (clickOne c.config.browser.defaultTimeout)
  pure none

def readText (e : Element) : Attempt Json := do
  let text ← Engine.text e
  pure (trimmedJson text)

def extractText : Executor := fun c => do
  let texts ← forEachElement c readText
  pure (some (.value (.json texts.toJson)))

def readAttribute (name : String) (e : Element) : Attempt Json := do
  let value ← attributeOf e name
  pure (trimmedJson value)

def extractAttribute : Executor := fun c => do
  let p ← c.params AttributeParams.read
  let values ← forEachElement c (readAttribute p.name)
  pure (some (.value (.json values.toJson)))

def fillOne (text : String) (e : Element) : Attempt Unit := do
  if ← isEditable e then Engine.fill e text
  else throw (.element (e.description ++ " is not an editable field"))

def inputText : Executor := fun c => do
  let p ← c.params InputTextParams.read
  let _ ← forEachElement c (fillOne p.text)
  pure none

def scrollTo (e : Element) : Attempt Unit := do
  let _ ← outcome (scrollIntoView e)
  pure ()

def scrollIntoElement : Executor := fun c => do
  let _ ← forEachElement c scrollTo
  pure none

end Actions
end PageFlow
