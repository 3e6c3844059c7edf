import PageFlow.Chromium.Script
import PageFlow.Table

/-! Elements on a page. Most is done by functions called on the element; clicks and keys go
through the input of the browser, where they come from a user. -/
namespace PageFlow
namespace Chromium

open DevTools

def isVisibleFunction : String := "function() \x7b
    if (!this.isConnected) return false;
    const style = window.getComputedStyle(this);
    if (style.display === 'none' || style.visibility === 'hidden') return false;
    const rect = this.getBoundingClientRect();
    return rect.width > 0 && rect.height > 0;
\x7d"

def isEditableFunction : String := "function() \x7b
    if (this.isContentEditable) return true;
    if (this.disabled || this.readOnly) return false;
    if (this.tagName === 'TEXTAREA') return true;
    if (this.tagName !== 'INPUT') return false;
    const nonText = ['button', 'checkbox', 'radio', 'submit', 'reset', 'file', 'image', 'hidden', 'color', 'range'];
    return !nonText.includes((this.type || 'text').toLowerCase());
\x7d"

def clearFunction : String := "function() \x7b
    this.focus();
    if (this.isContentEditable) this.textContent = '';
    else this.value = '';
    this.dispatchEvent(new Event('input', \x7b bubbles: true \x7d));
\x7d"

def changedFunction : String := "function() \x7b
    this.dispatchEvent(new Event('change', \x7b bubbles: true \x7d));
\x7d"

def scrollFunction : String := "function() \x7b
    this.scrollIntoView(\x7b behavior: 'auto', block: 'center', inline: 'nearest' \x7d);
\x7d"

def rowsFunction : String := "function() \x7b
    return JSON.stringify(Array.from(this.querySelectorAll('tr')).map(tr => (\x7b
        in_head: !!tr.closest('thead'),
        cells: Array.from(tr.children)
            .filter(c => c.tagName === 'TD' || c.tagName === 'TH')
            .map(c => (\x7b text: (c.textContent || '').trim(), header: c.tagName === 'TH' \x7d)),
    \x7d)));
\x7d"

def askElement (e : Element) (function : String) : Remote (Engine.Answer Bool) := do
  let r ← callOn e function
  pure (r.map fun v => v.bool?.getD false)

def isVisible (e : Element) : Remote (Engine.Answer Bool) := askElement e isVisibleFunction
def isEditable (e : Element) : Remote (Engine.Answer Bool) := askElement e isEditableFunction

def textValue (v : Json) : Engine.Answer String :=
  match Json.ofValue Json.string v with
  | .ok s => .ok s
  | .error f => .error (.element f.message)

/-- The text of an element; an empty one counts as absent, and none at all is an error. -/
def textOf : Except Fault Returned → Engine.Answer (Option String)
  | .error f => .error (.element f.text)
  | .ok (.thrown _) | .ok .undefined | .ok (.value .null) =>
    .error (.element "Requested value not found.")
  | .ok (.value v) => (textValue v).map fun s => if s = "" then none else some s

def text (e : Element) : Remote (Engine.Answer (Option String)) := do
  let r ← call (.page e.page) (.innerText e.node)
  pure (textOf r)

def attributeValue : Except Fault Returned → Engine.Answer (Option String)
  | .error f => .error (.element f.text)
  | .ok (.thrown _) | .ok .undefined | .ok (.value .null) => .ok none
  | .ok (.value v) => (textValue v).map some

def attributeOf (e : Element) (name : String) : Remote (Engine.Answer (Option String)) := do
  let r ← call (.page e.page) (.getAttribute e.node name)
  pure (attributeValue r)

/-- Twice the area inside four corners, with a sign. -/
def twiceArea : List Float → Float
  | [x₁, y₁, x₂, y₂, x₃, y₃, x₄, y₄] =>
    (x₁ * y₂ - x₂ * y₁) + (x₂ * y₃ - x₃ * y₂) + (x₃ * y₄ - x₄ * y₃) + (x₄ * y₁ - x₁ * y₄)
  | _ => 0.0

def centre : List Float → Float × Float
  | [x₁, y₁, x₂, y₂, x₃, y₃, x₄, y₄] =>
    ((x₁ + x₂ + x₃ + x₄) / 4.0, (y₁ + y₂ + y₃ + y₄) / 4.0)
  | _ => (0.0, 0.0)

/-- The middle of the first box that is large enough to be hit. -/
def clickPoint? (quads : List (List Float)) : Option (Float × Float) :=
  (quads.find? fun q => 1.0 < (twiceArea q / 2.0).abs).map centre

abbrev Click (α : Type) := ExceptT String (Prog Op Reply) α

def clickCall (e : Element) (c : Call) : Click (Returns c) :=
  ExceptT.mk (do
    let r ← call (.page e.page) c
    pure (match r with
      | .ok v => .ok v
      | .error f => .error f.text))

/-- Scrolls the element into view; a text that comes back says why it cannot be. -/
def revealed (e : Element) : Click Unit := do
  match ← clickCall e (.reveal e.node) with
  | .value (.str text) => throw text
  | _ => pure ()

def pressAt (e : Element) (x y : Float) : Click Unit := do
  clickCall e (.mouse .move x y)
  clickCall e (.mouse .press x y)
  clickCall e (.mouse .release x y)

def clicked (e : Element) : Click Unit := do
  revealed e
  let quads ← clickCall e (.quads e.node)
  match clickPoint? quads with
  | some (x, y) => pressAt e x y
  | none => throw "Node is either not visible or not an HTMLElement"

def click (e : Element) : Remote (Engine.Answer Unit) := do
  match ← (clicked e).run with
  | .ok () => pure (.ok ())
  | .error text => pure (.error (.element ("element is not clickable: " ++ text)))

def hasKey (c : Char) : Bool := ' ' ≤ c && c ≤ '~'

/-- Types characters one by one, up to the first that cannot be typed. -/
def typeKeys (e : Element) : List Char → Remote (Engine.Answer Unit)
  | [] => pure (.ok ())
  | c :: rest =>
    if hasKey c then do
      match ← call (.page e.page) (.key c) with
      | .ok () => typeKeys e rest
      | .error f => pure (.error (.element f.text))
    else pure (.error (.element ("Key not found: " ++ String.singleton c)))

def fill (e : Element) (text : String) : Remote (Engine.Answer Unit) := do
  match ← callOn e clearFunction with
  | .error x => pure (.error x)
  | .ok _ => do
    match ← typeKeys e text.toList with
    | .error x => pure (.error x)
    | .ok () => do
      let r ← callOn e changedFunction
      pure (r.map fun _ => ())

def scrollIntoView (e : Element) : Remote (Engine.Answer Unit) := do
  let r ← callOn e scrollFunction
  pure (r.map fun _ => ())

def readRows (v : Json) : Engine.Answer (List TableRow) :=
  match v.text? with
  | none => .error (.script "table extraction returned no data")
  | some s =>
    match Json.ofText (Json.items TableRow.read) s with
    | .ok rows => .ok rows
    | .error f => .error (.json (f.messageIn s))

def rows (e : Element) : Remote (Engine.Answer (List TableRow)) := do
  let r ← callOn e rowsFunction
  pure (r.bind readRows)

end Chromium
end PageFlow
