import PageFlow.Chromium.Script
import PageFlow.Chromium.Marking
import PageFlow.Text.Quoted

/-! Lookups of elements. The browser itself finds by CSS and, on a page, by XPath; there a failed
lookup is one without matches. Every other lookup marks what it finds, collects the marked
elements and removes the marks. -/
namespace PageFlow
namespace Chromium

open DevTools

def freshToken : Remote String := do
  let n ← fresh
  let digits := Nat.toDigits 16 n
  pure (String.ofList (List.replicate (32 - digits.length) '0' ++ digits))

def handles (p : Page) : List String → Remote (List Element)
  | [] => pure []
  | node :: rest => do
    let n ← fresh
    let more ← handles p rest
    pure (⟨p, n, node, "RemoteObjectId(" ++ Text.quoted node ++ ")"⟩ :: more)

def find (p : Page) (selector : String) : Remote (Except Fault (List String)) := do
  match ← call (.page p) .document with
  | .error f => pure (.error f)
  | .ok () => call (.page p) (.find none selector)

/-- The elements that hold a token; the marks are removed once they are found. -/
def collectMarked (p : Page) (token : String) : Remote (Engine.Answer (List Element)) := do
  match ← find p (markSelector token) with
  | .error f => pure (.error (.element f.text))
  | .ok nodes => do
    let _ ← call (.page p) (.evaluate (cleanupScript token))
    let all ← handles p nodes
    pure (.ok all)

def afterMarking (p : Page) (token : String) :
    Engine.Answer Json → Remote (Engine.Answer (List Element))
  | .error e => pure (.error e)
  | .ok count => if count.nat?.getD 0 = 0 then pure (.ok []) else collectMarked p token

def markScript (kind : SelectorKind) (selector token : String) : String :=
  "(" ++ markingFunction kind selector token ++ ").call(document)"

def markOnPage (p : Page) (kind : SelectorKind) (selector : String) :
    Remote (Engine.Answer (List Element)) := do
  let token ← freshToken
  let count ← evaluate p (markScript kind selector token)
  afterMarking p token count

def markUnder (e : Element) (kind : SelectorKind) (selector : String) :
    Remote (Engine.Answer (List Element)) := do
  let token ← freshToken
  let count ← callOn e (markingFunction kind selector token)
  afterMarking e.page token count

/-- What was found; nothing when the lookup failed. -/
def foundOrNone : Except Fault (List String) → List String
  | .ok nodes => nodes
  | .error _ => []

def queryPage (p : Page) (kind : SelectorKind) (selector : String) :
    Remote (Engine.Answer (List Element)) :=
  match kind with
  | .css => do
    let r ← find p selector
    let all ← handles p (foundOrNone r)
    pure (.ok all)
  | .xpath => do
    let r ← call (.page p) (.findXpath selector)
    let all ← handles p (foundOrNone r)
    pure (.ok all)
  | .script => markOnPage p .script selector

def queryElement (e : Element) (kind : SelectorKind) (selector : String) :
    Remote (Engine.Answer (List Element)) :=
  match kind with
  | .css => do
    match ← call (.page e.page) (.find (some e.node) selector) with
    | .error f => pure (.error (.element f.text))
    | .ok nodes => do
      let all ← handles e.page nodes
      pure (.ok all)
  | kind => markUnder e kind selector

def query (root : Root) (kind : SelectorKind) (selector : String) :
    Remote (Engine.Answer (List Element)) :=
  match root with
  | .page p => queryPage p kind selector
  | .element e => queryElement e kind selector

end Chromium
end PageFlow
