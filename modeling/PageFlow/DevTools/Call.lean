import PageFlow.Engine.Handle
import PageFlow.Text.Utf8

/-! Calls of the debugging protocol of a browser, and what each of them returns. Nodes and
requests go by the names that the browser gave them. -/
namespace PageFlow
namespace DevTools

/-- Why a call returns nothing. -/
inductive Fault where
  | refused (code : Int) (text : String)
  | timedOut
  /-- the connection is closed -/
  | gone
deriving DecidableEq, Repr, Inhabited

def Fault.text : Fault → String
  | refused code text => "Error " ++ toString code ++ ": " ++ text
  | timedOut => "Request timed out."
  | gone => "send failed because receiver is gone"

/-- How a script ends. -/
inductive Returned where
  | value (v : Json)
  | undefined
  | thrown (text : String)
deriving Inhabited

structure Navigated where
  failure : Option String
  challenge : Option String
deriving Inhabited

inductive MouseEvent where
  | move | press | release
deriving DecidableEq, Repr, Inhabited

inductive Call where
  | createTarget (url : String)
  | viewport (width height : Nat)
  | enableFetch
  | navigate (url : String)
  | continueRequest (request : String)
  | continueWithAuth (request user password : String)
  | reload
  | evaluate (expression : String)
  | document
  /-- lookup under a node, or under the document -/
  | find (root : Option String) (selector : String)
  | findXpath (query : String)
  | innerText (node : String)
  | getAttribute (node name : String)
  | callOn (node function : String)
  | reveal (node : String)
  | quads (node : String)
  | mouse (event : MouseEvent) (x y : Float)
  | key (c : Char)
  | contentSize
  | screenshot
  | closeTarget
  | closeBrowser
deriving Inhabited

def Returns : Call → Type
  | .createTarget _ => Page
  | .navigate _ => Navigated
  | .evaluate _ => Returned
  | .find _ _ => List String
  | .findXpath _ => List String
  | .innerText _ => Returned
  | .getAttribute _ _ => Returned
  | .callOn _ _ => Returned
  | .reveal _ => Returned
  | .quads _ => List (List Float)
  | .contentSize => Nat × Nat
  | .screenshot => Bytes
  | _ => Unit

/-- What a page can be listened to for. -/
inductive Event where
  | authRequired | requestPaused
deriving DecidableEq, Repr, Inhabited

inductive Target where
  | browser (b : Browser)
  | page (p : Page)
deriving DecidableEq, Repr, Inhabited

end DevTools
end PageFlow
