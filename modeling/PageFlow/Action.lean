/-! The actions that a step may perform, in the order in which they are listed everywhere, with
their names on the wire. -/
namespace PageFlow

inductive Action where
  | navigate | findElement | click | extractText | extractTable | extractAttribute
  | waitForLoad | waitForFullLoad | screenshot | executeScript | inputText
  | waitForDisappearance | scrollToTop | scrollToBottom | scrollIntoElement
  | httpGet | httpPost | extractPdf
deriving DecidableEq, Repr, Inhabited

namespace Action

def all : List Action := [.navigate, .findElement, .click, .extractText, .extractTable,
  .extractAttribute, .waitForLoad, .waitForFullLoad, .screenshot, .executeScript, .inputText,
  .waitForDisappearance, .scrollToTop, .scrollToBottom, .scrollIntoElement, .httpGet, .httpPost,
  .extractPdf]

def name : Action → String
  | navigate => "navigateTo"
  | findElement => "findElement"
  | click => "clickElement"
  | extractText => "extractText"
  | extractTable => "extractTable"
  | extractAttribute => "extractAttribute"
  | waitForLoad => "waitForPageLoad"
  | waitForFullLoad => "waitForFullLoad"
  | screenshot => "screenshot"
  | executeScript => "executeJavaScript"
  | inputText => "inputText"
  | waitForDisappearance => "waitForElementToDisappear"
  | scrollToTop => "scrollToTop"
  | scrollToBottom => "scrollToBottom"
  | scrollIntoElement => "scrollIntoElement"
  | httpGet => "getRequest"
  | httpPost => "postRequest"
  | extractPdf => "extractPDF"

def named : List (String × Action) := all.map fun a => (a.name, a)

def ofName? (s : String) : Option Action := named.lookup s

/-- Whether the outcome of a step keeps what the action produced. -/
def isCapturing : Action → Bool
  | extractText | extractTable | extractAttribute | extractPdf | screenshot | httpGet | httpPost
  | executeScript => true
  | _ => false

/-- Whether the action works on elements that an earlier step produced. -/
def consumesElement : Action → Bool
  | extractText | extractTable | extractAttribute | click | inputText | scrollIntoElement => true
  | _ => false

def position (a : Action) : Nat := all.findIdx (· = a)

end Action
end PageFlow
