import PageFlow.Actions.Element
import PageFlow.Actions.Page
import PageFlow.Actions.Navigation
import PageFlow.Actions.Table
import PageFlow.Actions.Pdf

/-! Which executor performs which action. -/
namespace PageFlow

def PdfConfig.extractor (c : PdfConfig) : Option PdfCommand :=
  c.command.map fun program => ⟨program, c.args, c.timeout⟩

def Executor.builtIn (extractor : Option PdfCommand) : Action → Executor
  | .navigate => Actions.navigate
  | .findElement => Actions.findElement
  | .click => Actions.click
  | .extractText => Actions.extractText
  | .extractTable => Actions.extractTable
  | .extractAttribute => Actions.extractAttribute
  | .waitForLoad => Actions.waitForLoad
  | .waitForFullLoad => Actions.waitForFullLoad
  | .screenshot => Actions.screenshot
  | .executeScript => Actions.executeScript
  | .inputText => Actions.inputText
  | .waitForDisappearance => Actions.waitForDisappearance
  | .scrollToTop => Actions.scrollToTop
  | .scrollToBottom => Actions.scrollToBottom
  | .scrollIntoElement => Actions.scrollIntoElement
  | .httpGet => Actions.httpRequest .get
  | .httpPost => Actions.httpRequest .post
  | .extractPdf => Actions.extractPdf extractor

/-- An executor for some of the actions. -/
abbrev Registry := Action → Option Executor

namespace Registry

def empty : Registry := fun _ => none

def register (r : Registry) (a : Action) (e : Executor) : Registry :=
  fun b => if b = a then some e else r b

def standard (extractor : Option PdfCommand) : Registry :=
  fun a => some (Executor.builtIn extractor a)

def execute (r : Registry) (c : Context) : Attempt (Option Pending) :=
  match r c.step.action with
  | some e => e c
  | none => throw (.notFound ("executor for " ++ c.step.action.name))

end Registry
end PageFlow
