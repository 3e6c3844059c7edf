import PageFlow.Actions.Http
import PageFlow.Pdf.Extractor

/-! Extracting data from a PDF: it is downloaded to a scratch directory of its own, handed to the
extractor, and the directory removed whatever happens. -/
namespace PageFlow
namespace Actions

open Engine

def extractIn (command : PdfCommand) (source : PdfSource) (body : Bytes) (scratch : Nat) :
    Attempt Json := do
  writeScratch scratch body
  let ended ← runExtractor command scratch source.extract
  ofAnswer (Pdf.result command ended)

def inScratch (work : Nat → Attempt τ) : Attempt τ := do
  let scratch ← newScratch
  let result ← outcome (work scratch)
  removeScratch scratch
  ofAnswer result

def extractPdf (command : Option PdfCommand) : Executor := fun c => do
  let p ← c.params ExtractPdfParams.read
  match p.source with
  | none => throw (.invalidStep c.step.action
      "only URL sources can be extracted (usingUrl must be true)")
  | some source =>
    match command with
    | none => throw (.pdf "no PDF extractor is configured")
    | some command => do
      let request := HttpRequest.get source.url c.config.httpTimeout
      let response ← fetchWithRetry c.session.api request c.config.httpRetry
      let extracted ← inScratch (extractIn command source response.body)
      pure (some (.value (.json extracted)))

end Actions
end PageFlow
