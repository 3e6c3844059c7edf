import PageFlow.Chromium.LoadWatch

/-! Pages of a browser: navigations, pictures, and their end. -/
namespace PageFlow
namespace Chromium

open DevTools

/-- An answer to a navigation; that one is refused is not noticed, so it is as if none came. -/
def noticed : Option (Except Fault Navigated) → Option (Except Fault Navigated)
  | some (.error (.refused _ _)) => none
  | r => r

/-- Answers the request of a proxy for credentials, if there are any. -/
def answerChallenge (p : Page) (credentials : Option (String × String))
    (challenge : Option String) : Remote Unit :=
  match credentials, challenge with
  | some (user, password), some request => do
    let _ ← send (.page p) (.continueRequest request)
    let _ ← send (.page p) (.continueWithAuth request user password)
    pure ()
  | _, _ => pure ()

/-- Goes to an address and waits for a milestone, both within one time limit. -/
def goto (credentials : Option (String × String)) (p : Page) (url : String) (waitUntil : LoadState)
    (timeout : Duration) : Remote (Engine.Answer Unit) := do
  let start ← now
  let deadline := start + timeout.toNanos
  let reply ← send (.page p) (.navigate url)
  match ← settle deadline start (noticed reply) with
  | none => pure (.error (.timeout ("navigation to " ++ url)))
  | some (.error f) => pure (.error (.navigation f.text))
  | some (.ok r) => do
    answerChallenge p credentials r.challenge
    match r.failure with
    | some text => pure (.error (.navigation text))
    | none => do
      let t ← now
      awaitLoad p waitUntil (max deadline t)

def reload (p : Page) : Remote (Engine.Answer Unit) := do
  match ← call (.page p) .reload with
  | .ok () => pure (.ok ())
  | .error f => pure (.error (.navigation f.text))

def picture (p : Page) : Remote (Except Fault Bytes) := do
  match ← call (.page p) .contentSize with
  | .error f => pure (.error f)
  | .ok (width, height) => do
    match ← call (.page p) (.viewport width height) with
    | .error f => pure (.error f)
    | .ok () => call (.page p) .screenshot

def screenshot (p : Page) : Remote (Engine.Answer Bytes) := do
  if ← isClosed p then pure (.error (.screenshot "page is closed"))
  else do
    match ← picture p with
    | .ok bytes => pure (.ok bytes)
    | .error f => pure (.error (.screenshot f.text))

/-- Closes a page, unless it counts as closed; from the attempt on it does. -/
def closePage (p : Page) : Remote (Engine.Answer Unit) := do
  if ← markClosed p then pure (.ok ())
  else do
    match ← call (.page p) .closeTarget with
    | .ok () => pure (.ok ())
    | .error f => pure (.error (.devTools f.text))

end Chromium
end PageFlow
