import PageFlow.Engine.Op

/-! The pool of one browser that sessions share. The browser is launched on first use, and again
when it is found disconnected; each session gets a page and a request context of its own. -/
namespace PageFlow
namespace Pool

open Engine

def launchError : FlowError → FlowError
  | .session text => .session text
  | e => .session ("failed to launch browser: " ++ e.message)

def openError (e : FlowError) : FlowError := .session ("failed to open page: " ++ e.message)
def apiError (e : FlowError) : FlowError :=
  .session ("failed to create API context: " ++ e.message)

def mapError (f : FlowError → FlowError) (a : Attempt τ) : Attempt τ := do
  match ← outcome a with
  | .ok v => pure v
  | .error e => throw (f e)

/-- Takes the pooled browser away, closes it and launches another. -/
def relaunch : Attempt Browser := do
  match ← pooled with
  | some stale => do
    setPooled none
    let _ ← outcome (closeBrowser stale)
  | none => pure ()
  let browser ← mapError launchError launch
  countLaunch
  setPooled (some browser)
  pure browser

/-- The pooled browser if it is connected, else a new one. -/
def connected : Attempt Browser := do
  match ← pooled with
  | some browser => if ← isConnected browser then pure browser else relaunch
  | none => relaunch

/-- A page of the browser, or of a new one if the browser is lost meanwhile. -/
def openPage (browser : Browser) : Attempt (Browser × Page) := do
  match ← outcome (newPage browser) with
  | .ok page => pure (browser, page)
  | .error e =>
    if ← isConnected browser then throw (openError e)
    else do
      let browser ← relaunch
      let page ← mapError openError (newPage browser)
      pure (browser, page)

def openApi (browser : Browser) (page : Page) : Attempt ApiContext := do
  match ← outcome (newApi browser) with
  | .ok api => pure api
  | .error e => do
    let _ ← outcome (closePage page)
    throw (apiError e)

def prepare : Attempt (Page × ApiContext) := do
  let browser ← connected
  let (browser, page) ← openPage browser
  let api ← openApi browser page
  pure (page, api)

def acquire : Attempt Session := do
  lockPool
  let prepared ← outcome prepare
  unlockPool
  let (page, api) ← ofAnswer prepared
  enter page api

/-- Gives a session up without release: its page is closed later. -/
def discard (s : Session) : Attempt Unit := do
  if ← markReleased s then pure ()
  else do
    leave s
    closePageLater s.page

def release (s : Session) : Attempt Unit := do
  let _ ← markReleased s
  leave s
  let closed ← outcome (do if ← isClosed s.page then pure () else closePage s.page)
  discard s
  ofAnswer closed

/-- Closes the pooled browser; sessions keep their pages. -/
def shutdown : Attempt Unit := do
  lockPool
  let browser ← pooled
  setPooled none
  unlockPool
  match browser with
  | some b => closeBrowser b
  | none => pure ()

end Pool
end PageFlow
