import PageFlow.Chromium.Remote

/-! Browsers: how one is started, and the pages that it opens. -/
namespace PageFlow
namespace Chromium

open DevTools

def plainSwitches : List String := ["disable-gpu", "disable-extensions", "metrics-recording-only",
  "mute-audio", "no-default-browser-check", "no-first-run",
  "disable-client-side-phishing-detection", "disable-popup-blocking", "disable-prompt-on-repost"]

def switches (c : BrowserConfig) : List String :=
  plainSwitches ++ ["no-sandbox"] ++ (if c.headless then ["headless=new"] else []) ++
    (c.proxy.toList.map fun p => "proxy-server=" ++ p.server)

def launch (c : BrowserConfig) : Remote (Engine.Answer Browser) := do
  match ← ask (.start c.chromePath (switches c)) with
  | .ok b => pure (.ok b)
  | .error text => pure (.error (.session ("failed to launch chromium: " ++ text)))

def credentials (c : BrowserConfig) : Option (String × String) := c.proxy.bind (·.credentials)

def openError (f : Fault) : Engine.Answer Page :=
  .error (.session ("failed to open page: " ++ f.text))

/-- Lets a page answer the requests of a proxy for credentials. It is listened to before it pauses
its requests, so that none is missed. -/
def prepareProxy (c : BrowserConfig) (p : Page) : Remote (Engine.Answer Page) := do
  if (credentials c).isSome then
    match ← ask (.listen p .authRequired) with
    | .error f => pure (.error (.session ("failed to listen for auth events: " ++ f.text)))
    | .ok () => do
      match ← ask (.listen p .requestPaused) with
      | .error f => pure (.error (.session ("failed to listen for paused requests: " ++ f.text)))
      | .ok () => do
        match ← call (.page p) .enableFetch with
        | .ok () => pure (.ok p)
        | .error f =>
          pure (.error (.session ("failed to enable fetch for proxy auth: " ++ f.text)))
  else pure (.ok p)

def newPage (c : BrowserConfig) (b : Browser) : Remote (Engine.Answer Page) := do
  match ← call (.browser b) (.createTarget "about:blank") with
  | .error f => pure (openError f)
  | .ok p => do
    match ← call (.page p) (.viewport c.viewportWidth c.viewportHeight) with
    | .error f => pure (openError f)
    | .ok () => prepareProxy c p

/-- Closes a browser. Whatever comes of it, the connection is given up. -/
def closeBrowser (b : Browser) : Remote (Engine.Answer Unit) := do
  let _ ← call (.browser b) .closeBrowser
  ask (.disconnect b)
  pure (.ok ())

end Chromium
end PageFlow
