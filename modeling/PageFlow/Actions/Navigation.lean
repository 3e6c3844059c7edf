import PageFlow.Engine.Context
import PageFlow.Engine.Locator
import PageFlow.Engine.Repeat

/-! Actions that move between pages or wait for one: navigations, milestones of a load, elements
that have to disappear. -/
namespace PageFlow
namespace Actions

open Engine

/-- Waits for three milestones side by side, whatever becomes of them, and then for a body. -/
def awaitFullLoad (p : Page) (timeout : Duration) : Attempt Unit := do
  let _ ← loads p .domContentLoaded .networkIdle .load timeout
  let _ ← Locator.resolve (.page p) .css "body" ⟨timeout, false, .attached, true⟩
  pure ()

/-- An attempt to navigate; every one but the first reloads the page before. -/
def navigateOnce (p : Page) (url : String) (waitUntil : LoadState) (timeout : Duration)
    (attempt : Nat) : Attempt Unit := do
  if 0 < attempt then
    let _ ← outcome (reload p)
  goto p url waitUntil timeout

def navigate : Executor := fun c => do
  let p ← c.params NavigateParams.read
  let standard := c.config.navigationRetry
  let policy := standard.withRetries (p.retries.getD standard.retries)
  let timeout := Duration.ofSeconds p.timeout
  withRetryNamed ("navigate to " ++ p.url) policy (navigateOnce c.page p.url p.waitUntil timeout)
  if p.waitForFullLoad then awaitFullLoad c.page timeout
  pure none

def loadWait (config : EngineConfig) : Option WaitForLoadParams → LoadState × Duration
  | some (.seconds timeout) => (.load, .ofSeconds timeout)
  | some (.state state timeout) => (state, .ofSeconds timeout)
  | none => (.load, config.browser.defaultTimeout)

def waitForLoad : Executor := fun c => do
  let p ← c.paramsOr (Json.optional WaitForLoadParams.read) none
  let (state, timeout) := loadWait c.config p
  load c.page state timeout
  pure none

def waitForFullLoad : Executor := fun c => do
  let p ← c.paramsOr (Json.optional Json.double) none
  awaitFullLoad c.page ((p.map Duration.ofSeconds).getD c.config.fullLoadTimeout)
  pure none

def waitForDisappearance : Executor := fun c => do
  let p ← c.params WaitForDisappearanceParams.read
  let standard := c.config.disappearanceRetry
  let policy := standard.withRetries (p.options.maxRetries.getD standard.retries)
  let timeout := (p.options.timeout.map Duration.ofSeconds).getD c.config.disappearanceTimeout
  withRetryNamed ("waiting for " ++ p.by_.describe p.locator ++ " to disappear") policy fun _ =>
    Locator.waitUntilDetached c.page p.by_ p.locator timeout
  pure none

end Actions
end PageFlow
