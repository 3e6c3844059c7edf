import PageFlow.Chromium.Script
import PageFlow.Params

/-! Waits for a milestone of a load. The page is probed every 100 ms. It is ready when its
document says so; the network is idle when the document is complete and the number of resources
has not changed between probes that lie 500 ms apart. -/
namespace PageFlow
namespace Chromium

open DevTools

def probeScript : String :=
  "[document.readyState, performance.getEntriesByType('resource').length]"

structure Probe where
  ready : String
  resources : Nat
deriving DecidableEq, Repr, Inhabited

/-- What a probe tells; of an answer of another form, a page that loads. -/
def Probe.ofJson (j : Json) : Probe :=
  ⟨((j.at? 0).bind Json.text?).getD "loading", ((j.at? 1).bind Json.nat?).getD 0⟩

/-- The number of resources last seen, and since when it has been so. -/
structure Quiet where
  count : Option Nat
  since : Instant
deriving DecidableEq, Repr, Inhabited

def Quiet.observe (q : Quiet) (count : Nat) (t : Instant) : Quiet :=
  if q.count = some count then q else ⟨some count, t⟩

def quietTime : Nat := 500 * 10 ^ 6

def reached (state : LoadState) (probe : Probe) (q : Quiet) (t : Instant) : Bool :=
  match state with
  | .domContentLoaded => probe.ready ≠ "loading"
  | .load => probe.ready = "complete"
  | .networkIdle => probe.ready = "complete" && q.since + quietTime ≤ t

/-- A wait after some probes: it goes on, hangs on a probe until a moment, or has ended. -/
inductive Watch where
  | looking (q : Quiet)
  | stuck (stop : Instant) (r : Engine.Answer Unit)
  | ended (r : Engine.Answer Unit)

def Watch.start (t : Instant) : Watch := .looking ⟨none, t⟩

def Watch.observe (state : LoadState) (q : Quiet) (probe : Probe) (t : Instant) : Watch :=
  let q := q.observe probe.resources t
  if reached state probe q t then .ended (.ok ()) else .looking q

def late (state : LoadState) : Engine.Answer Unit :=
  .error (.timeout ("load state " ++ state.title))

/-- One probe, waited for up to the deadline. An answer that is not there when the deadline is
reached is the missing one, and the wait hangs; so any answer to a probe sent before it counts. -/
def probe (p : Page) (state : LoadState) (deadline : Instant) (q : Quiet) : Remote Watch := do
  let start ← now
  match ← send (.page p) (.evaluate probeScript) with
  | none =>
    pure (if deadline ≤ start + patience then .stuck deadline (late state)
      else .stuck (start + patience) (.error (.script Fault.timedOut.text)))
  | some (.error .gone) => pure (.ended (.error (.script Fault.gone.text)))
  | some r =>
    if deadline ≤ start then pure (.ended (late state))
    else match evaluated r with
      | .error e => pure (.ended (.error e))
      | .ok j => do
        let t ← now
        pure (.observe state q (.ofJson j) t)

def Watch.advance (p : Page) (state : LoadState) (deadline : Instant) : Watch → Remote Watch
  | .looking q => probe p state deadline q
  | w => pure w

/-- Time between two probes, in nanoseconds. -/
def probeInterval : Nat := 100 * 10 ^ 6

/-- Waits for the next probe, and says whether it comes before the deadline. -/
def pause (deadline : Instant) : Remote Bool := do
  let t ← now
  if deadline < t + probeInterval then
    sleep (.ofNanos (deadline - t))
    pure false
  else
    sleep (.ofNanos probeInterval)
    pure true

/-- Probes that a wait has room for after the first. -/
def probeBound (deadline start : Instant) : Nat := (deadline - start) / probeInterval + 1

def watchLoad (p : Page) (state : LoadState) (deadline : Instant) :
    Nat → Watch → Remote (Engine.Answer Unit)
  | 0, _ => pure (late state)
  | left + 1, w => do
    match ← w.advance p state deadline with
    | .ended r => pure r
    | .stuck stop r => do
      sleepUntil stop
      pure r
    | .looking q => do
      if ← pause deadline then watchLoad p state deadline left (.looking q)
      else pure (late state)

def awaitLoad (p : Page) (state : LoadState) (deadline : Instant) :
    Remote (Engine.Answer Unit) := do
  let start ← now
  watchLoad p state deadline (probeBound deadline start + 1) (.start start)

def load (p : Page) (state : LoadState) (timeout : Duration) : Remote (Engine.Answer Unit) := do
  let start ← now
  awaitLoad p state (start + timeout.toNanos)

def Watch.isLooking : Watch → Bool
  | .looking _ => true
  | _ => false

def Watch.finish (state : LoadState) : Watch → Remote (Engine.Answer Unit)
  | .looking _ => pure (late state)
  | .stuck stop r => do
    sleepUntil stop
    pure r
  | .ended r => pure r

/-- A round of three waits side by side: those that still look probe, one after the other, and pause
together. It says whether there is time for another round. -/
def probeAll (p : Page) (s₁ s₂ s₃ : LoadState) (deadline : Instant) (a b c : Watch) :
    Remote (Bool × Watch × Watch × Watch) := do
  let a ← a.advance p s₁ deadline
  let b ← b.advance p s₂ deadline
  let c ← c.advance p s₃ deadline
  let again ← (if a.isLooking || b.isLooking || c.isLooking then pause deadline else pure false)
  pure (again, a, b, c)

def finishAll (s₁ s₂ s₃ : LoadState) (a b c : Watch) :
    Remote (Engine.Answer Unit × Engine.Answer Unit × Engine.Answer Unit) := do
  let a ← a.finish s₁
  let b ← b.finish s₂
  let c ← c.finish s₃
  pure (a, b, c)

def watchAll (p : Page) (s₁ s₂ s₃ : LoadState) (deadline : Instant) :
    Nat → Watch → Watch → Watch →
      Remote (Engine.Answer Unit × Engine.Answer Unit × Engine.Answer Unit)
  | 0, a, b, c => do
    let (_, a, b, c) ← probeAll p s₁ s₂ s₃ deadline a b c
    finishAll s₁ s₂ s₃ a b c
  | left + 1, a, b, c => do
    let (again, a, b, c) ← probeAll p s₁ s₂ s₃ deadline a b c
    if again then watchAll p s₁ s₂ s₃ deadline left a b c else finishAll s₁ s₂ s₃ a b c

def loads (p : Page) (s₁ s₂ s₃ : LoadState) (timeout : Duration) :
    Remote (Engine.Answer Unit × Engine.Answer Unit × Engine.Answer Unit) := do
  let asked ← now
  let deadline := asked + timeout.toNanos
  let start ← now
  watchAll p s₁ s₂ s₃ deadline (probeBound deadline start)
    (.start start) (.start start) (.start start)

end Chromium
end PageFlow
