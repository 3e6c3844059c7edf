import PageFlow.Engine.Op

/-! Lookups that wait. A lookup is repeated every 100 ms and a last time at its deadline, at least
once; a driver error counts as an answer that is not ready. -/
namespace PageFlow
namespace Locator

open Engine

structure Options where
  timeout : Duration
  multiple : Bool
  waitState : WaitState
  /-- fail when nothing is found -/
  strict : Bool
deriving DecidableEq, Repr

def Options.default : Options := ⟨.ofSecs 5, false, .attached, false⟩

inductive Resolved where
  | none
  | one (e : Element)
  | many (all : List Element)
deriving Inhabited

namespace Resolved

def toList : Resolved → List Element
  | none => []
  | one e => [e]
  | many all => all

def length (r : Resolved) : Nat := r.toList.length
def isEmpty (r : Resolved) : Bool := r.length = 0

end Resolved

/-- Time between two polls, in nanoseconds. -/
def interval : Nat := 100 * 10 ^ 6

/-- Polls after the first that a timeout has room for. -/
def pollBound (timeout : Duration) : Nat := (timeout.toNanos + interval - 1) / interval

/-- The visible ones among candidates, in order; of a single lookup only the first. -/
def visibleOf (multiple : Bool) : List Element → Attempt (List Element)
  | [] => pure []
  | e :: rest => do
    if ← isVisible e then
      if multiple then do
        let more ← visibleOf multiple rest
        pure (e :: more)
      else pure [e]
    else visibleOf multiple rest

def ready (o : Options) (candidates : List Element) : Attempt (List Element) :=
  match o.waitState with
  | .attached => pure (if o.multiple then candidates else candidates.take 1)
  | .visible => visibleOf o.multiple candidates

def poll (root : Root) (kind : SelectorKind) (selector : String) (o : Options) :
    Attempt (List Element) := do
  let candidates ← query root kind selector
  ready o candidates

/-- Repeats a check until it yields a value, every 100 ms and once at the deadline; at most so many
repetitions follow the first. -/
def pollUntil (check : Attempt (Option τ)) (deadline : Instant) : Nat → Attempt (Option τ)
  | 0 => check
  | left + 1 => do
    match ← check with
    | some v => pure (some v)
    | none => do
      let t ← now
      if deadline ≤ t then pure none
      else do
        sleep (.ofNanos (min interval (deadline - t)))
        pollUntil check deadline left

/-- Waits for a check for as long as a timeout lasts. There is a deadline for every timeout, as the
clock has no end. -/
def waitFor (check : Attempt (Option τ)) (timeout : Duration) : Attempt (Option τ) := do
  let start ← now
  pollUntil check (start + timeout.toNanos) (pollBound timeout)

def found (root : Root) (kind : SelectorKind) (selector : String) (o : Options) :
    Attempt (Option (List Element)) := do
  match ← outcome (poll root kind selector o) with
  | .ok [] => pure none
  | .ok (e :: rest) => pure (some (e :: rest))
  | .error _ => pure none

/-- The first poll that is ready decides. A failure names the timeout in whole milliseconds, which
are not cut to 64 bits. -/
def resolve (root : Root) (kind : SelectorKind) (selector : String) (o : Options) :
    Attempt Resolved := do
  match ← waitFor (found root kind selector o) o.timeout with
  | some all =>
    pure (if o.multiple then .many all else match all with
      | e :: _ => .one e
      | [] => .none)
  | none =>
    if o.strict then throw (.locatorTimeout (kind.describe selector) o.timeout.toMillis)
    else pure (if o.multiple then .many [] else .none)

/-- Whether a lookup has answered that nothing matches. -/
def gone (p : Page) (kind : SelectorKind) (selector : String) : Attempt (Option Unit) := do
  match ← outcome (query (.page p) kind selector) with
  | .ok [] => pure (some ())
  | .ok (_ :: _) => pure none
  | .error _ => pure none

/-- Waits until nothing on the page matches. A failure names the timeout as a lookup does. -/
def waitUntilDetached (p : Page) (kind : SelectorKind) (selector : String) (timeout : Duration) :
    Attempt Unit := do
  match ← waitFor (gone p kind selector) timeout with
  | some () => pure ()
  | none => throw (.timeout
      (kind.describe selector ++ " to disappear within " ++ toString timeout.toMillis ++ "ms"))

def seen (e : Element) : Attempt (Option Unit) := do
  match ← outcome (isVisible e) with
  | .ok true => pure (some ())
  | .ok false => pure none
  | .error _ => pure none

/-- Waits until an element is visible. A failure names the timeout as a lookup does. -/
def waitUntilVisible (e : Element) (timeout : Duration) : Attempt Unit := do
  match ← waitFor (seen e) timeout with
  | some () => pure ()
  | none => throw (.element
      (e.description ++ " did not become visible within " ++ toString timeout.toMillis ++ "ms"))

end Locator
end PageFlow
