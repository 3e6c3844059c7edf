import PageFlow.DevTools.Call
import PageFlow.Engine.Op
import PageFlow.Config

/-! Programs of the backend that drives a browser over its debugging protocol. They send calls and
look at the clock; what is no affair of the browser they hand on to the host. A call may stay
without an answer for ever; whoever waits for one waits for 30 s at most, or up to a deadline. -/
namespace PageFlow
namespace Chromium

open DevTools

inductive Op where
  /-- starts a browser; without a path the one that the system has -/
  | start (executable : Option String) (switches : List String)
  | send (t : Target) (c : Call)
  /-- has the events of a page handed on from now on -/
  | listen (p : Page) (e : Event)
  | isConnected (b : Browser)
  | disconnect (b : Browser)
  | isClosed (p : Page)
  | markClosed (p : Page)
  /-- a number never given before -/
  | fresh
  | now
  | sleep (d : Duration)
  | openClient (proxy : Option ProxyConfig)
  | host (op : Engine.Op)

def Reply : Op → Type
  | .start _ _ => Except String Browser
  | .send _ c => Option (Except Fault (Returns c))
  | .listen _ _ => Except Fault Unit
  | .isConnected _ => Bool
  | .disconnect _ => Unit
  | .isClosed _ => Bool
  | .markClosed _ => Bool
  | .fresh => Nat
  | .now => Instant
  | .sleep _ => Unit
  | .openClient _ => Engine.Answer ApiContext
  | .host op => Engine.Reply op

abbrev Remote (α : Type) := Prog Op Reply α

def ask (op : Op) : Remote (Reply op) := Prog.call op

def now : Remote Instant := ask .now
def sleep (d : Duration) : Remote Unit := ask (.sleep d)
def fresh : Remote Nat := ask .fresh
def isClosed (p : Page) : Remote Bool := ask (.isClosed p)

def markClosed (p : Page) : Remote Bool := ask (.markClosed p)

def sleepUntil (t : Instant) : Remote Unit := do
  let start ← now
  sleep (.ofNanos (t - start))

/-- Sends a call and does not wait. -/
def send (t : Target) (c : Call) : Remote (Option (Except Fault (Returns c))) := ask (.send t c)

/-- How long a call is waited for, in nanoseconds. -/
def patience : Nat := 30 * 10 ^ 9

def call (t : Target) (c : Call) : Remote (Except Fault (Returns c)) := do
  match ← send t c with
  | some r => pure r
  | none => do
    sleep (.ofNanos patience)
    pure (.error .timedOut)

/-- The answer to a call that was sent at a moment, waited for up to a deadline. That a connection
is closed shows at once; anything else has to be waited for, which is too late at the deadline. An
answer that is not there when the deadline is reached is the missing one, so it is only the moment
of sending that is compared with the deadline. -/
def settle (deadline start : Instant) (r : Option (Except Fault τ)) :
    Remote (Option (Except Fault τ)) :=
  match r with
  | some (.error .gone) => pure (some (.error .gone))
  | some r => pure (if deadline ≤ start then none else some r)
  | none => do
    if deadline ≤ start + patience then
      sleepUntil deadline
      pure none
    else do
      sleepUntil (start + patience)
      pure (some (.error .timedOut))

/-- Sends a call and waits for what it returns, up to a deadline. -/
def callBy (deadline : Instant) (t : Target) (c : Call) :
    Remote (Option (Except Fault (Returns c))) := do
  let start ← now
  let r ← send t c
  settle deadline start r

end Chromium
end PageFlow
