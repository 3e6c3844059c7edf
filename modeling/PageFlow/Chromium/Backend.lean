import PageFlow.Chromium.Browser
import PageFlow.Chromium.Page
import PageFlow.Chromium.Lookup
import PageFlow.Chromium.Element

/-! The operations of the engine on a browser that is driven over its debugging protocol. -/
namespace PageFlow
namespace Chromium

/-- The program for an operation, with a browser of this configuration. -/
def backend (c : BrowserConfig) : (op : Engine.Op) → Remote (Engine.Reply op)
  | .launch => launch c
  | .newPage b => newPage c b
  | .newApi _ => ask (.openClient c.proxy)
  | .isConnected b => ask (.isConnected b)
  | .closeBrowser b => closeBrowser b
  | .goto p url waitUntil timeout => goto (credentials c) p url waitUntil timeout
  | .reload p => reload p
  | .load p state timeout => load p state timeout
  | .loads p first second third timeout => loads p first second third timeout
  | .query root kind selector => query root kind selector
  | .evaluate p expression => evaluate p expression
  | .evaluateWithin p expression timeout => evaluateWithin p expression timeout
  | .screenshot p => screenshot p
  | .isClosed p => isClosed p
  | .closePage p => closePage p
  | .closePageLater p => do
    let _ ← closePage p
    pure ()
  | .text e => text e
  | .attributeOf e name => attributeOf e name
  | .isVisible e => isVisible e
  | .isEditable e => isEditable e
  | .click e => click e
  | .fill e text => fill e text
  | .scrollIntoView e => scrollIntoView e
  | .rows e => rows e
  | .now => now
  | .sleep d => sleep d
  | op => ask (.host op)

/-- A program of the engine, run with a browser of this configuration. -/
def remote (c : BrowserConfig) (t : Job τ) : Remote τ := t.expand (backend c)

end Chromium
end PageFlow
