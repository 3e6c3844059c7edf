import PageFlow.Engine.Op

/-! The part of the world that is the same for every driver: the shared state of a pool, the
scratch directories and the store. Its operations always succeed at once, a lookup of something
that was never saved apart. -/
namespace PageFlow

structure Host where
  pooled : Option Browser
  launches : Nat
  active : Nat
  /-- sessions neither released nor given up, newest first -/
  sessions : List Session
  sessionCount : Nat
  scratch : List (Nat × Bytes)
  scratchCount : Nat
  idCount : Nat
  /-- newest first -/
  flows : List FlowDefinition
  /-- oldest first -/
  results : List FlowResultRecord
deriving Inhabited

namespace Host

def start : Host := ⟨none, 0, 0, [], 0, [], 0, 0, [], []⟩

def freshId (count : Nat) : Uuid := Uuid.ofNat (2 ^ 100 + count)

def content (h : Host) (scratch : Nat) : Bytes := (h.scratch.lookup scratch).getD []

def findFlow (h : Host) (id : Uuid) : Except FlowError FlowDefinition :=
  match h.flows.find? fun f => f.id = id with
  | some f => .ok f
  | none => .error (.notFound ("flow " ++ id.text))

def findResult (h : Host) (id : Uuid) : Except FlowError FlowResultRecord :=
  match h.results.find? fun r => r.id = id with
  | some r => .ok r
  | none => .error (.notFound ("result " ++ id.text))

/-- The reply to an operation on the host's own state. -/
def answer? : (op : Engine.Op) → Option (Host → Engine.Reply op × Host)
  | .lockPool => some fun h => ((), h)
  | .unlockPool => some fun h => ((), h)
  | .pooled => some fun h => (h.pooled, h)
  | .setPooled b => some fun h => ((), { h with pooled := b })
  | .countLaunch => some fun h => ((), { h with launches := h.launches + 1 })
  | .enter p a => some fun h =>
    let s : Session := ⟨h.sessionCount + 1, p, a⟩
    (s, { h with active := h.active + 1, sessionCount := h.sessionCount + 1,
                 sessions := s :: h.sessions })
  | .leave _ => some fun h => ((), { h with active := h.active - 1 })
  | .markReleased s => some fun h =>
    (!(h.sessions.any fun t => t.number = s.number),
      { h with sessions := h.sessions.filter fun t => t.number ≠ s.number })
  | .newScratch => some fun h =>
    (.ok (h.scratchCount + 1), { h with scratch := (h.scratchCount + 1, []) :: h.scratch,
                                        scratchCount := h.scratchCount + 1 })
  | .writeScratch n content => some fun h =>
    (.ok (), { h with scratch := (n, content) :: h.scratch.filter fun s => s.1 ≠ n })
  | .removeScratch n => some fun h =>
    ((), { h with scratch := h.scratch.filter fun s => s.1 ≠ n })
  | .freshId => some fun h => (freshId (h.idCount + 1), { h with idCount := h.idCount + 1 })
  | .saveFlow f => some fun h => ((), { h with flows := f :: h.flows })
  | .loadFlow id => some fun h => (h.findFlow id, h)
  | .saveResult r => some fun h => ((), { h with results := h.results ++ [r] })
  | .loadResult id => some fun h => (h.findResult id, h)
  | .resultsFor user => some fun h => (h.results.filter fun r => r.userId = user, h)
  | _ => none

end Host
end PageFlow
