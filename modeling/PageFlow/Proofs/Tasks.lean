import PageFlow.Proofs.Hosting
import PageFlow.Proofs.PoolCalls
import PageFlow.Proofs.Rules

/-! Tasks that share a pool. Each of them makes one call of the pool; they go on one operation at a
time, in any order. The host and the lock are the same for all, and the driver answers at will.
A session that was taken is released or dropped by one task at most. A call that waits may be given
up; what it holds is then given back. -/
namespace PageFlow

open Engine
open Prog (Begins Exec)

def Engine.Op.isAwaited : Op → Bool
  | .lockPool | .launch | .newPage _ | .newApi _ | .closeBrowser _ | .closePage _ => true
  | _ => false

def Engine.locks (log : Log) : Bool :=
  log.foldl (fun locked x => match x.op with
    | .lockPool => true
    | .unlockPool => false
    | _ => locked) false

namespace Pool

/-- What can be asked of a pool. A session is dropped when its owner ends without releasing it. -/
inductive Call where
  | acquire
  | release (s : Session)
  | drop (s : Session)
  | shutdown

namespace Call

def session? : Call → Option Session
  | release s | drop s => some s
  | _ => none

def isShutdown : Call → Bool
  | shutdown => true
  | _ => false

def Value : Call → Type
  | acquire => Session
  | _ => Unit

def attempt : (c : Call) → Attempt c.Value
  | acquire => Pool.acquire
  | release s => Pool.release s
  | drop s => Pool.discard s
  | shutdown => Pool.shutdown

/-- What is done when the call is given up after these operations: the lock and the session that
it held are let go. -/
def cleanup (c : Call) (log : Log) : Attempt Unit :=
  match c.session? with
  | some s => Pool.discard s
  | none => if locks log then unlockPool else pure ()

end Call

/-- A call on its way. -/
structure Task where
  call : Call
  log : Log
  /-- the operations since the call was given up, if it was -/
  cleared : Option Log

namespace Task

def calls (t : Task) : Log := t.log ++ t.cleared.getD []

/-- The task goes on by one operation. -/
inductive Makes : Task → Exchange → Task → Prop where
  | own {call log x} : Begins call.attempt.run (log ++ [x]) →
      Makes ⟨call, log, none⟩ x ⟨call, log ++ [x], none⟩
  | clear {call log done x} : Begins (call.cleanup log).run (done ++ [x]) →
      Makes ⟨call, log, some done⟩ x ⟨call, log, some (done ++ [x])⟩

theorem Makes.call_eq {t t' : Task} {x : Exchange} (h : t.Makes x t') : t'.call = t.call := by
  cases h <;> rfl

theorem Makes.calls_eq {t t' : Task} {x : Exchange} (h : t.Makes x t') :
    t'.calls = t.calls ++ [x] := by
  cases h <;> simp [calls]

/-- The call waits before its first operation or at its next, so that it can be given up. -/
inductive Waits : Task → Prop where
  | start {s} : Waits ⟨.release s, [], none⟩
  | next {call log x} : Begins call.attempt.run (log ++ [x]) → x.op.isAwaited = true →
      Waits ⟨call, log, none⟩

def Over (t : Task) : Prop :=
  match t.cleared with
  | none => ∃ r, Ends t.call.attempt t.log r
  | some done => ∃ r, Ends (t.call.cleanup t.log) done r

end Task

/-- A pool with its tasks; the holder of the lock is given by its place among the tasks. -/
structure System where
  host : Host
  holder : Option Nat
  tasks : List Task

namespace System

def start : System := ⟨.start, none, []⟩

def handed (σ : System) : List Session := σ.tasks.flatMap fun t => entered t.calls

def grant (i : Nat) (holder : Option Nat) : Op → Option Nat
  | .lockPool => some i
  | .unlockPool => none
  | _ => holder

inductive Step : System → System → Prop where
  | begin {σ : System} (c : Call) :
      (∀ s, c.session? = some s → s ∈ σ.handed ∧ ∀ t ∈ σ.tasks, t.call.session? ≠ some s) →
      Step σ { σ with tasks := σ.tasks ++ [⟨c, [], none⟩] }
  | act {σ : System} {i t x t' host} : σ.tasks[i]? = some t → t.Makes x t' →
      σ.host.Serves x host → (x.op = .lockPool → σ.holder = none) →
      Step σ ⟨host, grant i σ.holder x.op, σ.tasks.set i t'⟩

/-- A waiting call is given up by whoever made it. -/
inductive Cancel : System → System → Prop where
  | mk {σ : System} {i t} : σ.tasks[i]? = some t → t.Waits →
      Cancel σ { σ with tasks := σ.tasks.set i { t with cleared := some [] } }

/-- What can come about by calls in any order. -/
def Reachable : System → Prop := Relation.ReflTransGen Step start

/-- What can come about when calls may also be given up. -/
def ReachableWithCancels : System → Prop :=
  Relation.ReflTransGen (fun σ σ' => Step σ σ' ∨ Cancel σ σ') start

/-- No operation of the log waits for the lock in vain. -/
def Lockable (i : Nat) : Option Nat → Log → Prop
  | _, [] => True
  | holder, x :: log => (x.op = .lockPool → holder = none) ∧ Lockable i (grant i holder x.op) log

/-- A task may go on for some time without interruption. -/
theorem steps_alone {σ : System} {i : Nat} {c : Call} {log more : Log} {host : Host}
    (ht : σ.tasks[i]? = some ⟨c, log, none⟩) (hb : Begins c.attempt.run (log ++ more))
    (hp : σ.host.Plays Eq more host) (hl : Lockable i σ.holder more) :
    Relation.ReflTransGen Step σ
      ⟨host, more.foldl (fun holder x => grant i holder x.op) σ.holder,
        σ.tasks.set i ⟨c, log ++ more, none⟩⟩ := by
  induction more generalizing σ log with
  | nil =>
    cases hp
    obtain ⟨hi, he⟩ := List.getElem?_eq_some_iff.mp ht
    rw [List.append_nil, ← he, List.set_getElem_self]
    exact .refl
  | cons x more ih =>
    obtain ⟨_, h₂, rfl, hs, hr⟩ := Host.plays_cons_iff.mp hp
    rw [← List.singleton_append, ← List.append_assoc] at hb ⊢
    have hi := (List.getElem?_eq_some_iff.mp ht).1
    have hstep := Step.act ht (.own hb.left) hs hl.1
    have hsteps := @ih ⟨h₂, grant i σ.holder x.op, σ.tasks.set i _⟩ _
      (List.getElem?_set_self hi) hb hr hl.2
    rw [List.set_set] at hsteps
    exact .head hstep hsteps

theorem flatMap_set_perm {tasks : List Task} {i : Nat} {t : Task} (ht : tasks[i]? = some t)
    (t' : Task) (f : Task → List α) :
    (f t ++ (tasks.set i t').flatMap f).Perm (f t' ++ tasks.flatMap f) := by
  induction tasks generalizing i with
  | nil => cases ht
  | cons u rest ih =>
    cases i with
    | zero =>
      obtain rfl := Option.some.inj ht
      simp only [List.set_cons_zero, List.flatMap_cons]
      exact List.perm_append_comm_assoc _ _ _
    | succ i =>
      simp only [List.set_cons_succ, List.flatMap_cons]
      exact (List.perm_append_comm_assoc _ _ _).trans
        (((ih ht).append_left (f u)).trans (List.perm_append_comm_assoc _ _ _))

theorem flatMap_set_perm_of_append {tasks : List Task} {i : Nat} {t t' : Task}
    {f : Task → List α} {more : List α} (ht : tasks[i]? = some t) (hf : f t' = f t ++ more) :
    ((tasks.set i t').flatMap f).Perm (more ++ tasks.flatMap f) := by
  have hp := flatMap_set_perm ht t' f
  rw [hf, List.append_assoc] at hp
  exact (List.perm_append_left_iff _).mp hp

def gather (f : Call → Exchange → List α) (tasks : List Task) : List α :=
  tasks.flatMap fun t => t.calls.flatMap (f t.call)

section Gather

variable {tasks : List Task} {f : Call → Exchange → List α}

theorem gather_act {i : Nat} {t t' : Task} {x : Exchange} (ht : tasks[i]? = some t)
    (hm : t.Makes x t') : (gather f (tasks.set i t')).Perm (f t.call x ++ gather f tasks) := by
  refine flatMap_set_perm_of_append ht ?_
  rw [hm.calls_eq, hm.call_eq, List.flatMap_append, List.flatMap_singleton]

theorem gather_begin (c : Call) : gather f (tasks ++ [⟨c, [], none⟩]) = gather f tasks := by
  simp [gather, Task.calls]

theorem Step.gather {σ σ' : System} (h : Step σ σ') :
    ∃ more, (gather f σ'.tasks).Perm (more ++ gather f σ.tasks) := by
  cases h with
  | begin c => exact ⟨[], by rw [gather_begin]; rfl⟩
  | act ht hm => exact ⟨_, gather_act ht hm⟩

theorem steps_gather {σ σ' : System} (h : Relation.ReflTransGen Step σ σ') :
    ∃ more, (gather f σ'.tasks).Perm (more ++ gather f σ.tasks) := by
  induction h with
  | refl => exact ⟨[], .refl _⟩
  | tail _ hstep ih =>
    obtain ⟨first, hf⟩ := ih
    obtain ⟨second, hs⟩ := hstep.gather (f := f)
    exact ⟨second ++ first, by rw [List.append_assoc]; exact hs.trans (hf.append_left second)⟩

end Gather

theorem Reachable.withCancels {σ : System} (h : σ.Reachable) : σ.ReachableWithCancels :=
  Relation.ReflTransGen.mono (fun _ _ hs => Or.inl hs) _ _ h

theorem reachable_firstAcquire :
    Reachable ⟨Host.start.after firstAcquire, none, [⟨.acquire, firstAcquire, none⟩]⟩ := by
  have hp : Host.start.Plays Eq firstAcquire (Host.start.after firstAcquire) := by
    repeat (first | exact .nil _ | refine .cons rfl ⟨rfl, by rintro f hf; cases hf <;> rfl⟩ ?_)
  have hs := steps_alone (σ := ⟨.start, none, [⟨.acquire, [], none⟩]⟩) (i := 0) (c := .acquire) rfl
    ends_firstAcquire.begins hp (by simp [Lockable, grant])
  exact .head (.begin .acquire nofun) hs

end System
end Pool
end PageFlow
