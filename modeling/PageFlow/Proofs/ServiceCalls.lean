import PageFlow.Engine.Service
import PageFlow.Proofs.PoolCalls
import PageFlow.Proofs.Rules
import PageFlow.Proofs.StepCalls

/-! What the calls of the service do to the store. A run looks up at most one flow, and only the
last operation of a call stores something: a flow that was found valid, or the record of a run with
a report, whatever the report says. A call that fails stores nothing. -/
namespace PageFlow

open Engine
open Prog (Begins Exec)

namespace Engine

def Op.isOfStore : Op → Bool
  | .saveFlow _ | .loadFlow _ | .saveResult _ | .loadResult _ | .resultsFor _ => true
  | _ => false

theorem Op.isOfStore_of_isOfPool {op : Op} (h : op.isOfPool = true) : op.isOfStore = false := by
  cases op <;> first | rfl | cases h

theorem Op.isOfStore_of_isOfStep {op : Op} (h : op.isOfStep = true) : op.isOfStore = false := by
  cases op <;> first | rfl | cases h

end Engine

namespace Interpreter

/-- The executors of the interpreter leave the store alone. -/
def LeavesStore (i : Interpreter) : Prop :=
  ∀ c, AsksOnly (fun op => op.isOfStore = false) (i.registry.execute c)

theorem leavesStore_standard (config : EngineConfig) : (standard config).LeavesStore :=
  fun c => (keepsToSteps_standard config c).mono fun _ => Op.isOfStore_of_isOfStep

/-- A run leaves the store alone. It fails if its steps are not valid or no session can be had, and
never because of a step. -/
theorem confined_run {i : Interpreter} (hi : i.LeavesStore) (request : FlowRequest) :
    Confined (fun op => op.isOfStore = false)
      (fun e => Grammar.validate request.steps = .error e ∨ Pool.IsSession e) (i.run request) := by
  have ha (log : Log) (r : Except FlowError Session) (h : Ends Pool.acquire log r) :
      (∀ x ∈ log, x.op.isOfStore = false) ∧
        ∀ e, r = .error e → Grammar.validate request.steps = .error e ∨ Pool.IsSession e := by
    obtain ⟨ho, he⟩ := Pool.confined_acquire log r h
    exact ⟨fun x hx => Op.isOfStore_of_isOfPool (ho x hx), fun e hr => Or.inr (he e hr)⟩
  refine confined_bind (confined_ofAnswer fun e he => Or.inl he) fun _ => ?_
  refine confined_bind ha fun session => ?_
  refine confined_bind (a := ExceptT.lift (i.runSteps session request.steps)) ?_ fun report => ?_
  · intro log r hr
    refine ⟨(asksOnly_runSteps (fun op => op.isOfStore = false) rfl rfl hi session
      request.steps log r hr).1, fun e he => ?_⟩
    obtain ⟨v, rfl, -⟩ := (ends_lift_iff _ _).mp hr
    cases he
  · have hl := (Pool.asksOnly_release session).mono fun _ => Op.isOfStore_of_isOfPool
    exact confined_bind (confined_outcome hl) fun _ => confined_pure _

end Interpreter

namespace Service

variable {i : Interpreter}

/-- All ways in which a request can be run and its report be kept. -/
inductive Recorded (i : Interpreter) (flowId : Option Uuid) (request : FlowRequest)
    (user : String) : Log → Except FlowError FlowResultRecord → Prop where
  | failed {log e} : Ends (i.run request) log (.error e) →
      Recorded i flowId request user log (.error e)
  | kept {body report} (id created) : Ends (i.run request) body (.ok report) →
      Recorded i flowId request user
        (body ++ [⟨.freshId, id⟩, ⟨.date, created⟩,
          ⟨.saveResult ⟨id, flowId, user, created, report⟩, ()⟩])
        (.ok ⟨id, flowId, user, created, report⟩)

theorem ends_execute_iff {flowId : Option Uuid} {request : FlowRequest} {user : String} {log : Log}
    {r : Except FlowError FlowResultRecord} :
    Ends (execute i flowId request user) log r ↔ Recorded i flowId request user log r := by
  constructor
  · intro h
    rcases (ends_bind_iff _ _ _).mp h with ⟨e, rfl, he⟩ | ⟨body, report, _, rfl, hb, hr⟩
    · exact .failed he
    · obtain ⟨id, _, rfl, hd⟩ := (ends_call_bind_iff .freshId _ _).mp hr
      obtain ⟨created, _, rfl, hs⟩ := (ends_call_bind_iff .date _ _).mp hd
      obtain ⟨_, _, rfl, hp⟩ := (ends_call_bind_iff (.saveResult _) _ _).mp hs
      obtain ⟨rfl, rfl⟩ := (ends_pure_iff _ _).mp hp
      exact .kept id created hb
  · intro h
    cases h with
    | failed he => exact (ends_bind_iff _ _ _).mpr (Or.inl ⟨_, rfl, he⟩)
    | kept id created hb =>
      refine (ends_bind_iff _ _ _).mpr (Or.inr ⟨_, _, _, rfl, hb, ?_⟩)
      refine (ends_call_bind_iff .freshId _ _).mpr ⟨id, _, rfl, ?_⟩
      refine (ends_call_bind_iff .date _ _).mpr ⟨created, _, rfl, ?_⟩
      exact (ends_call_bind_iff (.saveResult _) _ _).mpr ⟨_, _, rfl, .done _⟩

/-- What can be stored. -/
inductive Product where
  | flow (f : FlowDefinition)
  | record (r : FlowResultRecord)

namespace Product

def flow? : Product → Option FlowDefinition
  | flow f => some f
  | record _ => none

def record? : Product → Option FlowResultRecord
  | flow _ => none
  | record r => some r

def id : Product → Uuid
  | flow f => f.id
  | record r => r.id

def saving : Product → Exchange
  | flow f => ⟨.saveFlow f, ()⟩
  | record r => ⟨.saveResult r, ()⟩

end Product

def storedBy : Exchange → List Product
  | ⟨.saveFlow f, _⟩ => [.flow f]
  | ⟨.saveResult r, _⟩ => [.record r]
  | _ => []

def madeBy : Exchange → List Uuid
  | ⟨.freshId, id⟩ => [id]
  | _ => []

def stored (log : Log) : List Product := log.flatMap storedBy

section Stored

variable {x : Exchange} {log : Log} {p : Product}

theorem mem_storedBy_iff : p ∈ storedBy x ↔ x = p.saving := by
  constructor
  · intro h
    obtain ⟨op, r⟩ := x
    cases op <;> first
      | (obtain rfl := List.mem_singleton.mp h; rfl)
      | cases h
  · rintro rfl
    cases p <;> exact List.mem_singleton_self _

theorem storedBy_eq_nil (h : x.op.isOfStore = false) : storedBy x = [] := by
  obtain ⟨op, r⟩ := x
  cases op <;> first | rfl | cases h

theorem stored_eq_nil (h : ∀ x ∈ log, x.op.isOfStore = false) : stored log = [] :=
  List.flatMap_eq_nil_iff.mpr fun x hx => storedBy_eq_nil (h x hx)

theorem stored_append (first second : Log) :
    stored (first ++ second) = stored first ++ stored second := List.flatMap_append

theorem stored_singleton (x : Exchange) : stored [x] = storedBy x := List.append_nil _

theorem stored_saving (p : Product) : stored [p.saving] = [p] := by
  cases p <;> rfl

end Stored

/-- What can be asked of a service besides what it has kept. -/
inductive Call where
  | saveFlow (name : String) (steps : List Step)
  | runFlow (id : Uuid) (user : String)
  | runRequest (request : FlowRequest) (user : String)

namespace Call

def attempt (i : Interpreter) : Call → Attempt Product
  | saveFlow name steps => do
    let f ← Service.saveFlow name steps
    pure (.flow f)
  | runFlow id user => do
    let r ← Service.runFlow i id user
    pure (.record r)
  | runRequest request user => do
    let r ← Service.runRequest i request user
    pure (.record r)

/-- All ways in which a call can go. -/
inductive Goes (i : Interpreter) : Call → Log → Except FlowError Product → Prop where
  | rejected {name steps e} : Grammar.validate steps = .error e →
      Goes i (.saveFlow name steps) [] (.error e)
  | saved {name steps} (id created) : Grammar.validate steps = .ok () →
      Goes i (.saveFlow name steps)
        [⟨.freshId, id⟩, ⟨.date, created⟩, ⟨.saveFlow ⟨id, name, steps, created⟩, ()⟩]
        (.ok (.flow ⟨id, name, steps, created⟩))
  | missing {id user} (e) : Goes i (.runFlow id user) [⟨.loadFlow id, .error e⟩] (.error e)
  | found {id user flow log r} : Recorded i (some id) ⟨flow.steps⟩ user log r →
      Goes i (.runFlow id user) (⟨.loadFlow id, .ok flow⟩ :: log) (r.map .record)
  | asked {request user log r} : Recorded i none request user log r →
      Goes i (.runRequest request user) log (r.map .record)

theorem ends_attempt_iff {c : Call} {log : Log} {r : Except FlowError Product} :
    Ends (c.attempt i) log r ↔ c.Goes i log r := by
  constructor
  · intro h
    cases c with
    | saveFlow name steps =>
      obtain ⟨o, ho, rfl⟩ := ends_map_iff.mp h
      rcases (ends_bind_iff _ _ _).mp ho with ⟨e, rfl, he⟩ | ⟨_, _, _, rfl, hv, hf⟩
      · obtain ⟨rfl, hx⟩ := (ends_ofAnswer_iff _ _).mp he
        exact .rejected hx.symm
      · obtain ⟨rfl, hx⟩ := (ends_ofAnswer_iff _ _).mp hv
        obtain ⟨id, _, rfl, hd⟩ := (ends_call_bind_iff .freshId _ _).mp hf
        obtain ⟨created, _, rfl, hs⟩ := (ends_call_bind_iff .date _ _).mp hd
        obtain ⟨_, _, rfl, hp⟩ := (ends_call_bind_iff (.saveFlow _) _ _).mp hs
        obtain ⟨rfl, rfl⟩ := (ends_pure_iff _ _).mp hp
        exact .saved id created hx.symm
    | runFlow id user =>
      obtain ⟨o, ho, rfl⟩ := ends_map_iff.mp h
      rcases (ends_bind_iff _ _ _).mp ho with ⟨e, rfl, he⟩ | ⟨_, flow, _, rfl, hf, hr⟩
      · obtain rfl := (Prog.exec_call_iff _ _).mp he
        exact .missing e
      · obtain rfl := (Prog.exec_call_iff _ _).mp hf
        exact .found (ends_execute_iff.mp hr)
    | runRequest request user =>
      obtain ⟨o, ho, rfl⟩ := ends_map_iff.mp h
      exact .asked (ends_execute_iff.mp ho)
  · intro h
    cases h with
    | @rejected name steps e hv =>
      refine ends_map_iff.mpr ⟨.error e, ?_, rfl⟩
      exact (ends_bind_iff _ _ _).mpr (Or.inl ⟨e, rfl, (ends_ofAnswer_iff _ _).mpr ⟨rfl, hv.symm⟩⟩)
    | @saved name steps id created hv =>
      refine ends_map_iff.mpr ⟨.ok ⟨id, name, steps, created⟩, ?_, rfl⟩
      refine (ends_bind_iff _ _ _).mpr
        (Or.inr ⟨[], (), _, rfl, (ends_ofAnswer_iff _ _).mpr ⟨rfl, hv.symm⟩, ?_⟩)
      refine (ends_call_bind_iff .freshId _ _).mpr ⟨id, _, rfl, ?_⟩
      refine (ends_call_bind_iff .date _ _).mpr ⟨created, _, rfl, ?_⟩
      exact (ends_call_bind_iff (.saveFlow _) _ _).mpr ⟨_, _, rfl, .done _⟩
    | missing e => exact ends_map_iff.mpr ⟨.error e, .ask _ (.done _), rfl⟩
    | found hr => exact ends_map_iff.mpr ⟨_, .ask _ (ends_execute_iff.mpr hr), rfl⟩
    | asked hr => exact ends_map_iff.mpr ⟨_, ends_execute_iff.mpr hr, rfl⟩

/-- What a call may store: a flow as it was given, if that is valid, or the report of a run that
came to its end, for its user and with the flow that was named. -/
def Stores (i : Interpreter) : Call → Product → Prop
  | saveFlow name steps, .flow f =>
    f.name = name ∧ f.steps = steps ∧ Grammar.validate steps = .ok ()
  | runFlow id user, .record r => r.flowId = some id ∧ r.userId = user ∧
    ∃ steps body, Ends (i.run ⟨steps⟩) body (.ok r.report)
  | runRequest request user, .record r => r.flowId = none ∧ r.userId = user ∧
    ∃ body, Ends (i.run request) body (.ok r.report)
  | _, _ => False

/-- How a call stores: nothing if it fails, else just what it returns, by its last operation. What
it stores bears an identifier that it made for it. -/
inductive Closes : Log → Except FlowError Product → Prop where
  | without {log} (e) : stored log = [] → Closes log (.error e)
  | storing (body : Log) (p : Product) : stored body = [] → ⟨.freshId, p.id⟩ ∈ body →
      Closes (body ++ [p.saving]) (.ok p)

theorem closes_of_recorded (hi : i.LeavesStore) {flowId : Option Uuid} {request : FlowRequest}
    {user : String} {log : Log} {r : Except FlowError FlowResultRecord}
    (h : Recorded i flowId request user log r) (first : Log) (hf : stored first = []) :
    Closes (first ++ log) (r.map .record) := by
  have hs {log : Log} {r : Except FlowError FlowReport} (h : Ends (i.run request) log r) :
      stored (first ++ log) = [] := by
    rw [stored_append, hf, stored_eq_nil (Interpreter.confined_run hi request log r h).1]
    rfl
  cases h with
  | failed he => exact .without _ (hs he)
  | @kept body report id created hb =>
    have hm : stored (first ++ body ++ [⟨.freshId, id⟩, ⟨.date, created⟩]) = [] := by
      rw [stored_append, hs hb]; rfl
    have hc := Closes.storing _ (.record ⟨id, flowId, user, created, report⟩) hm
      (by simp [Product.id])
    simpa [Product.saving, Except.map] using hc

theorem closes_of_ends (hi : i.LeavesStore) {c : Call} {log : Log} {r : Except FlowError Product}
    (h : Ends (c.attempt i) log r) : Closes log r := by
  cases ends_attempt_iff.mp h with
  | rejected _ => exact .without _ rfl
  | @saved name steps id created _ =>
    exact .storing [⟨.freshId, id⟩, ⟨.date, created⟩] (.flow ⟨id, name, steps, created⟩) rfl
      List.mem_cons_self
  | missing e => exact .without e rfl
  | @found id _ flow _ _ hr => exact closes_of_recorded hi hr [⟨.loadFlow id, .ok flow⟩] rfl
  | asked hr => exact closes_of_recorded hi hr [] rfl

theorem closes_ok (hi : i.LeavesStore) {c : Call} {log : Log} {p : Product}
    (h : Ends (c.attempt i) log (.ok p)) :
    ∃ body, log = body ++ [p.saving] ∧ ⟨.freshId, p.id⟩ ∈ body := by
  cases closes_of_ends hi h with
  | storing body p hb hp => exact ⟨body, rfl, hp⟩

theorem closes_error (hi : i.LeavesStore) {c : Call} {log : Log} {e : FlowError}
    (h : Ends (c.attempt i) log (.error e)) : stored log = [] := by
  cases closes_of_ends hi h with
  | without e hs => exact hs

theorem stores_of_ends {c : Call} {log : Log} {p : Product}
    (h : Ends (c.attempt i) log (.ok p)) : c.Stores i p := by
  generalize hr : (Except.ok p : Except FlowError Product) = r at h
  cases ends_attempt_iff.mp h with
  | rejected _ => cases hr
  | saved id created hv =>
    obtain rfl := Except.ok.inj hr
    exact ⟨rfl, rfl, hv⟩
  | missing e => cases hr
  | found hk =>
    cases hk with
    | failed => cases hr
    | kept id created hb =>
      obtain rfl := Except.ok.inj hr
      exact ⟨rfl, rfl, _, _, hb⟩
  | asked hk =>
    cases hk with
    | failed => cases hr
    | kept id created hb =>
      obtain rfl := Except.ok.inj hr
      exact ⟨rfl, rfl, _, hb⟩

/-- A call that has stored something has come to its end. -/
theorem stored_begun (hi : i.LeavesStore) {c : Call} {log : Log}
    (h : Begins (c.attempt i).run log) :
    stored log = [] ∨ ∃ p, stored log = [p] ∧ Ends (c.attempt i) log (.ok p) := by
  obtain ⟨rest, r, hr⟩ := h.exec
  generalize hl : log ++ rest = all at hr
  cases closes_of_ends hi hr with
  | without e hs =>
    rw [← hl, stored_append] at hs
    exact Or.inl (List.append_eq_nil_iff.mp hs).1
  | @storing body p hb _ =>
    rcases List.eq_nil_or_concat rest with rfl | ⟨more, x, rfl⟩
    · obtain rfl : log = _ := by simpa using hl
      exact Or.inr ⟨p, by rw [stored_append, stored_saving, hb]; rfl, hr⟩
    · rw [List.concat_eq_append, ← List.append_assoc] at hl
      rw [← (List.append_inj' hl rfl).1, stored_append] at hb
      exact Or.inl (List.append_eq_nil_iff.mp hb).1

end Call
end Service
end PageFlow
