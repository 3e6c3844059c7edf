import Mathlib.Data.List.Induction
import Mathlib.Data.List.Nodup
import Mathlib.Data.List.Pairwise
import PageFlow.Proofs.RunSession
import PageFlow.Proofs.ServiceCalls

/-! Calls of a service that share a store. They go on one operation at a time, in any order, those
of any user and of any number; the driver answers at will. What the store holds is read off the
history of all operations: a call stores at most once, and it is over when it does. -/
namespace PageFlow

open Engine
open Prog (Begins)

namespace Host

variable {h : Host} {x : Exchange} {log : Log}

/-- The host answers the call from its state. Which identifier is fresh is not for it to say. -/
def Answers (h : Host) (x : Exchange) : Prop :=
  x.op ≠ .freshId → ∀ f, answer? x.op = some f → x.reply = (f h).1

/-- Asked alone, with the driver idle, the attempt can end so. -/
def Tells (h : Host) (a : Attempt τ) (r : Except FlowError τ) : Prop :=
  ∃ log h', Ends a log r ∧ h.Plays Eq log h'

theorem tells_call_iff {a : Attempt τ} (op : Op) {answer : Reply op → Except FlowError τ}
    {f : Host → Reply op × Host} (ha : a.run = .ask op fun r => .done (answer r))
    (hf : answer? op = some f) (r : Except FlowError τ) : h.Tells a r ↔ r = answer (f h).1 := by
  constructor
  · rintro ⟨log, h', hr, hp⟩
    rw [Ends, ha] at hr
    obtain ⟨v, rest, rfl, hd⟩ := (Prog.exec_ask_iff op _ _).mp hr
    obtain ⟨rfl, rfl⟩ := (Prog.exec_done_iff _ _).mp hd
    obtain ⟨_, _, rfl, hs, -⟩ := plays_cons_iff.mp hp
    rw [← hs.2 f hf]
  · rintro rfl
    refine ⟨[⟨op, (f h).1⟩], h.absorb ⟨op, (f h).1⟩, ?_, .cons rfl ⟨rfl, ?_⟩ (.nil _)⟩
    · rw [Ends, ha]
      exact .ask _ (.done _)
    · intro g hg
      rw [Option.some.inj (hf.symm.trans hg)]

theorem findFlow_ok {id : Uuid} {f : FlowDefinition} (hf : h.findFlow id = .ok f) :
    f ∈ h.flows := by
  unfold findFlow at hf
  split at hf
  · rename_i g hg
    obtain rfl := Except.ok.inj hf
    exact List.mem_of_find?_eq_some hg
  · cases hf

theorem findFlow_error {id : Uuid} {e : FlowError} (hf : h.findFlow id = .error e) :
    e = .notFound ("flow " ++ id.text) ∧ ∀ f ∈ h.flows, f.id ≠ id := by
  unfold findFlow at hf
  split at hf
  · cases hf
  · rename_i hn
    refine ⟨(Except.error.inj hf).symm, fun f hm => ?_⟩
    simpa using List.find?_eq_none.mp hn f hm

theorem findResult_of_mem {r : FlowResultRecord} (hr : r ∈ h.results)
    (hu : ∀ s ∈ h.results, s.id = r.id → s = r) : h.findResult r.id = .ok r := by
  unfold findResult
  split
  · rename_i s hs
    rw [hu s (List.mem_of_find?_eq_some hs) (by simpa using List.find?_some hs)]
  · rename_i hn
    have hr := List.find?_eq_none.mp hn r hr
    simp at hr

theorem absorb_flows (h : Host) (x : Exchange) :
    (h.absorb x).flows = (Service.storedBy x).filterMap Service.Product.flow? ++ h.flows := by
  obtain ⟨op, r⟩ := x
  cases op <;> rfl

theorem absorb_results (h : Host) (x : Exchange) :
    (h.absorb x).results =
      h.results ++ (Service.storedBy x).filterMap Service.Product.record? := by
  obtain ⟨op, r⟩ := x
  cases op <;> first | rfl | exact (List.append_nil _).symm

theorem after_concat (h : Host) (log : Log) (x : Exchange) :
    h.after (log ++ [x]) = (h.after log).absorb x := by
  rw [after, List.foldl_append]; rfl

theorem flows_after (log : Log) :
    (start.after log).flows = ((Service.stored log).filterMap Service.Product.flow?).reverse := by
  induction log using List.reverseRecOn with
  | nil => rfl
  | append_singleton log x ih =>
    rw [after_concat, absorb_flows, ih, Service.stored_append, List.filterMap_append,
      List.reverse_append]
    obtain ⟨op, r⟩ := x
    cases op <;> rfl

theorem results_after (log : Log) :
    (start.after log).results = (Service.stored log).filterMap Service.Product.record? := by
  induction log using List.reverseRecOn with
  | nil => rfl
  | append_singleton log x ih =>
    rw [after_concat, absorb_results, ih, Service.stored_append, Service.stored_singleton,
      List.filterMap_append]

theorem mem_flows_after_iff {f : FlowDefinition} :
    f ∈ (start.after log).flows ↔ .flow f ∈ Service.stored log := by
  rw [flows_after, List.mem_reverse, List.mem_filterMap]
  constructor
  · rintro ⟨p, hp, hf⟩
    cases p with
    | flow g => obtain rfl := Option.some.inj hf; exact hp
    | record r => cases hf
  · intro hf
    exact ⟨_, hf, rfl⟩

end Host

namespace Service

/-- The operations of all calls, each with the place of the call that made it. -/
abbrev History := List (Nat × Exchange)

def logOf (k : Nat) (history : History) : Log :=
  history.filterMap fun y => if y.1 = k then some y.2 else none

def saves (history : History) : List (Nat × Product) :=
  history.flatMap fun y => (storedBy y.2).map (y.1, ·)

def made (history : History) : List Uuid := history.flatMap fun y => madeBy y.2

section History

variable {history : History} {k l : Nat} {x : Exchange} {p : Product}

theorem logOf_concat (k l : Nat) (history : History) (x : Exchange) :
    logOf l (history ++ [(k, x)]) = logOf l history ++ if k = l then [x] else [] := by
  rw [logOf, List.filterMap_append]
  by_cases h : k = l <;> simp [logOf, h]

theorem saves_concat (k : Nat) (history : History) (x : Exchange) :
    saves (history ++ [(k, x)]) = saves history ++ (storedBy x).map (k, ·) := by
  simp [saves]

theorem mem_logOf_iff : x ∈ logOf k history ↔ (k, x) ∈ history := by
  simp [logOf]

theorem mem_saves_iff : (k, p) ∈ saves history ↔ (k, p.saving) ∈ history := by
  simp only [saves, List.mem_flatMap, List.mem_map, Prod.mk.injEq, Prod.exists]
  constructor
  · rintro ⟨l, x, hx, q, hq, rfl, rfl⟩
    rwa [← mem_storedBy_iff.mp hq]
  · intro h
    exact ⟨k, _, h, p, mem_storedBy_iff.mpr rfl, rfl, rfl⟩

theorem mem_stored_iff : p ∈ stored (history.map Prod.snd) ↔ ∃ k, (k, p) ∈ saves history := by
  simp [stored, mem_storedBy_iff, mem_saves_iff]

theorem map_snd_saves (history : History) :
    (saves history).map Prod.snd = stored (history.map Prod.snd) := by
  simp [saves, stored, List.map_flatMap, List.flatMap_map, Function.comp_def]

/-- No identifier is made twice, so whoever has made it is known by it. -/
theorem eq_of_made (h : (made history).Nodup) {id : Uuid} (hk : (k, ⟨.freshId, id⟩) ∈ history)
    (hl : (l, ⟨.freshId, id⟩) ∈ history) : k = l := by
  by_contra hn
  obtain ⟨-, hp⟩ := List.nodup_flatMap.mp h
  have hs : Std.Symm (Function.onFun List.Disjoint fun y : Nat × Exchange => madeBy y.2) :=
    ⟨fun _ _ hd _ hx hy => hd hy hx⟩
  have hd := hp.forall hk hl (by simp [hn])
  exact hd (List.mem_singleton_self id) (List.mem_singleton_self id)

end History

/-- A store with all that was asked of it and all operations so far. -/
structure System where
  host : Host
  calls : List Call
  history : History

namespace System

def start : System := ⟨.start, [], []⟩

inductive Step (i : Interpreter) : System → System → Prop where
  | begin {σ : System} (c : Call) : Step i σ { σ with calls := σ.calls ++ [c] }
  | act {σ : System} {k c x} : σ.calls[k]? = some c →
      Begins (c.attempt i).run (logOf k σ.history ++ [x]) → σ.host.Answers x →
      Step i σ ⟨σ.host.absorb x, σ.calls, σ.history ++ [(k, x)]⟩

/-- What can come about by calls in any order. -/
def Reachable (i : Interpreter) : System → Prop := Relation.ReflTransGen (Step i) start

/-- How the store and the calls belong to the history. -/
structure Told (i : Interpreter) (σ : System) : Prop where
  begun : ∀ k c, σ.calls[k]? = some c → Begins (c.attempt i).run (logOf k σ.history)
  placed : ∀ y ∈ σ.history, y.1 < σ.calls.length
  once : ((saves σ.history).map Prod.fst).Nodup
  host_eq : σ.host = Host.start.after (σ.history.map Prod.snd)
  heard : ∀ earlier y later, σ.history = earlier ++ y :: later →
    (Host.start.after (earlier.map Prod.snd)).Answers y.2

variable {i : Interpreter} {σ : System} {k : Nat} {c : Call} {p : Product}

/-- What was stored is what calls have returned. -/
theorem Told.mem_saves_iff (hi : i.LeavesStore) (h : σ.Told i) : (k, p) ∈ saves σ.history ↔
    ∃ c, σ.calls[k]? = some c ∧ Ends (c.attempt i) (logOf k σ.history) (.ok p) := by
  rw [Service.mem_saves_iff, ← mem_logOf_iff]
  constructor
  · intro hp
    have hk : k < σ.calls.length := h.placed _ (mem_logOf_iff.mp hp)
    have hc := List.getElem?_eq_getElem hk
    have hs : p ∈ stored (logOf k σ.history) :=
      List.mem_flatMap.mpr ⟨_, hp, mem_storedBy_iff.mpr rfl⟩
    rcases Call.stored_begun hi (h.begun k _ hc) with hn | ⟨q, hq, he⟩
    · rw [hn] at hs; cases hs
    · rw [hq] at hs
      obtain rfl := List.mem_singleton.mp hs
      exact ⟨_, hc, he⟩
  · rintro ⟨c, -, he⟩
    obtain ⟨body, hl, -⟩ := Call.closes_ok hi he
    rw [hl]
    exact List.mem_append_right _ List.mem_cons_self

theorem Told.start : Told i start where
  begun k c h := by cases h
  placed y h := by cases h
  once := List.nodup_nil
  host_eq := rfl
  heard earlier y later h := by cases earlier <;> cases h

theorem Told.begin (h : σ.Told i) (c : Call) : Told i { σ with calls := σ.calls ++ [c] } where
  begun k c' hc := by
    rcases Nat.lt_or_ge k σ.calls.length with hk | hk
    · rw [List.getElem?_append_left hk] at hc
      exact h.begun k c' hc
    · have hl : logOf k σ.history = [] := by
        refine List.filterMap_eq_nil_iff.mpr fun y hy => if_neg ?_
        have hp := h.placed y hy
        omega
      rw [hl]
      exact .nil _
  placed y hy := by
    have hp := h.placed y hy
    simp only [List.length_append, List.length_singleton]
    omega
  once := h.once
  host_eq := h.host_eq
  heard := h.heard

theorem Told.act (hi : i.LeavesStore) (h : σ.Told i) {x : Exchange} (hc : σ.calls[k]? = some c)
    (hb : Begins (c.attempt i).run (logOf k σ.history ++ [x])) (ha : σ.host.Answers x) :
    Told i ⟨σ.host.absorb x, σ.calls, σ.history ++ [(k, x)]⟩ where
  begun l c' hc' := by
    rw [logOf_concat]
    by_cases hk : k = l
    · subst hk
      obtain rfl := Option.some.inj (hc.symm.trans hc')
      simpa using hb
    · rw [if_neg hk, List.append_nil]
      exact h.begun l c' hc'
  placed y hy := by
    rcases List.mem_append.mp hy with hy | hy
    · exact h.placed y hy
    · obtain rfl := List.mem_singleton.mp hy
      exact (List.getElem?_eq_some_iff.mp hc).1
  once := by
    rw [saves_concat, List.map_append]
    refine List.nodup_append.mpr ⟨h.once, ?_, ?_⟩
    · obtain ⟨op, r⟩ := x
      cases op <;> first | exact List.nodup_singleton _ | exact List.nodup_nil
    · -- who has stored something has come to its end, and makes no other operation
      rintro l hl m hm rfl
      obtain ⟨⟨_, p⟩, hp, rfl⟩ := List.mem_map.mp hl
      obtain ⟨c', hc', he⟩ := (h.mem_saves_iff hi).mp hp
      obtain ⟨⟨_, q⟩, hq, rfl⟩ := List.mem_map.mp hm
      obtain ⟨_, -, hq⟩ := List.mem_map.mp hq
      obtain ⟨rfl, -⟩ := Prod.mk.inj hq
      obtain rfl := Option.some.inj (hc.symm.trans hc')
      exact he.not_begins x hb
  host_eq := by
    rw [List.map_append, List.map_singleton, Host.after_concat, ← h.host_eq]
  heard earlier y later hs := by
    rcases List.eq_nil_or_concat later with rfl | ⟨more, z, rfl⟩
    · obtain ⟨rfl, hy⟩ := List.append_inj' hs rfl
      obtain rfl := List.singleton_inj.mp hy
      rwa [← h.host_eq]
    · have hl : σ.history ++ [(k, x)] = (earlier ++ y :: more) ++ [z] := by simpa using hs
      exact h.heard earlier y more (List.append_inj' hl rfl).1

theorem told (hi : i.LeavesStore) (hr : Reachable i σ) : σ.Told i := by
  induction hr with
  | refl => exact Told.start
  | tail _ hs ih =>
    cases hs with
    | begin c => exact ih.begin c
    | act hc hb ha => exact ih.act hi hc hb ha

/-- Every flow that was ever in the store is one that a call has returned, and so is valid. -/
theorem Told.valid (hi : i.LeavesStore) (h : σ.Told i) {past : History} (hp : past <+: σ.history)
    {f : FlowDefinition} (hf : f ∈ (Host.start.after (past.map Prod.snd)).flows) :
    Grammar.validate f.steps = .ok () := by
  obtain ⟨k, hk⟩ := mem_stored_iff.mp (Host.mem_flows_after_iff.mp hf)
  have hs : (k, .flow f) ∈ saves σ.history :=
    Service.mem_saves_iff.mpr (hp.subset (Service.mem_saves_iff.mp hk))
  obtain ⟨c, -, he⟩ := (h.mem_saves_iff hi).mp hs
  have hst := Call.stores_of_ends he
  cases c with
  | saveFlow name steps =>
    obtain ⟨-, rfl, hv⟩ := hst
    exact hv
  | runFlow id user => exact hst.elim
  | runRequest request user => exact hst.elim

theorem Told.eq_of_id (hi : i.LeavesStore) (h : σ.Told i) (hd : (made σ.history).Nodup) {l : Nat}
    {q : Product} (hp : (k, p) ∈ saves σ.history) (hq : (l, q) ∈ saves σ.history)
    (he : p.id = q.id) : p = q := by
  have hm {k : Nat} {p : Product} (hp : (k, p) ∈ saves σ.history) :
      (k, ⟨.freshId, p.id⟩) ∈ σ.history := by
    obtain ⟨c, -, he⟩ := (h.mem_saves_iff hi).mp hp
    obtain ⟨body, hl, hb⟩ := Call.closes_ok hi he
    exact mem_logOf_iff.mp (hl ▸ List.mem_append_left _ hb)
  have hk := hm hp
  rw [he] at hk
  obtain rfl := eq_of_made hd hk (hm hq)
  exact (Prod.mk.inj (List.inj_on_of_nodup_map h.once hp hq rfl)).2

theorem Told.results_eq (h : σ.Told i) :
    σ.host.results = ((saves σ.history).map Prod.snd).filterMap Product.record? := by
  rw [h.host_eq, Host.results_after, map_snd_saves]

theorem Told.mem_results_iff (h : σ.Told i) {r : FlowResultRecord} :
    r ∈ σ.host.results ↔ ∃ k, (k, .record r) ∈ saves σ.history := by
  rw [h.results_eq, List.mem_filterMap]
  constructor
  · rintro ⟨p, hp, hr⟩
    obtain ⟨⟨k, p⟩, hk, rfl⟩ := List.mem_map.mp hp
    cases p with
    | flow f => cases hr
    | record s => obtain rfl := Option.some.inj hr; exact ⟨k, hk⟩
  · rintro ⟨k, hk⟩
    exact ⟨_, List.mem_map_of_mem hk, rfl⟩

theorem Told.findResult (hi : i.LeavesStore) (h : σ.Told i) (hd : (made σ.history).Nodup)
    {r : FlowResultRecord} (hk : (k, .record r) ∈ saves σ.history) :
    σ.host.findResult r.id = .ok r := by
  refine Host.findResult_of_mem (h.mem_results_iff.mpr ⟨k, hk⟩) fun s hs he => ?_
  obtain ⟨l, hl⟩ := h.mem_results_iff.mp hs
  exact Product.record.inj (h.eq_of_id hi hd hl hk he)

/-- Why a call may fail. A flow that was saved before it is looked up is found, and a flow that is
found is not rejected. -/
def Refuses (σ : System) (k : Nat) : Call → FlowError → Prop
  | .saveFlow _ steps, e => Grammar.validate steps = .error e
  | .runRequest request _, e => Grammar.validate request.steps = .error e ∨ Pool.IsSession e
  | .runFlow id _, e => Pool.IsSession e ∨ e = .notFound ("flow " ++ id.text) ∧
      ∃ earlier later, σ.history = earlier ++ (k, ⟨.loadFlow id, .error e⟩) :: later ∧
        ∀ l f, (l, .flow f) ∈ saves earlier → f.id ≠ id

theorem Told.refuses (hi : i.LeavesStore) (h : σ.Told i) {e : FlowError}
    (he : Ends (c.attempt i) (logOf k σ.history) (.error e)) : σ.Refuses k c e := by
  generalize hl : logOf k σ.history = log at he
  generalize hr : (Except.error e : Except FlowError Product) = r at he
  -- the lookup is the first operation of its call, and was answered by what the store then held
  have hf {id : Uuid} {answer : Except FlowError FlowDefinition} {rest : Log}
      (ha : log = ⟨.loadFlow id, answer⟩ :: rest) : ∃ earlier later,
        σ.history = earlier ++ (k, ⟨.loadFlow id, answer⟩) :: later ∧
        answer = (Host.start.after (earlier.map Prod.snd)).findFlow id := by
    have hm : (k, ⟨.loadFlow id, answer⟩) ∈ σ.history :=
      mem_logOf_iff.mp (by rw [hl, ha]; exact List.mem_cons_self)
    obtain ⟨earlier, later, hs⟩ := List.append_of_mem hm
    exact ⟨earlier, later, hs, h.heard earlier _ later hs nofun _ rfl⟩
  cases Call.ends_attempt_iff.mp he with
  | rejected hv =>
    obtain rfl := Except.error.inj hr
    exact hv
  | saved id created hv => cases hr
  | @missing id user e' =>
    obtain rfl := Except.error.inj hr
    obtain ⟨earlier, later, hs, ha⟩ := hf rfl
    obtain ⟨ht, hn⟩ := Host.findFlow_error ha.symm
    refine Or.inr ⟨ht, earlier, later, hs, fun l f hm => ?_⟩
    exact hn f (Host.mem_flows_after_iff.mpr (mem_stored_iff.mpr ⟨l, hm⟩))
  | @found id user flow log r' hk =>
    obtain ⟨earlier, later, hs, ha⟩ := hf rfl
    cases hk with
    | kept id created hb => cases hr
    | failed hx =>
      obtain rfl := Except.error.inj hr
      have hv := h.valid hi ⟨_, hs.symm⟩ (Host.findFlow_ok ha.symm)
      rcases (Interpreter.confined_run hi _ _ _ hx).2 e rfl with hg | hg
      · rw [hv] at hg; cases hg
      · exact Or.inl hg
  | asked hk =>
    cases hk with
    | kept id created hb => cases hr
    | failed hx =>
      obtain rfl := Except.error.inj hr
      exact (Interpreter.confined_run hi _ _ _ hx).2 e rfl

/-- A call may go on for some time without interruption. -/
theorem steps_alone {σ : System} {more : Log} {host : Host} (hc : σ.calls[k]? = some c)
    (hb : Begins (c.attempt i).run (logOf k σ.history ++ more)) (hp : σ.host.Plays Eq more host) :
    Relation.ReflTransGen (Step i) σ ⟨host, σ.calls, σ.history ++ more.map (k, ·)⟩ := by
  induction more generalizing σ with
  | nil =>
    cases hp
    rw [List.map_nil, List.append_nil]
  | cons x more ih =>
    obtain ⟨_, h₂, rfl, hs, hr⟩ := Host.plays_cons_iff.mp hp
    rw [← List.singleton_append, ← List.append_assoc] at hb
    have hstep := Step.act hc hb.left fun _ => hs.2
    rw [← hs.1] at hstep
    have hsteps := @ih ⟨h₂, σ.calls, σ.history ++ [(k, x)]⟩ hc
      (by rwa [logOf_concat, if_pos rfl]) hr
    rw [List.append_assoc] at hsteps
    exact .head hstep hsteps

/-- What callers can rely on, whatever calls there are and however they are interleaved. -/
structure Consistent (i : Interpreter) (σ : System) : Prop where
  valid : ∀ f ∈ σ.host.flows, Grammar.validate f.steps = .ok ()
  /-- What is stored is what was saved, flows newest first and results oldest first. -/
  flows : σ.host.flows = (((saves σ.history).map Prod.snd).filterMap Product.flow?).reverse
  results : σ.host.results = ((saves σ.history).map Prod.snd).filterMap Product.record?
  /-- No call saves twice, and a call saves exactly what it returns. -/
  once : ((saves σ.history).map Prod.fst).Nodup
  returned : ∀ k p, (k, p) ∈ saves σ.history ↔
    ∃ c, σ.calls[k]? = some c ∧ Ends (c.attempt i) (logOf k σ.history) (.ok p)
  attributed : ∀ k c p, σ.calls[k]? = some c → (k, p) ∈ saves σ.history → c.Stores i p
  result : ∀ k r, (k, .record r) ∈ saves σ.history → ∀ answer,
    σ.host.Tells (Service.result r.id) answer ↔ answer = .ok r
  resultsFor : ∀ user answer, σ.host.Tells (Service.resultsFor user) answer ↔
    answer = .ok (σ.host.results.filter fun r => r.userId = user)
  refused : ∀ k c e, σ.calls[k]? = some c → Ends (c.attempt i) (logOf k σ.history) (.error e) →
    σ.Refuses k c e ∧ ∀ x ∈ logOf k σ.history, ∀ h : Host,
      (h.absorb x).flows = h.flows ∧ (h.absorb x).results = h.results

/-- A store stays consistent under calls of any users, interleaved in any way, as long as no
identifier is made twice. This is so at any time, and not only when all calls are over. -/
theorem store_consistent (hi : i.LeavesStore) (hr : Reachable i σ) (hd : (made σ.history).Nodup) :
    σ.Consistent i := by
  have h := told hi hr
  refine ⟨?_, ?_, h.results_eq, h.once, fun k p => h.mem_saves_iff hi, ?_, ?_, ?_, ?_⟩
  · intro f hf
    rw [h.host_eq] at hf
    exact h.valid hi (List.prefix_refl _) hf
  · rw [h.host_eq, Host.flows_after, map_snd_saves]
  · intro k c p hc hp
    obtain ⟨c', hc', he⟩ := (h.mem_saves_iff hi).mp hp
    obtain rfl := Option.some.inj (hc.symm.trans hc')
    exact Call.stores_of_ends he
  · intro k r hk answer
    rw [← h.findResult hi hd hk]
    exact Host.tells_call_iff (.loadResult r.id) rfl rfl answer
  · intro user answer
    exact Host.tells_call_iff (.resultsFor user) rfl rfl answer
  · intro k c e hc he
    refine ⟨h.refuses hi he, fun x hx g => ?_⟩
    have hn : storedBy x = [] := List.flatMap_eq_nil_iff.mp (Call.closes_error hi he) x hx
    rw [Host.absorb_flows, Host.absorb_results, hn]
    exact ⟨rfl, List.append_nil _⟩

section Samples

def astray : PageFlow.Step := .ofAction .navigate .null

def someDate : Moment := ⟨1970, 1, 1, 0, 0, 0, 0⟩

def strayFlow : FlowDefinition := ⟨Host.freshId 1, "stray", [astray], someDate⟩

def saving : Log :=
  [⟨.freshId, strayFlow.id⟩, ⟨.date, someDate⟩, ⟨.saveFlow strayFlow, ()⟩]

def straying : Log :=
  Pool.firstAcquire ++ [⟨.now, (0 : Instant)⟩, ⟨.now, (0 : Instant)⟩, ⟨.date, someDate⟩] ++
    Pool.releaseCalls Pool.firstSession false true (.ok ()) true

end Samples

/-- A flow is saved and run by someone, and the run fails at its first step: the record is there,
and is found again. -/
theorem store_consistent_after_failed_run : ∃ σ, Reachable (.standard .default) σ ∧ ∃ r,
    r.report.success = false ∧ σ.host.results = [r] ∧
      σ.host.Tells (Service.result r.id) (.ok r) ∧
      σ.host.Tells (Service.resultsFor "ann") (.ok [r]) := by
  obtain ⟨o, hrun⟩ : ∃ o,
      Ends ((Interpreter.standard .default).run ⟨[astray]⟩) straying (.ok ⟨false, [o]⟩) :=
    ⟨_, by repeat (first | exact .done _ | refine .ask _ ?_)⟩
  let r : FlowResultRecord := ⟨Host.freshId 2, some strayFlow.id, "ann", someDate, ⟨false, [o]⟩⟩
  let calls : List Call := [.saveFlow "stray" [astray], .runFlow strayFlow.id "ann"]
  let running : Log := ⟨.loadFlow strayFlow.id, .ok strayFlow⟩ ::
    (straying ++ [⟨.freshId, r.id⟩, ⟨.date, someDate⟩, ⟨.saveResult r, ()⟩])
  have hsave : Ends ((calls[0]).attempt (.standard .default)) saving (.ok (.flow strayFlow)) :=
    Call.ends_attempt_iff.mpr (.saved _ _ rfl)
  have hload : Ends ((calls[1]).attempt (.standard .default)) running (.ok (.record r)) :=
    Call.ends_attempt_iff.mpr (.found (.kept _ _ hrun))
  have hp : Host.start.Plays Eq (saving ++ running) (Host.start.after (saving ++ running)) := by
    repeat (first | exact .nil _ | refine .cons rfl ⟨rfl, by rintro f hf; cases hf <;> rfl⟩ ?_)
  obtain ⟨host, hp₁, hp₂⟩ := Host.plays_append_iff.mp hp
  have h₁ := steps_alone (σ := ⟨.start, calls, []⟩) (k := 0) rfl hsave.begins hp₁
  have h₂ := steps_alone (σ := ⟨host, calls, saving.map (0, ·)⟩) (k := 1) rfl hload.begins hp₂
  have hr : Reachable (.standard .default) _ :=
    ((Relation.ReflTransGen.refl.tail (.begin calls[0])).tail (.begin calls[1])).trans (h₁.trans h₂)
  have hm : made (saving.map (0, ·) ++ running.map (1, ·)) = [Host.freshId 1, Host.freshId 2] := rfl
  have hd : (made (saving.map (0, ·) ++ running.map (1, ·))).Nodup := by rw [hm]; decide
  have hs : (1, .record r) ∈ saves (saving.map (0, ·) ++ running.map (1, ·)) :=
    mem_saves_iff.mpr (by simp [running, Product.saving])
  have h := store_consistent (Interpreter.leavesStore_standard .default) hr hd
  exact ⟨_, hr, r, rfl, rfl, (h.result 1 r hs _).mpr rfl, (h.resultsFor "ann" _).mpr rfl⟩

end System
end Service
end PageFlow
