import PageFlow.Engine.Interpreter
import PageFlow.Proofs.Execution

/-! Runs, step after step. A run is followed through the steps that it has passed; wherever it
stands, the next step is started with what the passed ones left. `exec_runSteps_iff` says that
this is all that a run does: it ends after its last step or with the first that fails. -/
namespace PageFlow

theorem append_split {first more before after : List α} {x : α}
    (h : first ++ more = before ++ x :: after) :
    (∃ outer, first = before ++ x :: outer ∧ after = outer ++ more) ∨
      ∃ inner, before = first ++ inner ∧ more = inner ++ x :: after := by
  rcases List.append_eq_append_iff.mp h with ⟨inner, rfl, rfl⟩ | ⟨outer, rfl, ho⟩
  · exact Or.inr ⟨inner, rfl, rfl⟩
  · rcases List.append_eq_cons_iff.mp ho.symm with ⟨rfl, rfl⟩ | ⟨outer, rfl, rfl⟩
    · exact Or.inr ⟨[], by simp, rfl⟩
    · exact Or.inl ⟨outer, rfl, rfl⟩

theorem flatMap_split {f : α → List β} {all : List α} {before after : List β} {x : β}
    (h : all.flatMap f = before ++ x :: after) : ∃ earlier a later inner outer,
      all = earlier ++ a :: later ∧ f a = inner ++ x :: outer ∧
        before = earlier.flatMap f ++ inner := by
  induction all generalizing before with
  | nil => simp at h
  | cons a rest ih =>
    rw [List.flatMap_cons] at h
    rcases append_split h with ⟨outer, ha, -⟩ | ⟨inner, rfl, hr⟩
    · exact ⟨[], a, rest, before, outer, rfl, ha, rfl⟩
    · obtain ⟨earlier, b, later, inner, outer, rfl, hb, rfl⟩ := ih hr
      exact ⟨a :: earlier, b, later, inner, outer, rfl, hb, by simp⟩

namespace Interpreter

open Engine
open Prog (Exec)

/-- A step that a run has passed: when it was started and had ended, the calls of its action and
what these produced. -/
structure Passed where
  step : Step
  start : Instant
  stop : Instant
  log : Log
  produced : Option Pending

namespace Passed

def calls (p : Passed) : Log := ⟨.now, p.start⟩ :: p.log ++ [⟨.now, p.stop⟩]

def outcome (p : Passed) : StepOutcome :=
  ⟨p.step, secondsBetween p.start p.stop, captured p.step p.produced, none⟩

end Passed

def failedOutcome (position : Nat) (step : Step) (start stop : Instant) (e : FlowError)
    (date : Moment) : StepOutcome :=
  ⟨step, secondsBetween start stop, none,
    some (ErrorBody.ofError (.stepProcessing position step.action e) date.millisText)⟩

/-- A run of the steps has passed some of them, hands on a value and a selection, and has the rest
of the steps before it. -/
inductive Reaches (i : Interpreter) (session : Session) (steps : List Step) :
    List Passed → Threaded → List Step → Prop where
  | start : Reaches i session steps [] .start steps
  | pass {past t rest} {p : Passed} : Reaches i session steps past t (p.step :: rest) →
      Ends (i.registry.execute (i.context session t p.step)) p.log (.ok p.produced) →
      Reaches i session steps (past ++ [p]) (t.after p.produced) rest

variable {i : Interpreter} {session : Session} {steps : List Step}

theorem Reaches.steps_eq {past t left} (h : Reaches i session steps past t left) :
    steps = past.map Passed.step ++ left := by
  induction h with
  | start => rfl
  | pass _ _ ih => rw [ih]; simp

theorem Reaches.passed {past t left} (h : Reaches i session steps past t left)
    {earlier : List Passed} {p : Passed} {later : List Passed} (hp : past = earlier ++ p :: later) :
    ∃ u rest, Reaches i session steps earlier u (p.step :: rest) ∧
      Ends (i.registry.execute (i.context session u p.step)) p.log (.ok p.produced) := by
  -- the run is taken back to `p` step by step, so what lies behind `p` must vary
  induction h generalizing later with
  | start => simp at hp
  | @pass past t rest q hq he ih =>
    rcases List.eq_nil_or_concat later with rfl | ⟨later, l, rfl⟩
    · obtain ⟨rfl, hl⟩ := List.append_inj' hp rfl
      obtain rfl := List.singleton_inj.mp hl
      exact ⟨t, rest, hq, he⟩
    · have hl : past ++ [q] = (earlier ++ p :: later) ++ [l] := by simpa using hp
      exact ih (List.append_inj' hl rfl).1

/-- The calls and the report of a run that has come to its end. -/
inductive Finishes (i : Interpreter) (session : Session) (steps : List Step) :
    Log → FlowReport → Prop where
  | passed {past t} : Reaches i session steps past t [] →
      Finishes i session steps (past.flatMap Passed.calls) ⟨true, past.map Passed.outcome⟩
  | failed {past t step rest log e start stop date} :
      Reaches i session steps past t (step :: rest) →
      Ends (i.registry.execute (i.context session t step)) log (.error e) →
      Finishes i session steps
        (past.flatMap Passed.calls ++ (⟨.now, start⟩ :: log ++ [⟨.now, stop⟩, ⟨.date, date⟩]))
        ⟨false, past.map Passed.outcome ++ [failedOutcome (past.length + 1) step start stop e date]⟩

/-- What a report keeps of a step that ended so. -/
inductive Reported (position : Nat) (step : Step) :
    Except FlowError (Option Pending) → StepOutcome → Prop where
  | passed (produced taken) :
      Reported position step (.ok produced) ⟨step, taken, captured step produced, none⟩
  | failed (e taken timestamp) : Reported position step (.error e) ⟨step, taken, none,
      some (ErrorBody.ofError (.stepProcessing position step.action e) timestamp)⟩

/-- In a run with this log the step of the outcome is started where the run has passed these steps
and hands this on: its calls follow theirs, and the outcome keeps how they end. -/
structure Starts (i : Interpreter) (session : Session) (steps : List Step) (log : Log)
    (past : List Passed) (t : Threaded) (o : StepOutcome) : Prop where
  reaches : ∃ rest, Reaches i session steps past t (o.step :: rest)
  ends : ∃ start calls r later, log = past.flatMap Passed.calls ++ ⟨.now, start⟩ :: calls ++ later ∧
    Ends (i.registry.execute (i.context session t o.step)) calls r ∧
      Reported (past.length + 1) o.step r o

theorem Reaches.starts {past t left} (h : Reaches i session steps past t left) {k : Nat}
    {o : StepOutcome} (ho : (past.map Passed.outcome)[k]? = some o) (more : Log) :
    ∃ earlier u, earlier.length = k ∧
      Starts i session steps (past.flatMap Passed.calls ++ more) earlier u o := by
  rw [List.getElem?_map] at ho
  obtain ⟨p, hp, rfl⟩ := Option.map_eq_some_iff.mp ho
  obtain ⟨hk, rfl⟩ := List.getElem?_eq_some_iff.mp hp
  have hs : past = past.take k ++ past[k] :: past.drop (k + 1) := by
    rw [← List.drop_eq_getElem_cons hk, List.take_append_drop]
  obtain ⟨u, rest, hu, he⟩ := h.passed hs
  refine ⟨_, u, List.length_take_of_le (Nat.le_of_lt hk), ⟨rest, hu⟩, past[k].start, past[k].log, _,
    ⟨.now, past[k].stop⟩ :: (past.drop (k + 1)).flatMap Passed.calls ++ more, ?_, he, .passed _ _⟩
  have hcalls : past.flatMap Passed.calls = (past.take k).flatMap Passed.calls ++
      (past[k].calls ++ (past.drop (k + 1)).flatMap Passed.calls) := by
    rw [← List.flatMap_cons, ← List.flatMap_append, ← hs]
  rw [hcalls]
  simp [Passed.calls]

/-- Every outcome in a report is of a step that the run started where it then stood. -/
theorem Finishes.starts {log : Log} {report : FlowReport} (h : Finishes i session steps log report)
    {k : Nat} {o : StepOutcome} (ho : report.results[k]? = some o) :
    ∃ past t, past.length = k ∧ Starts i session steps log past t o := by
  cases h with
  | passed hr =>
    have hs := hr.starts ho []
    rwa [List.append_nil] at hs
  | @failed past t step rest calls e start stop date hr he =>
    rcases Nat.lt_or_ge k (past.map Passed.outcome).length with hk | hk
    · rw [List.getElem?_append_left hk] at ho
      exact hr.starts ho _
    · rw [List.getElem?_append_right hk] at ho
      obtain ⟨h0, rfl⟩ := List.getElem?_eq_some_iff.mp ho
      have hl : past.length = k := by simp at h0 hk; omega
      refine ⟨past, t, hl, ?_⟩
      rw [List.getElem_singleton]
      exact ⟨⟨rest, hr⟩, start, calls, _, _, List.append_assoc _ _ _ |>.symm, he, .failed e _ _⟩

/-- The steps that a run with this log and report has passed: those of which the report keeps no
error. -/
structure Passes (i : Interpreter) (session : Session) (steps : List Step) (log : Log)
    (report : FlowReport) (past : List Passed) : Prop where
  reaches : ∃ t left, Reaches i session steps past t left
  calls : past.flatMap Passed.calls <+: log
  outcomes : report.results.filter (·.error.isNone) = past.map Passed.outcome

theorem filter_outcomes (past : List Passed) :
    (past.map Passed.outcome).filter (·.error.isNone) = past.map Passed.outcome := by
  refine List.filter_eq_self.mpr fun o ho => ?_
  obtain ⟨p, -, rfl⟩ := List.mem_map.mp ho
  rfl

theorem Finishes.passes {log : Log} {report : FlowReport} (h : Finishes i session steps log report) :
    ∃ past, Passes i session steps log report past := by
  cases h with
  | @passed past t hr => exact ⟨past, ⟨t, [], hr⟩, List.prefix_rfl, filter_outcomes past⟩
  | @failed past t step rest log e start stop date hr he =>
    refine ⟨past, ⟨t, _, hr⟩, List.prefix_append _ _, ?_⟩
    rw [List.filter_append, filter_outcomes]
    exact List.append_nil _

theorem Reaches.unique {past t left past' t' left'} (h : Reaches i session steps past t left)
    (h' : Reaches i session steps past' t' left') (hl : past.length = past'.length)
    {more more' : Log}
    (hlog : past.flatMap Passed.calls ++ more = past'.flatMap Passed.calls ++ more') :
    past = past' ∧ t = t' ∧ left = left' := by
  induction h generalizing past' t' left' more more' with
  | start =>
    cases h' with
    | start => exact ⟨rfl, rfl, rfl⟩
    | pass => simp at hl
  | @pass past t rest p _ he ih =>
    cases h' with
    | start => simp at hl
    | @pass past' t' rest' p' hr' he' =>
      rw [List.flatMap_append, List.flatMap_append, List.append_assoc, List.append_assoc] at hlog
      obtain ⟨rfl, rfl, hs⟩ := ih hr' (by simpa using hl) hlog
      obtain ⟨hstep, rfl⟩ := List.cons.inj hs
      obtain ⟨step, start, stop, calls, produced⟩ := p
      obtain ⟨step', start', stop', calls', produced'⟩ := p'
      obtain rfl : step = step' := hstep
      have hcalls := List.append_cancel_left hlog
      simp only [Passed.calls, List.flatMap_cons, List.flatMap_nil, List.append_nil,
        List.cons_append, List.append_assoc, List.cons.injEq] at hcalls
      obtain ⟨hstart, hcalls⟩ := hcalls
      obtain ⟨rfl, hp, hstop⟩ := he.unique he' hcalls
      cases hstart
      cases (List.cons.inj hstop).1
      obtain rfl := Except.ok.inj hp
      exact ⟨rfl, rfl, rfl⟩

/-- A run that goes to the end has passed all of its steps in one way only. -/
theorem Reaches.eq_of_passes {past t past'} (h : Reaches i session steps past t [])
    (hp : Passes i session steps (past.flatMap Passed.calls) ⟨true, past.map Passed.outcome⟩ past') :
    past' = past := by
  obtain ⟨⟨t', left', h'⟩, ⟨more, hlog⟩, houtcomes⟩ := hp
  have hl : past'.length = past.length := by
    have h := congrArg List.length ((filter_outcomes past).symm.trans houtcomes)
    simpa using h.symm
  exact (h'.unique h hl (hlog.trans (List.append_nil _).symm)).1

theorem Reaches.eq_of_starts {past t left all past' t'} {o : StepOutcome}
    (h : Reaches i session steps past t left) (hp : past <+: all)
    (hs : Starts i session steps (all.flatMap Passed.calls) past' t' o)
    (hl : past'.length = past.length) : past' = past ∧ t' = t := by
  obtain ⟨later, rfl⟩ := hp
  obtain ⟨⟨rest, hr⟩, start, calls, r, more, hlog, -⟩ := hs
  rw [List.flatMap_append, List.append_assoc] at hlog
  obtain ⟨rfl, rfl, -⟩ := h.unique hr hl.symm hlog
  exact ⟨rfl, rfl⟩

/-- A step that some run starts, where the run then stands, and how it ends. -/
structure Started (i : Interpreter) (session : Session) (steps : List Step) where
  past : List Passed
  threaded : Threaded
  step : Step
  rest : List Step
  calls : Log
  result : Except FlowError (Option Pending)
  reaches : Reaches i session steps past threaded (step :: rest)
  ends : Ends (i.registry.execute (i.context session threaded step)) calls result

/-- The run makes the calls before this one and then this one as part of a step. -/
def Started.Makes (s : Started i session steps) (before : Log) (x : Exchange) : Prop :=
  ∃ start inner outer, s.calls = inner ++ x :: outer ∧
    before = s.past.flatMap Passed.calls ++ ⟨.now, start⟩ :: inner

theorem framed_split {start : Instant} {calls looks inner outer : Log} {x : Exchange}
    (hn : x.op ≠ .now) (hlooks : x ∉ looks)
    (h : ⟨.now, start⟩ :: calls ++ looks = inner ++ x :: outer) :
    ∃ inner' outer', calls = inner' ++ x :: outer' ∧ inner = ⟨.now, start⟩ :: inner' := by
  rcases append_split h with ⟨outer', hc, -⟩ | ⟨inner', -, rfl⟩
  · cases inner with
    | nil =>
      have hx : (⟨.now, start⟩ : Exchange) = x := (List.cons.inj hc).1
      exact absurd (congrArg (·.op) hx.symm) hn
    | cons y inner =>
      obtain ⟨rfl, hcalls⟩ := List.cons.inj hc
      exact ⟨inner, outer', hcalls, rfl⟩
  · exact absurd (List.mem_append_right _ List.mem_cons_self) hlooks

theorem Reaches.makes {past t left} (h : Reaches i session steps past t left) {before after : Log}
    {x : Exchange} (hn : x.op ≠ .now) (hl : past.flatMap Passed.calls = before ++ x :: after) :
    ∃ s : Started i session steps, s.Makes before x := by
  obtain ⟨earlier, p, later, inner, outer, hp, hc, rfl⟩ := flatMap_split hl
  obtain ⟨u, rest, hu, he⟩ := h.passed hp
  have hlook : x ∉ [(⟨.now, p.stop⟩ : Exchange)] := by
    intro hx
    exact hn (congrArg (·.op) (List.mem_singleton.mp hx))
  obtain ⟨inner, outer, hcalls, rfl⟩ := framed_split hn hlook hc
  exact ⟨⟨earlier, u, p.step, rest, p.log, _, hu, he⟩, p.start, inner, outer, hcalls, rfl⟩

theorem Finishes.makes {log : Log} {report : FlowReport}
    (h : Finishes i session steps log report) {before after : Log} {x : Exchange}
    (hl : log = before ++ x :: after) (hn : x.op ≠ .now) (hd : x.op ≠ .date) :
    ∃ s : Started i session steps, s.Makes before x := by
  cases h with
  | passed hr => exact hr.makes hn hl
  | @failed past t step rest calls e start stop date hr he =>
    rcases append_split hl with ⟨outer, hp, -⟩ | ⟨inner, rfl, hc⟩
    · exact hr.makes hn hp
    · have hlooks : x ∉ [(⟨.now, stop⟩ : Exchange), ⟨.date, date⟩] := by
        intro hx
        rcases List.mem_cons.mp hx with rfl | hx
        · exact hn rfl
        · exact hd (congrArg (·.op) (List.mem_singleton.mp hx))
      obtain ⟨inner, outer, hcalls, rfl⟩ := framed_split hn hlooks hc
      exact ⟨⟨past, t, step, rest, calls, _, hr, he⟩, start, inner, outer, hcalls, rfl⟩

theorem exec_runFrom_cons_iff (position : Nat) (t : Threaded) (step : Step) (rest : List Step)
    (log : Log) (report : FlowReport) :
    Exec (i.runFrom session position t (step :: rest)) log report ↔
      (∃ (p : Passed) (more : Log) (r : FlowReport), p.step = step ∧ log = p.calls ++ more ∧
        Ends (i.registry.execute (i.context session t step)) p.log (.ok p.produced) ∧
        Exec (i.runFrom session (position + 1) (t.after p.produced) rest) more r ∧
        report = ⟨r.success, p.outcome :: r.results⟩) ∨
      ∃ (calls : Log) (e : FlowError) (start stop : Instant) (date : Moment),
        log = ⟨.now, start⟩ :: calls ++ [⟨.now, stop⟩, ⟨.date, date⟩] ∧
        Ends (i.registry.execute (i.context session t step)) calls (.error e) ∧
        report = ⟨false, [failedOutcome position step start stop e date]⟩ := by
  simp only [runFrom, Engine.ask, Prog.exec_bind_iff, Prog.exec_call_iff]
  constructor
  · rintro ⟨_, start, _, rfl, rfl, calls, o, _, rfl, ho, _, stop, more, rfl, rfl, h⟩
    cases o with
    | ok produced =>
      obtain ⟨first, r, second, rfl, hr, hd⟩ := (Prog.exec_bind_iff _ _ _).mp h
      obtain ⟨rfl, rfl⟩ := (Prog.exec_done_iff _ _).mp hd
      exact Or.inl ⟨⟨step, start, stop, calls, produced⟩, first, r, rfl, by simp [Passed.calls],
        ho, hr, rfl⟩
    | error e =>
      obtain ⟨_, date, _, rfl, hc, hd⟩ := (Prog.exec_bind_iff _ _ _).mp h
      obtain rfl := (Prog.exec_call_iff _ _).mp hc
      obtain ⟨rfl, rfl⟩ := (Prog.exec_done_iff _ _).mp hd
      exact Or.inr ⟨calls, e, start, stop, date, by simp, ho, rfl⟩
  · rintro (⟨p, more, r, rfl, rfl, ho, hr, rfl⟩ | ⟨calls, e, start, stop, date, rfl, ho, rfl⟩)
    · refine ⟨_, p.start, _, by simp [Passed.calls], rfl, p.log, .ok p.produced, _, rfl, ho,
        _, p.stop, more, rfl, rfl, ?_⟩
      exact (Prog.exec_bind_iff _ _ _).mpr ⟨more, r, [], (List.append_nil more).symm, hr, .done _⟩
    · refine ⟨_, start, _, by simp, rfl, calls, .error e, _, rfl, ho, _, stop,
        [⟨.date, date⟩], rfl, rfl, ?_⟩
      exact (Prog.exec_bind_iff _ _ _).mpr
        ⟨_, date, [], rfl, (Prog.exec_call_iff _ _).mpr rfl, .done _⟩

theorem Reaches.finishes {past t left} (h : Reaches i session steps past t left) {log : Log}
    {report : FlowReport} (hr : Exec (i.runFrom session (past.length + 1) t left) log report) :
    Finishes i session steps (past.flatMap Passed.calls ++ log)
      ⟨report.success, past.map Passed.outcome ++ report.results⟩ := by
  induction left generalizing past t log report with
  | nil =>
    obtain ⟨rfl, rfl⟩ := (Prog.exec_done_iff _ _).mp hr
    simpa using Finishes.passed h
  | cons step rest ih =>
    rcases (exec_runFrom_cons_iff _ _ _ _ _ _).mp hr with
      ⟨p, more, r, rfl, rfl, he, hm, rfl⟩ | ⟨calls, e, start, stop, date, rfl, he, rfl⟩
    · have hn := ih (h.pass he) (show Exec (i.runFrom session ((past ++ [p]).length + 1)
        (t.after p.produced) rest) more r by simpa using hm)
      simpa [List.flatMap_append] using hn
    · exact Finishes.failed h he

theorem Reaches.exec {past t left} (h : Reaches i session steps past t left) {log : Log}
    {report : FlowReport} (hr : Exec (i.runFrom session (past.length + 1) t left) log report) :
    Exec (i.runSteps session steps) (past.flatMap Passed.calls ++ log)
      ⟨report.success, past.map Passed.outcome ++ report.results⟩ := by
  induction h generalizing log report with
  | start => exact hr
  | @pass past t rest p _ he ih =>
    have hp : Exec (i.runFrom session (past.length + 1) t (p.step :: rest)) (p.calls ++ log)
        ⟨report.success, p.outcome :: report.results⟩ :=
      (exec_runFrom_cons_iff _ _ _ _ _ _).mpr
        (Or.inl ⟨p, log, report, rfl, rfl, he, by simpa using hr, rfl⟩)
    simpa [List.flatMap_append] using ih hp

/-- All that a run does, whatever the calls answer: it passes steps from the first on, and ends
after the last of them or with one that fails. -/
theorem exec_runSteps_iff (i : Interpreter) (session : Session) (steps : List Step) (log : Log)
    (report : FlowReport) :
    Exec (i.runSteps session steps) log report ↔ Finishes i session steps log report := by
  constructor
  · intro h
    have hs : Reaches i session steps [] .start steps := .start
    simpa using hs.finishes h
  · intro h
    cases h with
    | @passed past t h =>
      have hd : Exec (i.runFrom session (past.length + 1) t []) [] ⟨true, []⟩ := .done _
      simpa using h.exec hd
    | @failed past t step rest calls e start stop date h he =>
      exact h.exec ((exec_runFrom_cons_iff _ _ _ _ _ _).mpr
        (Or.inr ⟨calls, e, start, stop, date, rfl, he, rfl⟩))

end Interpreter
end PageFlow
