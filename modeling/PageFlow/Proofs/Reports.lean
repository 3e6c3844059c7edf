import PageFlow.Proofs.Selection

/-! Reports of runs as a whole. A run uses the registry once for every step it starts, and its
report has one outcome for each of these uses, in order. What callers read off a report follows:
how far the run came, which step stopped it and why, and what each step captured. -/
namespace PageFlow
namespace Interpreter

open Engine
open Prog (Exec)

/-- One use of the registry: for which step, when it was started and had ended, the calls of the
executor and what these came to. -/
structure Use where
  step : Step
  start : Instant
  stop : Instant
  log : Log
  answer : Except FlowError (Option Pending)

def Use.calls (u : Use) : Log := ⟨.now, u.start⟩ :: u.log ++ [⟨.now, u.stop⟩]

def Passed.use (p : Passed) : Use := ⟨p.step, p.start, p.stop, p.log, .ok p.produced⟩

def stopDetails (position : Nat) (action : Action) (cause : FlowError) : Json :=
  .obj [("action", .str action.name), ("cause", .str cause.code), ("step", .ofNat position)]

/-- A report as an account of what a run has done. -/
structure Accounts (i : Interpreter) (session : Session) (steps : List Step) (log : Log)
    (report : FlowReport) (uses : List Use) : Prop where
  /-- Apart from the uses a run asks for the date alone, once, when it was stopped. -/
  calls : ∃ dates : List Moment, log = uses.flatMap Use.calls ++ dates.map (⟨.date, ·⟩) ∧
    dates.length = if report.success then 0 else 1
  executed : ∀ u ∈ uses, ∃ t, Ends (i.registry.execute (i.context session t u.step)) u.log u.answer
  used : uses.map Use.step = report.results.map StepOutcome.step
  reported : ∀ k u o, uses[k]? = some u → report.results[k]? = some o →
    Reported (k + 1) u.step u.answer o
  in_order : report.results.map StepOutcome.step <+: steps
  success_iff : report.success = true ↔
    report.results.length = steps.length ∧ ∀ o ∈ report.results, o.error = none
  error_last : ∀ o ∈ report.results.dropLast, o.error = none
  not_both : ∀ o ∈ report.results, o.result = none ∨ o.error = none
  failure_iff : report.failure.isSome ↔ report.success = false
  capturing : ∀ o ∈ report.results, o.result.isSome → o.step.action.isCapturing
  stopped : report.success = false → ∃ u e body, uses.getLast? = some u ∧ u.answer = .error e ∧
    report.failure = some body ∧ body.code = "STEP_PROCESSING_ERROR" ∧
    body.details = some (stopDetails report.results.length u.step.action e)

theorem isCapturing_of_captured {step : Step} {produced : Option Pending}
    (h : (captured step produced).isSome) : step.action.isCapturing := by
  unfold captured at h
  split at h
  · assumption
  · cases h

theorem captured_of_leaves {step : Step} {produced : Option Pending}
    (h : Executor.Leaves step.action produced) (hc : step.action.isCapturing) :
    (captured step produced).isSome := by
  have hf : step.action ≠ .findElement := by
    intro hf
    rw [hf] at hc
    cases hc
  rw [Executor.Leaves, if_neg hf, if_pos hc] at h
  obtain ⟨w, rfl⟩ := h
  rw [captured, if_pos hc]
  rfl

section Accounts

variable {i : Interpreter} {session : Session} {steps : List Step} {past : List Passed}
  {t : Threaded} {o : StepOutcome}

theorem flatMap_calls (past : List Passed) :
    past.flatMap Passed.calls = (past.map Passed.use).flatMap Use.calls := by
  rw [List.flatMap_map]; rfl

theorem error_eq_none (h : o ∈ past.map Passed.outcome) : o.error = none := by
  obtain ⟨p, -, rfl⟩ := List.mem_map.mp h
  rfl

theorem isCapturing_of_result (h : o ∈ past.map Passed.outcome) (hr : o.result.isSome) :
    o.step.action.isCapturing := by
  obtain ⟨p, -, rfl⟩ := List.mem_map.mp h
  exact isCapturing_of_captured hr

theorem reported_passed {k : Nat} {u : Use} (hu : (past.map Passed.use)[k]? = some u)
    (ho : (past.map Passed.outcome)[k]? = some o) : Reported (k + 1) u.step u.answer o := by
  rw [List.getElem?_map] at hu ho
  obtain ⟨p, hp, rfl⟩ := Option.map_eq_some_iff.mp hu
  rw [hp] at ho
  obtain rfl := Option.some.inj ho
  exact .passed _ _

theorem Reaches.executed {left : List Step} (h : Reaches i session steps past t left) {u : Use}
    (hu : u ∈ past.map Passed.use) :
    ∃ t, Ends (i.registry.execute (i.context session t u.step)) u.log u.answer := by
  obtain ⟨p, hp, rfl⟩ := List.mem_map.mp hu
  obtain ⟨earlier, later, rfl⟩ := List.append_of_mem hp
  obtain ⟨t, rest, -, he⟩ := h.passed rfl
  exact ⟨t, he⟩

theorem Reaches.accounts (h : Reaches i session steps past t []) :
    Accounts i session steps (past.flatMap Passed.calls) ⟨true, past.map Passed.outcome⟩
      (past.map Passed.use) where
  calls := ⟨[], by rw [flatMap_calls]; simp, rfl⟩
  executed u hu := h.executed hu
  used := by simp only [List.map_map]; rfl
  reported k u o hu ho := reported_passed hu ho
  in_order := by
    rw [h.steps_eq, List.append_nil, List.map_map]
    exact List.prefix_rfl
  success_iff := by
    have hl : steps.length = past.length := by rw [h.steps_eq]; simp
    exact iff_of_true rfl ⟨by simp [hl], fun o ho => error_eq_none ho⟩
  error_last o ho := error_eq_none (List.dropLast_subset _ ho)
  not_both o ho := Or.inr (error_eq_none ho)
  failure_iff := by
    refine iff_of_false ?_ (by simp)
    rw [FlowReport.failure]
    cases hl : (past.map Passed.outcome).getLast? with
    | none => simp
    | some o => simp [error_eq_none (List.mem_of_getLast? hl)]
  capturing o ho hr := isCapturing_of_result ho hr
  stopped hf := by cases hf

/-- The account of a run that was stopped: its last use of the registry is the one that failed. -/
theorem Reaches.accounts_failed {step : Step} {rest : List Step} {log : Log} {e : FlowError}
    (h : Reaches i session steps past t (step :: rest))
    (he : Ends (i.registry.execute (i.context session t step)) log (.error e))
    (start stop : Instant) (date : Moment) :
    Accounts i session steps
      (past.flatMap Passed.calls ++ (⟨.now, start⟩ :: log ++ [⟨.now, stop⟩, ⟨.date, date⟩]))
      ⟨false, past.map Passed.outcome ++ [failedOutcome (past.length + 1) step start stop e date]⟩
      (past.map Passed.use ++ [⟨step, start, stop, log, .error e⟩]) where
  calls := ⟨[date], by rw [flatMap_calls]; simp [Use.calls], rfl⟩
  executed u hu := by
    rcases List.mem_append.mp hu with hu | hu
    · exact h.executed hu
    · obtain rfl := List.mem_singleton.mp hu
      exact ⟨t, he⟩
  used := by simp only [List.map_append, List.map_map]; rfl
  reported k u o hu ho := by
    rcases Nat.lt_or_ge k past.length with hk | hk
    · rw [List.getElem?_append_left (by simpa using hk)] at hu ho
      exact reported_passed hu ho
    · rw [List.getElem?_append_right (by simpa using hk), List.length_map] at hu ho
      obtain ⟨hn, rfl⟩ := List.getElem?_eq_some_iff.mp hu
      obtain ⟨-, rfl⟩ := List.getElem?_eq_some_iff.mp ho
      have hl : k = past.length := by
        rw [List.length_singleton] at hn
        omega
      subst hl
      simp only [List.getElem_singleton]
      exact .failed e _ _
  in_order := by
    rw [h.steps_eq]
    exact ⟨rest, by simp [Function.comp_def, Passed.outcome, failedOutcome]⟩
  success_iff := by
    refine iff_of_false (by simp) ?_
    rintro ⟨-, hn⟩
    have := hn _ (List.mem_append_right _ (List.mem_singleton_self _))
    cases this
  error_last o ho := by
    rw [List.dropLast_concat] at ho
    exact error_eq_none ho
  not_both o ho := by
    rcases List.mem_append.mp ho with ho | ho
    · exact Or.inr (error_eq_none ho)
    · obtain rfl := List.mem_singleton.mp ho
      exact Or.inl rfl
  failure_iff := iff_of_true (by simp [FlowReport.failure, failedOutcome]) rfl
  capturing o ho hr := by
    rcases List.mem_append.mp ho with ho | ho
    · exact isCapturing_of_result ho hr
    · obtain rfl := List.mem_singleton.mp ho
      cases hr
  stopped _ := by
    refine ⟨_, e, _, List.getLast?_concat, rfl, by
      rw [FlowReport.failure, List.getLast?_concat]; rfl, rfl, ?_⟩
    simp only [List.length_append, List.length_map, List.length_singleton]
    rfl

theorem Finishes.accounts {log : Log} {report : FlowReport}
    (h : Finishes i session steps log report) :
    ∃ uses, Accounts i session steps log report uses := by
  cases h with
  | passed hr => exact ⟨_, hr.accounts⟩
  | failed hr he => exact ⟨_, hr.accounts_failed he _ _ _⟩

/-- The built-in executors of capturing actions leave something to keep. -/
theorem Finishes.captures {config : EngineConfig} {log : Log} {report : FlowReport}
    (h : Finishes (standard config) session steps log report) (ho : o ∈ report.results)
    (hc : o.step.action.isCapturing) (he : o.error = none) : o.result.isSome := by
  obtain ⟨k, hk⟩ := List.mem_iff_getElem?.mp ho
  obtain ⟨past, t, -, -, _, _, _, _, -, hr, hp⟩ := h.starts hk
  generalize o.step = step at hr hp hc
  cases hp with
  | passed produced taken =>
    exact captured_of_leaves (Executor.yields_builtIn _ _ _ _ _ hr) hc
  | failed e taken timestamp => cases he

end Accounts

/-- A run comes to a report whatever the calls answer, and the report is an account of it. Under
the built-in executors every capturing step that went well has a result. -/
theorem runSteps_accounts (i : Interpreter) (session : Session) (steps : List Step) :
    (∀ b : Prog.Behaviour Op Reply, ∃ log report,
      Exec (i.runSteps session steps) log report ∧ b.Gives [] log) ∧
    ∀ log report, Exec (i.runSteps session steps) log report →
      (∃ uses, Accounts i session steps log report uses) ∧
      ∀ config, i = standard config → ∀ o ∈ report.results,
        o.step.action.isCapturing → o.error = none → o.result.isSome := by
  refine ⟨fun b => Prog.exists_exec b _ [], fun log report h => ?_⟩
  have hf := (exec_runSteps_iff i session steps log report).mp h
  refine ⟨hf.accounts, ?_⟩
  rintro config rfl o ho hc he
  exact hf.captures ho hc he

def finder : Interpreter := ⟨Registry.empty.register .findElement Actions.findElement, .default⟩

/-- A click without an executor stops the run; the capture behind it is not started. -/
theorem runSteps_accounts_of_finder : ∃ log report uses,
    Exec (finder.runSteps someSession [finding, clicking, capturing]) log report ∧
      Accounts finder someSession [finding, clicking, capturing] log report uses ∧
      report.success = false ∧ report.results.map StepOutcome.step = [finding, clicking] := by
  have hr : (finder.runSteps someSession [finding, clicking, capturing]).run smooth () =
      (some ⟨false, [⟨finding, secondsBetween 0 0, none, none⟩,
        failedOutcome 2 clicking 0 0 (.notFound "executor for clickElement")
          ⟨1970, 1, 1, 0, 0, 0, 0⟩]⟩, ()) := rfl
  obtain ⟨log, hl, -⟩ := Prog.exec_of_run hr
  obtain ⟨⟨uses, hu⟩, -⟩ := (runSteps_accounts finder someSession _).2 log _ hl
  exact ⟨log, _, uses, hl, hu, rfl, rfl⟩

end Interpreter
end PageFlow
