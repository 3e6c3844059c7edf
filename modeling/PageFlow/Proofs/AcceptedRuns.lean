import PageFlow.Proofs.Adjacency
import PageFlow.Proofs.Selection
import PageFlow.Proofs.Subjects

/-! What it means for a run that the grammar has accepted its steps. The check only compares
neighbours; followed back along a flow, it leads every step that works on elements to a lookup on
the same page. So such a step never lacks elements, and never holds any of an earlier page. -/
namespace PageFlow

/-- The code of the error that a step ended with. -/
def ErrorBody.cause? (b : ErrorBody) : Option String :=
  match b.details with
  | some (.obj fields) => match fields.lookup "cause" with
    | some (.str code) => some code
    | _ => none
  | _ => none

def StepOutcome.cause? (o : StepOutcome) : Option String := o.error.bind ErrorBody.cause?

theorem FlowError.code_missingContext_iff (e : FlowError) :
    e.code = "MISSING_CONTEXT" ↔ ∃ a, e = .missingContext a := by
  constructor
  · intro h
    cases e with
    | missingContext a => exact ⟨a, rfl⟩
    | _ => simp [code] at h
  · rintro ⟨a, rfl⟩; rfl

namespace Interpreter

open Engine Grammar
open Prog (Exec)

theorem Reported.cause_iff {position : Nat} {step : Step} {r : Except FlowError (Option Pending)}
    {o : StepOutcome} (h : Reported position step r o) :
    o.cause? = some "MISSING_CONTEXT" ↔ ∃ a, r = .error (.missingContext a) := by
  cases h with
  | passed produced taken => simp [StepOutcome.cause?]
  | failed e taken timestamp =>
    have hc : (ErrorBody.ofError (.stepProcessing position step.action e) timestamp).cause? =
        some e.code := rfl
    rw [StepOutcome.cause?, Option.bind_some, hc, Option.some.injEq, e.code_missingContext_iff]
    simp

section Runs

variable {config : EngineConfig} {session : Session} {steps : List Step} {past : List Passed}
  {t : Threaded} {step : Step} {rest : List Step}

/-- In a run of an accepted flow, a step that works on elements comes after a lookup, with no other
lookup and no navigation since. -/
theorem Reaches.lookup_before {i : Interpreter}
    (h : Reaches i session steps past t (step :: rest)) (hs : Accepted steps)
    (hc : step.action.consumesElement = true) :
    ∃ earlier p later, past = earlier ++ p :: later ∧ p.step.action = .findElement ∧
      ∀ q ∈ later, q.step.action ≠ .navigate ∧ q.step.action ≠ .findElement := by
  rw [h.steps_eq] at hs
  obtain ⟨before, find, between, he, hf, hb⟩ := hs.lookup_before hc
  obtain ⟨earlier, found, rfl, -, hm⟩ := List.map_eq_append_iff.mp he
  obtain ⟨p, later, rfl, rfl, hl⟩ := List.map_eq_cons_iff.mp hm
  refine ⟨earlier, p, later, rfl, hf, ?_⟩
  intro q hq
  exact hb.ne_navigate q.step (by rw [← hl]; exact List.mem_map_of_mem hq)

theorem Reaches.missing_iff (h : Reaches (standard config) session steps past t (step :: rest))
    (hs : Accepted steps) {calls : Log} {r : Except FlowError (Option Pending)}
    (hr : Ends ((standard config).registry.execute ((standard config).context session t step))
      calls r) (hd : ∀ x ∈ calls, ∀ a, .missingContext a ∉ x.failures) :
    (∃ a, r = .error (.missingContext a)) ↔ step.LooksInSelection ∧ NoLookup past := by
  have ht := h.linked.elementTarget (standard config) session step
  constructor
  · rintro ⟨a, rfl⟩
    rcases Executor.faults_builtIn _ _ _ _ hr rfl with ⟨x, hx, hm⟩ | ⟨-, hf⟩
    · exact absurd hm (hd x hx a)
    -- the step itself found no elements at hand, so no lookup has been passed
    obtain ⟨hn, hm⟩ := hf.noElements_of
    rw [ht] at hm
    have hl : NoLookup past := by
      rcases noLookup_or_latest past with hl | ⟨earlier, p, later, hp, hf, hl⟩
      · exact hl
      · rw [(h.produced_target hp hf hl).2] at hm; cases hm
    refine ⟨?_, hl⟩
    rcases hn with hc | hn
    · obtain ⟨earlier, p, later, rfl, hf, -⟩ := h.lookup_before hs hc
      exact absurd hf (hl p (by simp))
    · exact hn
  · rintro ⟨hl, hn⟩
    rw [latestFound_of_noLookup hn] at ht
    have hf : (standard config).registry.execute ((standard config).context session t step) =
        Actions.findElement ((standard config).context session t step) :=
      Executor.execute_findElement _ hl.1
    rw [hf] at hr
    exact ⟨_, (Executor.ends_findElement_of_missing hl (by rw [ht]; rfl) hr).2⟩

theorem Reaches.noLookup_iff {i : Interpreter}
    (h : Reaches i session steps past t (step :: rest)) :
    NoLookup past ↔
      ∀ (j : Nat) (s : Step), j < past.length → steps[j]? = some s → s.action ≠ .findElement := by
  have hj (j : Nat) (hl : j < past.length) : steps[j]? = (past[j]?).map Passed.step := by
    rw [h.steps_eq, List.getElem?_append_left (by simpa using hl), List.getElem?_map]
  constructor
  · intro hn j s hl hs
    rw [hj j hl] at hs
    obtain ⟨p, hp, rfl⟩ := Option.map_eq_some_iff.mp hs
    exact hn p (List.mem_of_getElem? hp)
  · intro hn p hp
    obtain ⟨j, hl, rfl⟩ := List.getElem_of_mem hp
    exact hn j _ hl (by rw [hj j hl, List.getElem?_eq_getElem hl]; rfl)

theorem Reaches.getElem?_length {i : Interpreter}
    (h : Reaches i session steps past t (step :: rest)) : steps[past.length]? = some step := by
  rw [h.steps_eq, List.getElem?_append_right (by simp)]; simp

end Runs

/-- In every run of an accepted flow in which no call is itself answered so, a step ends for want
of elements iff it is a lookup within the selection and no lookup stands before it in the flow. So
no step that works on elements ever ends so. -/
theorem missing_context_iff {config : EngineConfig} {session : Session} {steps : List Step}
    {log : Log} {report : FlowReport} (hv : validate steps = .ok ())
    (hr : Exec ((standard config).runSteps session steps) log report)
    (hd : ∀ x ∈ log, ∀ a, .missingContext a ∉ x.failures) :
    (∀ (k : Nat) (o : StepOutcome), report.results[k]? = some o → steps[k]? = some o.step ∧
      (o.cause? = some "MISSING_CONTEXT" ↔ o.step.LooksInSelection ∧
        ∀ (j : Nat) (s : Step), j < k → steps[j]? = some s → s.action ≠ .findElement)) ∧
    ∀ o ∈ report.results, o.step.action.consumesElement = true →
      o.cause? ≠ some "MISSING_CONTEXT" := by
  have hs : Accepted steps := (validate_ok_iff steps).mp hv
  have hf := (exec_runSteps_iff _ _ _ _ _).mp hr
  have main (k : Nat) (o : StepOutcome) (ho : report.results[k]? = some o) :
      steps[k]? = some o.step ∧ (o.cause? = some "MISSING_CONTEXT" ↔ o.step.LooksInSelection ∧
        ∀ (j : Nat) (s : Step), j < k → steps[j]? = some s → s.action ≠ .findElement) := by
    obtain ⟨past, t, rfl, ⟨rest, h⟩, start, calls, r, later, rfl, he, hp⟩ := hf.starts ho
    refine ⟨h.getElem?_length, ?_⟩
    rw [hp.cause_iff, h.missing_iff hs he fun x hx => hd x (by simp [hx]), h.noLookup_iff]
  refine ⟨main, ?_⟩
  intro o ho hc hm
  obtain ⟨k, hk⟩ := List.getElem?_of_mem ho
  obtain ⟨hl, -⟩ := ((main k o hk).2.mp hm).1
  rw [hl] at hc; cases hc

/-- A lookup in front of all others within a selection that nothing has filled. -/
theorem missing_context_iff_second : validate [navigating, findingWithin] = .ok () ∧
    ∃ log report, Exec ((standard .default).runSteps someSession [navigating, findingWithin]) log
        report ∧
      ∃ o, report.results[1]? = some o ∧ o.cause? = some "MISSING_CONTEXT" := by
  have hv : validate [navigating, findingWithin] = .ok () := rfl
  obtain ⟨log, hl, ha⟩ := @Prog.exec_of_run Op Reply _ _ smooth
    ((standard .default).runSteps someSession [navigating, findingWithin]) () () _ rfl
  have hd : ∀ x : Exchange, x ∈ log → ∀ a, .missingContext a ∉ x.failures := by
    intro x hx a
    rw [smooth_failures (ha x hx)]
    exact List.not_mem_nil
  have hm := ((missing_context_iff hv hl hd).1 1 _ rfl).2
  refine ⟨hv, log, _, hl, _, rfl, hm.mpr ⟨⟨rfl, _, rfl, rfl⟩, ?_⟩⟩
  intro j s hj hs
  obtain rfl : j = 0 := by omega
  obtain rfl := Option.some.inj hs
  decide

/-- These elements were found by a lookup, and neither a navigation nor another lookup has been
passed since. -/
def FoundHere (past : List Passed) (target : Pending) : Prop :=
  ∃ earlier p later, past = earlier ++ p :: later ∧ p.step.action = .findElement ∧
    p.produced = some target ∧ target.held ⊆ foundIn p.log ∧
    ∀ q ∈ later, q.step.action ≠ .navigate ∧ q.step.action ≠ .findElement

/-- The elements at hand of a step that works on elements, in a run of an accepted flow. -/
theorem Reaches.foundHere {config : EngineConfig} {session : Session} {steps : List Step}
    {past : List Passed} {t : Threaded} {step : Step} {rest : List Step}
    (h : Reaches (standard config) session steps past t (step :: rest)) (hs : Accepted steps)
    (hc : step.action.consumesElement = true) :
    FoundHere past ((standard config).context session t step).elementTarget := by
  obtain ⟨earlier, p, later, hp, hf, hl⟩ := h.lookup_before hs hc
  have ht := h.linked.elementTarget (standard config) session step
  obtain ⟨hv, -⟩ := h.produced_target hp hf fun q hq => (hl q hq).2
  rw [ht]
  refine ⟨earlier, p, later, hp, hf, hv, ?_, hl⟩
  obtain ⟨u, rest', -, he⟩ := h.passed hp
  rw [execute_standard] at he
  have ha : (((standard config).context session u p.step)).step.action = .findElement := hf
  rw [ha, hv] at he
  exact Executor.finds_findElement _ _ _ he

/-- In an accepted flow every step that works on elements comes after a lookup, and between the two
stand at most one click or scroll and then extractions. So in every run such a step is started with
elements that were found after the latest navigation of the run, and makes its calls on them. Of all
other steps, only a lookup within the selection looks at what was found before: the rest would do
the same with anything at hand. -/
theorem accepted_elements_fresh {steps : List Step} (hv : validate steps = .ok ()) :
    (∀ before s after, steps = before ++ s :: after → s.action.consumesElement = true →
      ∃ earlier find between, before = earlier ++ find :: between ∧ find.action = .findElement ∧
        Between between) ∧
    ∀ (config : EngineConfig) (session : Session) (log : Log) (report : FlowReport),
      Exec ((standard config).runSteps session steps) log report →
      ∀ (k : Nat) (o : StepOutcome), report.results[k]? = some o →
      ∃ past t, past.length = k ∧ Starts (standard config) session steps log past t o ∧
        let c := (standard config).context session t o.step
        let execute := (standard config).registry.execute
        (o.step.action.consumesElement = true → FoundHere past c.elementTarget ∧
          ∀ calls r, Ends (execute c) calls r →
            ∀ x ∈ calls, x.op.subjects ⊆ c.elementTarget.held) ∧
        (o.step.action.consumesElement = false → ¬ o.step.LooksInSelection → ∀ prev selection,
          execute { c with prev := prev, selection := selection } = execute c) := by
  have hs : Accepted steps := (validate_ok_iff steps).mp hv
  constructor
  · rintro before s after rfl hc
    exact hs.lookup_before hc
  · intro config session log report hr k o ho
    obtain ⟨past, t, hk, hstarts⟩ := ((exec_runSteps_iff _ _ _ _ _).mp hr).starts ho
    obtain ⟨rest, h⟩ := hstarts.reaches
    refine ⟨past, t, hk, hstarts, fun hc => ?_, fun hc hl prev selection => ?_⟩
    · exact ⟨h.foundHere hs hc, Executor.staysOn_builtIn _ hc⟩
    · refine Executor.builtIn_of_not_needs config.pdf.extractor
        (c := (standard config).context session t o.step) ?_ prev selection
      rintro (hc' | hl')
      · exact Bool.false_ne_true (hc.symm.trans hc')
      · exact hl hl'

/-- The click in front of the second navigation works on what the lookup behind the first one has
found; after the second navigation a lookup within the selection still starts from it. -/
theorem accepted_elements_fresh_around_navigation :
    let flow := [navigating, finding, clicking, navigating, findingWithin]
    validate flow = .ok () ∧ ∃ log report o o' past t past' t',
      Exec ((standard .default).runSteps someSession flow) log report ∧
      report.results[2]? = some o ∧ report.results[4]? = some o' ∧
      Starts (standard .default) someSession flow log past t o ∧ o.step = clicking ∧
      FoundHere past (.element button) ∧
      Starts (standard .default) someSession flow log past' t' o' ∧
      past'.map Passed.step = [navigating, finding, clicking, navigating] ∧
      o'.step.LooksInSelection ∧
      ((standard .default).context someSession t' o'.step).elementTarget = .element button := by
  intro flow
  have hv : validate flow = .ok () := rfl
  have h₀ : Reaches (standard .default) someSession flow [] .start flow := .start
  obtain ⟨log₁, h₁⟩ := h₀.pass_smooth none rfl
  obtain ⟨log₂, h₂⟩ := h₁.pass_smooth (some (.element button)) rfl
  obtain ⟨log₃, h₃⟩ := h₂.pass_smooth none rfl
  obtain ⟨log₄, h₄⟩ := h₃.pass_smooth none rfl
  obtain ⟨log₅, h₅⟩ := h₄.pass_smooth (some (.element button)) rfl
  have hr := (exec_runSteps_iff _ _ _ _ _).mpr (.passed h₅)
  have hfresh := (accepted_elements_fresh hv).2 _ _ _ _ hr
  obtain ⟨past, t, hk, hs, hf, -⟩ := hfresh 2 _ rfl
  obtain ⟨rfl, rfl⟩ := h₂.eq_of_starts ⟨[_, _, _], rfl⟩ hs hk
  obtain ⟨past', t', hk', hs', -⟩ := hfresh 4 _ rfl
  obtain ⟨rfl, rfl⟩ := h₄.eq_of_starts ⟨[_], rfl⟩ hs' hk'
  exact ⟨hv, _, _, _, _, _, _, _, _, hr, rfl, rfl, hs, rfl, (hf rfl).1, hs', rfl,
    ⟨rfl, _, rfl, rfl⟩, rfl⟩

end Interpreter
end PageFlow
