import PageFlow.Proofs.Executors
import PageFlow.Proofs.Steps

/-! The selection along a run of the built-in executors. Whatever lies in between, it is what the
latest lookup produced, and the elements at hand are the selection. The value and the selection
that are handed on are compared by an invariant, which every kind of value keeps. -/
namespace PageFlow
namespace Interpreter

open Engine

def NoLookup (past : List Passed) : Prop := ∀ p ∈ past, p.step.action ≠ .findElement

def Passed.select (selection : Pending) (p : Passed) : Pending :=
  if p.step.action = .findElement then p.produced.getD .empty else selection

/-- What the latest lookup produced; without one, nothing. -/
def latestFound (past : List Passed) : Pending := past.foldl Passed.select .empty

theorem foldl_select {past : List Passed} (h : NoLookup past) (v : Pending) :
    past.foldl Passed.select v = v := by
  induction past with
  | nil => rfl
  | cons p rest ih =>
    rw [List.foldl_cons, Passed.select, if_neg (h p List.mem_cons_self)]
    exact ih fun q hq => h q (List.mem_cons_of_mem p hq)

theorem latestFound_of_noLookup {past : List Passed} (h : NoLookup past) :
    latestFound past = .empty := foldl_select h .empty

theorem latestFound_of_lookup {earlier : List Passed} {p : Passed} {later : List Passed}
    (hp : p.step.action = .findElement) (h : NoLookup later) :
    latestFound (earlier ++ p :: later) = p.produced.getD .empty := by
  rw [latestFound, List.foldl_append, List.foldl_cons, Passed.select, if_pos hp]
  exact foldl_select h _

theorem latestFound_concat (past : List Passed) (p : Passed) :
    latestFound (past ++ [p]) = p.select (latestFound past) := by
  rw [latestFound, List.foldl_append]; rfl

theorem noLookup_or_latest (past : List Passed) : NoLookup past ∨
    ∃ earlier p later, past = earlier ++ p :: later ∧ p.step.action = .findElement ∧
      NoLookup later := by
  induction past with
  | nil => exact Or.inl fun p hp => by cases hp
  | cons q rest ih =>
    rcases ih with h | ⟨earlier, p, later, rfl, hp, hl⟩
    · by_cases hq : q.step.action = .findElement
      · exact Or.inr ⟨[], q, rest, rfl, hq, h⟩
      · exact Or.inl (List.forall_mem_cons.mpr ⟨hq, h⟩)
    · exact Or.inr ⟨q :: earlier, p, later, rfl, hp, hl⟩

/-- How the value and the selection that a run hands on belong to each other and to the steps that
it has passed. -/
structure Threaded.Linked (past : List Passed) (t : Threaded) : Prop where
  of_empty : t.prev = .empty → t.selection = .empty
  of_context : t.prev.isElementContext = true → t.selection = t.prev
  latest : t.selection = latestFound past

theorem Threaded.linked_start : Threaded.start.Linked [] := by
  constructor
  · intro _; rfl
  · intro h; cases h
  · rfl

/-- A lookup moves the value and the selection together, a captured value only covers the
selection, and all else changes neither. -/
theorem Threaded.Linked.after {past : List Passed} {t : Threaded} {p : Passed}
    (h : t.Linked past) (hp : Executor.Leaves p.step.action p.produced) :
    (t.after p.produced).Linked (past ++ [p]) := by
  unfold Executor.Leaves at hp
  split at hp
  · rename_i ha
    obtain ⟨v, hv, hc⟩ := hp
    have ht : t.after p.produced = ⟨v, v⟩ := by
      rw [hv, Threaded.after, if_pos hc]
    rw [ht]
    refine ⟨id, fun _ => rfl, ?_⟩
    rw [latestFound_concat, Passed.select, if_pos ha, hv]; rfl
  · rename_i ha
    have hl : t.selection = latestFound (past ++ [p]) := by
      rw [latestFound_concat, Passed.select, if_neg ha]; exact h.latest
    split at hp
    · obtain ⟨w, hw⟩ := hp
      have ht : t.after p.produced = ⟨.value w, t.selection⟩ := by rw [hw]; rfl
      rw [ht]
      constructor
      · intro he; cases he
      · intro hc; cases hc
      · exact hl
    · have ht : t.after p.produced = t := by rw [hp]; rfl
      rw [ht]
      exact ⟨h.of_empty, h.of_context, hl⟩

/-- The elements at hand are those of the latest lookup, whatever came after it. -/
theorem Threaded.Linked.elementTarget {past : List Passed} {t : Threaded} (h : t.Linked past)
    (i : Interpreter) (session : Session) (step : Step) :
    (i.context session t step).elementTarget = latestFound past := by
  rw [← h.latest]
  obtain ⟨prev, selection⟩ := t
  cases prev with
  | empty => exact (h.of_empty rfl).symm
  | value w => rfl
  | element e | elements all | notFound miss => exact (h.of_context rfl).symm

section Runs

variable {config : EngineConfig} {session : Session} {steps : List Step} {past : List Passed}
  {t : Threaded} {left : List Step}

theorem execute_standard (c : Context) : (standard config).registry.execute c =
    Executor.builtIn config.pdf.extractor c.step.action c := rfl

theorem Reaches.linked (h : Reaches (standard config) session steps past t left) :
    t.Linked past := by
  induction h with
  | start => exact Threaded.linked_start
  | pass _ he ih => exact ih.after (Executor.yields_builtIn _ _ _ _ _ he)

theorem Reaches.leaves (h : Reaches (standard config) session steps past t left) {p : Passed}
    (hp : p ∈ past) : Executor.Leaves p.step.action p.produced := by
  obtain ⟨earlier, later, rfl⟩ := List.append_of_mem hp
  obtain ⟨u, rest, -, he⟩ := h.passed rfl
  exact Executor.yields_builtIn _ _ _ _ _ he

/-- The elements at hand after a lookup, if no other lookup has followed it. -/
theorem Reaches.produced_target (h : Reaches (standard config) session steps past t left)
    {earlier : List Passed} {p : Passed} {later : List Passed} (hp : past = earlier ++ p :: later)
    (hf : p.step.action = .findElement) (hl : NoLookup later) :
    p.produced = some (latestFound past) ∧ (latestFound past).isElementContext = true := by
  have hm : p ∈ past := by rw [hp]; simp
  obtain ⟨v, hv, hc⟩ : ∃ v, p.produced = some v ∧ v.isElementContext = true := by
    have hk := h.leaves hm
    unfold Executor.Leaves at hk
    rwa [if_pos hf] at hk
  have he : latestFound past = v := by rw [hp, latestFound_of_lookup hf hl, hv]; rfl
  rw [he]
  exact ⟨hv, hc⟩

end Runs

/-- In every run, of an accepted flow or not and whatever the calls answered, every step is started
with these elements at hand: exactly what the latest lookup of the run produced, and nothing if
there was none. The value at hand is empty only while the selection is, and elements in it are the
selection. -/
theorem elementTarget_latest {config : EngineConfig} {session : Session} {steps : List Step}
    {log : Log} {report : FlowReport}
    (hr : Prog.Exec ((standard config).runSteps session steps) log report) {k : Nat}
    {o : StepOutcome} (ho : report.results[k]? = some o) :
    ∃ past t, past.length = k ∧ Starts (standard config) session steps log past t o ∧
      let c := (standard config).context session t o.step
      ((∀ p ∈ past, p.step.action ≠ .findElement) → c.elementTarget = .empty) ∧
      (∀ earlier p later, past = earlier ++ p :: later → p.step.action = .findElement →
        (∀ q ∈ later, q.step.action ≠ .findElement) →
          p.produced = some c.elementTarget ∧ c.elementTarget.isElementContext = true) ∧
      (c.prev = .empty → c.selection = .empty) ∧
      (c.prev.isElementContext = true → c.selection = c.prev) := by
  obtain ⟨past, t, hk, hs⟩ := ((exec_runSteps_iff _ _ _ _ _).mp hr).starts ho
  obtain ⟨rest, h⟩ := hs.reaches
  have ht := h.linked.elementTarget (standard config) session o.step
  refine ⟨past, t, hk, hs, fun hn => ?_, fun earlier p later hp hf hl => ?_, h.linked.of_empty,
    h.linked.of_context⟩
  · rw [ht]
    exact latestFound_of_noLookup hn
  · rw [ht]
    exact h.produced_target hp hf hl

section Samples

def button : Element := ⟨⟨0⟩, 1, "button", "css button"⟩
def someSession : Session := ⟨0, ⟨0⟩, ⟨0⟩⟩

def navigating : Step := .ofAction .navigate (.obj [("url", .str "u")])
def finding : Step := .ofAction .findElement (.obj [("locator", .str "button")])
def findingWithin : Step :=
  .ofAction .findElement (.obj [("locator", .str "a"), ("scoped", .bool true)])
def capturing : Step := .ofAction .screenshot .null
def clicking : Step := .ofAction .click .null

def smooth : (op : Op) → Unit → Option (Reply op) × Unit
  | .goto _ _ _ _, s => (some (.ok ()), s)
  | .query _ _ _, s => (some (.ok [button]), s)
  | .isVisible _, s => (some (.ok true), s)
  | .scrollIntoView _, s => (some (.ok ()), s)
  | .click _, s => (some (.ok ()), s)
  | .isClosed _, s => (some false, s)
  | .screenshot _, s => (some (.ok [1, 2, 3]), s)
  | .now, s => (some (0 : Instant), s)
  | .date, s => (some (⟨1970, 1, 1, 0, 0, 0, 0⟩ : Moment), s)
  | _, s => (none, s)

theorem smooth_failures {x : Exchange} (h : ∃ t t', smooth x.op t = (some x.reply, t')) :
    x.failures = [] := by
  obtain ⟨t, t', h⟩ := h
  obtain ⟨op, r⟩ := x
  cases op <;> first
    | rfl
    | (obtain rfl := Option.some.inj (Prod.mk.inj h).1; rfl)
    | cases h

theorem Reaches.pass_smooth {i : Interpreter} {session : Session} {steps : List Step}
    {past : List Passed} {t : Threaded} {step : Step} {rest : List Step}
    (h : Reaches i session steps past t (step :: rest)) (produced : Option Pending)
    (hr : (i.registry.execute (i.context session t step)).run.run smooth () =
      (some (.ok produced), ())) :
    ∃ log, Reaches i session steps (past ++ [⟨step, 0, 0, log, produced⟩]) (t.after produced)
      rest := by
  obtain ⟨log, hl, -⟩ := Prog.exec_of_run hr
  exact ⟨log, h.pass (p := ⟨step, 0, 0, log, produced⟩) hl⟩

end Samples

/-- A lookup and a capture in front of a click: the click works on what was found. -/
theorem elementTarget_latest_after_capture : ∃ log report o past t,
    Prog.Exec ((standard .default).runSteps someSession [finding, capturing, clicking]) log report ∧
      report.results[2]? = some o ∧ o.error = none ∧
      Starts (standard .default) someSession [finding, capturing, clicking] log past t o ∧
      t.prev = .value (.bytes [1, 2, 3]) ∧
      ((standard .default).context someSession t o.step).elementTarget = .element button := by
  have h₀ : Reaches (standard .default) someSession [finding, capturing, clicking] [] .start
    [finding, capturing, clicking] := .start
  obtain ⟨log₁, h₁⟩ := h₀.pass_smooth (some (.element button)) rfl
  obtain ⟨log₂, h₂⟩ := h₁.pass_smooth (some (.value (.bytes [1, 2, 3]))) rfl
  obtain ⟨log₃, h₃⟩ := h₂.pass_smooth none rfl
  have hr := (exec_runSteps_iff _ _ _ _ _).mpr (.passed h₃)
  obtain ⟨past, t, hk, hs, -, hlatest, -⟩ := elementTarget_latest hr (k := 2) rfl
  obtain ⟨rfl, rfl⟩ := h₂.eq_of_starts ⟨[_], rfl⟩ hs hk
  obtain ⟨he, -⟩ := hlatest [] _ [_] rfl rfl (by simp [capturing, Step.ofAction])
  exact ⟨_, _, _, _, _, hr, rfl, rfl, hs, rfl, (Option.some.inj he).symm⟩

end Interpreter
end PageFlow
