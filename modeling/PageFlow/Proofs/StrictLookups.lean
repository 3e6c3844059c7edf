import PageFlow.Proofs.LookupSteps
import PageFlow.Proofs.AcceptedRuns
import PageFlow.Proofs.Rules

/-! Strict lookups and lenient ones. A strict lookup that starts somewhere fails rather than leave
nothing, and but for that it is the lenient one: both make the same calls and wait as long, so one
driver brings both to the same end, or the one to an error and the other to the record of it. Where
a strict lookup has no place to start from it does not fail. -/
namespace PageFlow

open Engine

/-- The value is an element, or a list of some. -/
def Pending.Selects (v : Pending) : Prop :=
  (∃ e, v = .element e) ∨ ∃ e rest, v = .elements (e :: rest)

theorem Pending.not_selects_nil : ¬ (elements []).Selects := by
  rintro (⟨e, h⟩ | ⟨e, rest, h⟩) <;> cases h

def Step.Readable (s : Step) : Prop :=
  match s.action with
  | .extractAttribute => ∃ p, s.params AttributeParams.read = .ok p
  | .inputText => ∃ p, s.params InputTextParams.read = .ok p
  | .extractTable => ∃ p, s.paramsOr ExtractTableParams.read .default = .ok p
  | _ => True

namespace Locator

variable {root : Root} {kind : SelectorKind} {selector : String} {o : Options} {log : Log}
  {r : Except FlowError Resolved}

theorem ends_resolve_iff : Ends (resolve root kind selector o) log r ↔
    (∃ e rest, Ends (waitFor (found root kind selector o) o.timeout) log
        (.ok (some (e :: rest))) ∧ r = .ok (if o.multiple then .many (e :: rest) else .one e)) ∨
      (Ends (waitFor (found root kind selector o) o.timeout) log (.ok none) ∧
        r = if o.strict then .error (.locatorTimeout (kind.describe selector) o.timeout.toMillis)
          else .ok (if o.multiple then .many [] else .none)) := by
  refine ⟨ends_resolve, ?_⟩
  rintro (⟨e, rest, hw, rfl⟩ | ⟨hw, rfl⟩)
  · exact hw.bind_nil (.done _)
  · by_cases hs : o.strict = true
    · rw [if_pos hs]
      exact hw.bind_nil (by rw [if_pos hs]; exact .done _)
    · rw [if_neg hs]
      exact hw.bind_nil (by rw [if_neg hs]; exact .done _)

end Locator

namespace Actions

section Lookups

variable {p : FindElementParams} {root : Root} {log : Log}

theorem selects_pendingOf {v : Locator.Resolved} (h : v.toList ≠ []) : (pendingOf p v).Selects := by
  cases v with
  | none => exact absurd rfl h
  | one e => exact Or.inl ⟨e, rfl⟩
  | many all =>
    cases all with
    | nil => exact absurd rfl h
    | cons e rest => exact Or.inr ⟨e, rest, rfl⟩

theorem lookupFrom_selects {produced : Option Pending} (hs : p.strict = true)
    (h : Ends (lookupFrom p root) log (.ok produced)) : ∃ v, produced = some v ∧ v.Selects := by
  obtain ⟨o, ho, hr⟩ := ends_map_iff.mp h
  cases o with
  | error e => cases hr
  | ok v =>
    obtain rfl := Except.ok.inj hr
    exact ⟨_, rfl, selects_pendingOf ((Locator.resolve_ok ho).2 hs)⟩

theorem Searches.selects {parents : List Element} {searches : List Search}
    {produced : Option Pending} (h : Searches p parents searches (.ok produced))
    (hs : p.strict = true) (hn : parents ≠ []) : ∃ v, produced = some v ∧ v.Selects := by
  cases h with
  | all _ hparents hits =>
    cases searches with
    | nil => exact absurd hparents.symm hn
    | cons s rest =>
      have hfirst : s.hits ≠ [] := hits hs s List.mem_cons_self
      cases hh : s.hits with
      | nil => exact absurd hh hfirst
      | cons e more => exact ⟨_, rfl, Or.inr ⟨e, _, by rw [List.flatMap_cons, hh]; rfl⟩⟩

theorem strict_findElement {c : Context} (hp : c.step.params FindElementParams.read = .ok p)
    (hs : p.strict = true) {produced : Option Pending}
    (h : Ends (findElement c) log (.ok produced)) :
    (∃ v, produced = some v ∧ v.Selects) ∨
      (p.inSelection = true ∧ c.elementTarget = .elements []) := by
  cases hi : p.inSelection with
  | false =>
    rw [findElement_of_page hp hi] at h
    exact Or.inl (lookupFrom_selects hs h)
  | true =>
    have hfails (ht : c.elementTarget.isElementContext = false) : False := by
      rw [Executor.findElement_of_inSelection hp hi] at h
      obtain ⟨o, ho, hr⟩ := ends_map_iff.mp h
      obtain ⟨-, rfl⟩ := (ends_forEachElement_of_missing ht).mp ho
      cases hr
    cases ht : c.elementTarget with
    | element e =>
      rw [findElement_of_element hp hi ht] at h
      exact Or.inl (lookupFrom_selects hs h)
    | elements all =>
      cases all with
      | nil => exact Or.inr ⟨rfl, rfl⟩
      | cons e rest =>
        obtain ⟨searches, hsearch, -⟩ := (ends_findElement_of_elements_iff hp hi ht).mp h
        exact Or.inl (hsearch.selects hs (List.cons_ne_nil e rest))
    | notFound miss =>
      rw [findElement_of_notFound hp hi ht] at h
      obtain ⟨-, hr⟩ := (ends_throw_iff _ _).mp h
      cases hr
    | empty => exact (hfails (by rw [ht]; rfl)).elim
    | value w => exact (hfails (by rw [ht]; rfl)).elim

theorem findElement_of_nil {c : Context} (hp : c.step.params FindElementParams.read = .ok p)
    (hi : p.inSelection = true) (ht : c.elementTarget = .elements []) :
    findElement c = pure (some (.elements [])) := by
  rw [findElement_of_elements hp hi ht]
  rfl

/-- How a strict lookup ends and how the lenient one does: alike if anything is found; else the one
fails, and the other keeps a record of that very error, or of several elements leaves none. -/
inductive Agree (p : FindElementParams) :
    Except FlowError (Option Pending) → Except FlowError (Option Pending) → Prop
  | one (e) : p.multiple = false →
      Agree p (.ok (some (.element e))) (.ok (some (.element e)))
  | many (e rest) : p.multiple = true →
      Agree p (.ok (some (.elements (e :: rest)))) (.ok (some (.elements (e :: rest))))
  | missed : p.multiple = false → Agree p (.error (missError p))
      (.ok (some (.notFound ⟨p.by_.describe p.locator, (findOptions p).timeout.toMillis⟩)))
  | none : p.multiple = true → Agree p (.error (missError p)) (.ok (some (.elements [])))

theorem Agree.of_notFound {r : Except FlowError (Option Pending)} {miss : LocatorMiss}
    (h : Agree p r (.ok (some (.notFound miss)))) :
    r = .error (.locatorTimeout miss.selector miss.timeoutMs) := by
  cases h with
  | missed => rfl

/-- With the calls of a strict lookup the lenient one would end as well. -/
theorem lenient_of_strict {r : Except FlowError (Option Pending)}
    (h : Ends (lookupFrom { p with strict := true } root) log r) :
    ∃ r', Ends (lookupFrom { p with strict := false } root) log r' ∧ Agree p r r' := by
  obtain ⟨o, ho, rfl⟩ := ends_map_iff.mp h
  -- both wait for the same poll; strictness decides only what is made of it
  rcases Locator.ends_resolve_iff.mp ho with ⟨e, rest, hw, rfl⟩ | ⟨hw, rfl⟩
  · have hl := Locator.ends_resolve_iff (o := findOptions { p with strict := false }).mpr
      (Or.inl ⟨e, rest, hw, rfl⟩)
    refine ⟨_, ends_map_iff.mpr ⟨_, hl, rfl⟩, ?_⟩
    by_cases hm : p.multiple = true
    · simp only [findOptions, hm, if_true]
      exact .many e rest hm
    · simp only [findOptions, hm]
      exact .one e (Bool.eq_false_of_not_eq_true hm)
  · have hl := Locator.ends_resolve_iff (o := findOptions { p with strict := false }).mpr
      (Or.inr ⟨hw, rfl⟩)
    refine ⟨_, ends_map_iff.mpr ⟨_, hl, rfl⟩, ?_⟩
    by_cases hm : p.multiple = true
    · simp only [findOptions, hm, if_true]
      exact .none hm
    · simp only [findOptions, hm]
      exact .missed (Bool.eq_false_of_not_eq_true hm)

end Lookups
end Actions

namespace Executor

/-- Over the record of a miss every action on elements fails as the miss says, without a call. -/
theorem builtIn_of_notFound (extractor : Option PdfCommand) {c : Context} {miss : LocatorMiss}
    (hn : c.step.NeedsElements) (hr : c.step.Readable) (ht : c.elementTarget = .notFound miss) :
    builtIn extractor c.step.action c = throw (.locatorTimeout miss.selector miss.timeoutMs) := by
  have hfan {τ υ : Type} {f : Element → Attempt τ} {g : Fanned τ → Attempt υ} :
      (forEachElement c f >>= g) = throw (.locatorTimeout miss.selector miss.timeoutMs) := by
    rw [forEachElement_of_notFound ht]
    rfl
  rcases hn with hc | ⟨ha, p, hp, hi⟩
  · unfold Step.Readable at hr
    cases ha : c.step.action with
    | click | scrollIntoElement | extractText => exact hfan
    | extractAttribute =>
      rw [ha] at hr
      obtain ⟨p, hp⟩ := hr
      show (ofAnswer (c.step.params AttributeParams.read) >>= _) = _
      rw [hp]
      exact hfan
    | inputText =>
      rw [ha] at hr
      obtain ⟨p, hp⟩ := hr
      show (ofAnswer (c.step.params InputTextParams.read) >>= _) = _
      rw [hp]
      exact hfan
    | extractTable =>
      rw [ha] at hr
      obtain ⟨p, hp⟩ := hr
      show (ofAnswer (c.step.paramsOr ExtractTableParams.read .default) >>= _) = _
      rw [hp]
      exact hfan
    | _ => rw [ha] at hc; cases hc
  · rw [ha]
    exact Actions.findElement_of_notFound hp hi ht

end Executor

namespace Interpreter

section Runs

variable {config : EngineConfig} {session : Session} {steps : List Step} {past : List Passed}
  {t : Threaded} {left : List Step}

theorem Reaches.found (h : Reaches (standard config) session steps past t left)
    {earlier : List Passed} {q : Passed} {later : List Passed} (hq : past = earlier ++ q :: later)
    (ha : q.step.action = .findElement) :
    ∃ c : Context, c.step = q.step ∧ c.elementTarget = latestFound earlier ∧
      Ends (Actions.findElement c) q.log (.ok q.produced) := by
  obtain ⟨u, rest, hu, he⟩ := h.passed hq
  refine ⟨(standard config).context session u q.step, rfl, hu.linked.elementTarget _ _ _, ?_⟩
  rwa [← Executor.execute_findElement config.pdf.extractor ha]

theorem Reaches.found_of_nil (h : Reaches (standard config) session steps past t left)
    {earlier : List Passed} {q : Passed} {later : List Passed} (hq : past = earlier ++ q :: later)
    (ha : q.step.action = .findElement) {p : FindElementParams}
    (hp : q.step.params FindElementParams.read = .ok p) (hi : p.inSelection = true)
    (hn : latestFound earlier = .elements []) :
    q.produced = some (.elements []) ∧ q.log = [] := by
  obtain ⟨c, hc, ht, he⟩ := h.found hq ha
  rw [Actions.findElement_of_nil (by rw [hc]; exact hp) hi (ht.trans hn)] at he
  obtain ⟨hlog, hproduced⟩ := (ends_pure_iff _ _).mp he
  exact ⟨Except.ok.inj hproduced, hlog⟩

theorem Reaches.found_of_strict (h : Reaches (standard config) session steps past t left)
    {earlier : List Passed} {q : Passed} {later : List Passed} (hq : past = earlier ++ q :: later)
    (ha : q.step.action = .findElement) {p : FindElementParams}
    (hp : q.step.params FindElementParams.read = .ok p) (hs : p.strict = true)
    (hn : ¬ (p.inSelection = true ∧ latestFound earlier = .elements [])) :
    ∃ v, q.produced = some v ∧ v.Selects := by
  obtain ⟨c, hc, ht, he⟩ := h.found hq ha
  rcases Actions.strict_findElement (by rw [hc]; exact hp) hs he with hv | ⟨hi, hnil⟩
  · exact hv
  · exact absurd ⟨hi, ht.symm.trans hnil⟩ hn

/-- In a run whose lookups are all strict none of them leaves nothing: the elements at hand are
none only before the first. -/
theorem Reaches.selects_of_strict (h : Reaches (standard config) session steps past t left)
    (hs : ∀ q ∈ past, q.step.action = .findElement →
      ∃ p, q.step.params FindElementParams.read = .ok p ∧ p.strict = true) :
    ∀ q ∈ past, q.step.action = .findElement → ∃ v, q.produced = some v ∧ v.Selects := by
  induction h with
  | start => exact List.forall_mem_nil _
  | @pass past t rest q hr he ih =>
    obtain ⟨hpast, hlast⟩ := List.forall_mem_append.mp hs
    have hearlier := ih hpast
    refine List.forall_mem_append.mpr ⟨hearlier, List.forall_mem_singleton.mpr fun ha => ?_⟩
    obtain ⟨p, hp, hstrict⟩ := hlast q (List.mem_singleton_self q) ha
    refine (hr.pass he).found_of_strict rfl ha hp hstrict ?_
    rintro ⟨-, hnil⟩
    -- the lookup before it would have left no elements
    rcases noLookup_or_latest past with hn | ⟨before, f, between, rfl, hf, hn⟩
    · rw [latestFound_of_noLookup hn] at hnil
      cases hnil
    · obtain ⟨v, hv, hsel⟩ := hearlier f (by simp) hf
      have hleft : v = .elements [] := by
        rw [latestFound_of_lookup hf hn, hv] at hnil
        exact hnil
      exact Pending.not_selects_nil (hleft ▸ hsel)

/-- In every run a strict lookup that goes well leaves an element or some, unless it was to look in
the elements of a lookup that left none. Then it too leaves none, without a call. No run gets there
whose lookups are all strict. -/
theorem strict_lookup_selects_iff {log : Log} {report : FlowReport}
    (hr : Prog.Exec ((standard config).runSteps session steps) log report) :
    ∃ past, Passes (standard config) session steps log report past ∧
      (∀ earlier q later p, past = earlier ++ q :: later → q.step.action = .findElement →
        q.step.params FindElementParams.read = .ok p → p.strict = true →
          ((∃ v, q.produced = some v ∧ v.Selects) ↔
            ¬ (p.inSelection = true ∧ latestFound earlier = .elements [])) ∧
          (p.inSelection = true → latestFound earlier = .elements [] →
            q.produced = some (.elements []) ∧ q.log = [])) ∧
      ((∀ q ∈ past, q.step.action = .findElement →
          ∃ p, q.step.params FindElementParams.read = .ok p ∧ p.strict = true) →
        ∀ q ∈ past, q.step.action = .findElement → ∃ v, q.produced = some v ∧ v.Selects) := by
  obtain ⟨past, hpast⟩ := ((exec_runSteps_iff _ _ _ _ _).mp hr).passes
  obtain ⟨t, left, h⟩ := hpast.reaches
  refine ⟨past, hpast, fun earlier q later p hq ha hp hs => ⟨⟨?_, h.found_of_strict hq ha hp hs⟩,
    h.found_of_nil hq ha hp⟩, h.selects_of_strict⟩
  rintro ⟨v, hv, hsel⟩ ⟨hi, hnil⟩
  obtain ⟨hproduced, -⟩ := h.found_of_nil hq ha hp hi hnil
  obtain rfl := Option.some.inj (hv.symm.trans hproduced)
  exact Pending.not_selects_nil hsel

end Runs

section Samples

def barren : (op : Op) → Unit → Option (Reply op) × Unit
  | .query _ _ _, s => (some (.ok []), s)
  | op, s => smooth op s

def seekingRows : Step := .ofAction .findElement
  (.obj [("locator", .str "tr"), ("multiple", .bool true), ("timeout", .int 0)])
def strictlyWithin : Step := .ofAction .findElement
  (.obj [("locator", .str "td"), ("scoped", .bool true), ("strict", .bool true)])
def strictly : Step := .ofAction .findElement
  (.obj [("locator", .str "td"), ("strict", .bool true), ("timeout", .int 0)])
def leniently : Step := .ofAction .findElement (.obj [("locator", .str "td"), ("timeout", .int 0)])

noncomputable def nowhere : Driver where
  answer _ _
    | .query _ _ _ => .ok []
    | _ => Classical.choice inferInstance
  spends _ _ _ := 0

end Samples

/-- Within a button that is found, the strict lookup finds something. -/
theorem strict_lookup_selects_iff_within_button : ∃ log report past q,
    Prog.Exec ((standard .default).runSteps someSession [navigating, finding, strictlyWithin]) log
      report ∧
    Passes (standard .default) someSession [navigating, finding, strictlyWithin] log report
      (past ++ [q]) ∧
    q.step = strictlyWithin ∧ ∃ v, q.produced = some v ∧ v.Selects := by
  have h₀ : Reaches (standard .default) someSession [navigating, finding, strictlyWithin] [] .start
    [navigating, finding, strictlyWithin] := .start
  obtain ⟨log₁, h₁⟩ := h₀.pass_smooth none rfl
  obtain ⟨log₂, h₂⟩ := h₁.pass_smooth (some (.element button)) rfl
  obtain ⟨log₃, h₃⟩ := h₂.pass_smooth (some (.element button)) rfl
  have hr := (exec_runSteps_iff _ _ _ _ _).mpr (.passed h₃)
  obtain ⟨past, hp, hstrict, -⟩ := strict_lookup_selects_iff hr
  obtain rfl := h₃.eq_of_passes hp
  refine ⟨_, _, _, _, hr, hp, rfl, (hstrict _ _ [] _ rfl rfl rfl rfl).1.mpr ?_⟩
  rintro ⟨-, hnil⟩
  cases hnil

/-- An accepted flow whose strict lookup succeeds and leaves no elements: the lookup before it has
left none. -/
theorem strict_lookup_leaves_none :
    let flow := [navigating, seekingRows, strictlyWithin]
    Grammar.validate flow = .ok () ∧ ∃ past t q p,
      Reaches (standard .default) someSession flow (past ++ [q]) t [] ∧
      Prog.Exec ((standard .default).runSteps someSession flow)
        ((past ++ [q]).flatMap Passed.calls) ⟨true, (past ++ [q]).map Passed.outcome⟩ ∧
      q.step = strictlyWithin ∧ strictlyWithin.params FindElementParams.read = .ok p ∧
      p.strict = true ∧ q.produced = some (.elements []) := by
  intro flow
  have h₀ : Reaches (standard .default) someSession flow [] .start flow := .start
  obtain ⟨log₁, h₁⟩ := h₀.pass_smooth none rfl
  obtain ⟨log₂, hl₂, -⟩ := @Prog.exec_of_run Op Reply _ _ barren
    ((standard .default).registry.execute ((standard .default).context someSession
      (Threaded.start.after none) seekingRows)).run () () (.ok (some (.elements []))) rfl
  have h₂ := h₁.pass (p := ⟨seekingRows, 0, 0, log₂, _⟩) hl₂
  obtain ⟨log₃, h₃⟩ := h₂.pass_smooth (some (.elements [])) rfl
  refine ⟨rfl, _, _, _, _, h₃, ?_, rfl, rfl, rfl, rfl⟩
  exact (exec_runSteps_iff _ _ _ _ _).mpr (.passed h₃)

/-- Two lookups on the page that differ in strictness only, with any driver. Both come to an end,
after the same calls and at the same time, and agree on it: they leave the same, or the strict one
fails. If the lenient one then leaves a record of the miss, this is the strict one's error, and so
fails whatever step on elements comes next. -/
theorem strict_lenient_agree {config : EngineConfig} {session : Session} {t : Threaded}
    {strict lenient : Step} {p : FindElementParams} (ha : strict.action = .findElement)
    (hb : lenient.action = .findElement)
    (hs : strict.params FindElementParams.read = .ok { p with strict := true })
    (hl : lenient.params FindElementParams.read = .ok { p with strict := false })
    (hu : p.inSelection = false) (d : Driver) (start : Nat) (before : Log) :
    let execute := (standard config).registry.execute
    let context := (standard config).context session
    (∃ log stop r, d.Brings start before (execute (context t strict)) log stop r) ∧
    (∃ log stop r, d.Brings start before (execute (context t lenient)) log stop r) ∧
    ∀ log stop r log' stop' r', d.Brings start before (execute (context t strict)) log stop r →
      d.Brings start before (execute (context t lenient)) log' stop' r' →
        log = log' ∧ stop = stop' ∧ Actions.Agree p r r' ∧
        ∀ miss, r' = .ok (some (.notFound miss)) →
          r = .error (.locatorTimeout miss.selector miss.timeoutMs) ∧
          ∀ next : Step, next.NeedsElements → next.Readable → ∀ calls result,
            Ends (execute (context (t.after (some (.notFound miss))) next)) calls result ↔
              calls = [] ∧ result = r := by
  intro execute context
  refine ⟨d.exists_brings start before _, d.exists_brings start before _, ?_⟩
  intro log stop r log' stop' r' h h'
  have hstrict : execute (context t strict) =
      Actions.lookupFrom { p with strict := true } (.page session.page) :=
    (Executor.execute_findElement config.pdf.extractor ha).trans (Actions.findElement_of_page hs hu)
  have hlenient : execute (context t lenient) =
      Actions.lookupFrom { p with strict := false } (.page session.page) :=
    (Executor.execute_findElement config.pdf.extractor hb).trans (Actions.findElement_of_page hl hu)
  rw [hstrict] at h
  rw [hlenient] at h'
  obtain ⟨time, he, hd, h0, hstop⟩ := h
  obtain ⟨r₂, he₂, hagree⟩ := Actions.lenient_of_strict he
  have h₂ : d.Brings start before _ log stop r₂ := ⟨time, he₂, hd, h0, hstop⟩
  obtain ⟨rfl, rfl, rfl⟩ := h₂.unique h'
  refine ⟨rfl, rfl, hagree, ?_⟩
  rintro miss rfl
  have hr : r = .error (.locatorTimeout miss.selector miss.timeoutMs) := hagree.of_notFound
  refine ⟨hr, fun next hn hread calls result => ?_⟩
  have hnext : execute (context (t.after (some (.notFound miss))) next) =
      throw (.locatorTimeout miss.selector miss.timeoutMs) :=
    Executor.builtIn_of_notFound config.pdf.extractor (c := context _ next) hn hread rfl
  rw [hnext, hr]
  exact ends_throw_iff _ _

/-- One lookup of nothing: the click after the lenient one fails as the strict one does. -/
theorem strict_lenient_agree_nowhere :
    let execute := (standard .default).registry.execute
    let context := (standard .default).context someSession
    ∃ log miss, nowhere.Brings 0 [] (execute (context .start leniently)) log 0
        (.ok (some (.notFound miss))) ∧
      nowhere.Brings 0 [] (execute (context .start strictly)) log 0
        (.error (.locatorTimeout miss.selector miss.timeoutMs)) ∧
      Ends (execute (context (Threaded.start.after (some (.notFound miss))) clicking)) []
        (.error (.locatorTimeout miss.selector miss.timeoutMs)) := by
  intro execute context
  let p : FindElementParams := ⟨.css, "td", Float.ofInt 0, false, .attached, false, false⟩
  let miss : LocatorMiss := ⟨SelectorKind.css.describe "td", 0⟩
  let log : Log := [⟨.now, (0 : Instant)⟩, ⟨.query (.page ⟨0⟩) .css "td", .ok []⟩]
  have he : Ends (execute (context .start leniently)) log (.ok (some (.notFound miss))) := by
    repeat (first | exact .done _ | refine .ask _ ?_)
  have hd : nowhere.Drives (fun _ => 0) [] log := by
    refine Driver.drives_cons_iff.mpr ⟨⟨rfl, rfl⟩, ?_⟩
    exact Driver.drives_cons_iff.mpr ⟨⟨rfl, rfl⟩, Driver.drives_nil⟩
  have hlenient : nowhere.Brings 0 [] (execute (context .start leniently)) log 0
      (.ok (some (.notFound miss))) := ⟨fun _ => 0, he, hd, rfl, rfl⟩
  obtain ⟨⟨log', stop, r, hstrict⟩, -, hagree⟩ := @strict_lenient_agree .default someSession .start
    strictly leniently p rfl rfl rfl rfl rfl nowhere 0 []
  obtain ⟨rfl, rfl, -, hmiss⟩ := hagree _ _ _ _ _ _ hstrict hlenient
  obtain ⟨rfl, hnext⟩ := hmiss miss rfl
  exact ⟨log, miss, hlenient, hstrict, (hnext clicking (Or.inl rfl) trivial _ _).mpr ⟨rfl, rfl⟩⟩

end Interpreter
end PageFlow
