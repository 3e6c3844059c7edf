import PageFlow.Proofs.Executors
import PageFlow.Proofs.Steps

/-! Which calls the steps of a run can make at all. The built-in executors work with pages,
elements, requests, the clock and the extractor; they leave the pool, its sessions and the store
alone, and never close a page. So does a run of steps whose executors do. Only two of them click or
fill elements. -/
namespace PageFlow
namespace Engine

def Op.isOfStep : Op → Bool
  | .launch | .newPage _ | .newApi _ | .isConnected _ | .closeBrowser _ | .closePage _
  | .closePageLater _ | .lockPool | .unlockPool | .pooled | .setPooled _ | .countLaunch | .enter _ _
  | .leave _ | .markReleased _ | .freshId | .saveFlow _ | .loadFlow _ | .saveResult _
  | .loadResult _ | .resultsFor _ => false
  | _ => true

def Op.altered : Op → Option Element
  | .click e | .fill e _ => some e
  | _ => none

/-- Whatever is answered, the attempt asks for operations of a step only. -/
abbrev WithinStep (a : Attempt τ) : Prop := AsksOnly (fun op => op.isOfStep = true) a

/-- The same, and none of them clicks or fills an element. -/
abbrev Harmless (a : Attempt τ) : Prop :=
  AsksOnly (fun op => op.isOfStep = true ∧ op.altered = none) a

theorem Harmless.withinStep {a : Attempt τ} (h : Harmless a) : WithinStep a :=
  h.mono fun _ ho => ho.1

theorem harmless_withRetryNamed {op : Nat → Attempt τ} (operation : String) (policy : RetryPolicy)
    (h : ∀ n, Harmless (op n)) : Harmless (withRetryNamed operation policy op) :=
  inherited_withRetryNamed (P := Harmless) inherited_confined confined_outcome
    (fun _ => asksOnly_call ⟨rfl, rfl⟩ rfl) (fun _ => confined_throw trivial) operation policy h

end Engine

open Engine

namespace Locator

theorem harmless_waitFor {check : Attempt (Option τ)} (h : Harmless check)
    (timeout : Duration) : Harmless (waitFor check timeout) :=
  inherited_waitFor (P := Harmless) inherited_confined (asksOnly_call ⟨rfl, rfl⟩ rfl)
    (fun _ => asksOnly_call ⟨rfl, rfl⟩ rfl) h timeout

theorem harmless_visibleOf (multiple : Bool) (candidates : List Element) :
    Harmless (visibleOf multiple candidates) := by
  induction candidates with
  | nil => exact confined_pure _
  | cons e rest ih =>
    refine confined_bind (asksOnly_call ⟨rfl, rfl⟩ rfl) fun visible => ?_
    split
    · split
      · exact confined_bind ih fun more => confined_pure _
      · exact confined_pure _
    · exact ih

theorem harmless_found (root : Root) (kind : SelectorKind) (selector : String) (o : Options) :
    Harmless (found root kind selector o) := by
  have hp : Harmless (poll root kind selector o) := by
    refine confined_bind (asksOnly_call ⟨rfl, rfl⟩ rfl) fun candidates => ?_
    unfold ready
    split
    · exact confined_pure _
    · exact harmless_visibleOf _ _
  refine confined_bind (confined_outcome hp) fun r => ?_
  rcases r with e | (_ | ⟨e, rest⟩) <;> exact confined_pure _

theorem harmless_resolve (root : Root) (kind : SelectorKind) (selector : String) (o : Options) :
    Harmless (resolve root kind selector o) := by
  refine confined_bind (harmless_waitFor (harmless_found root kind selector o) _) fun v => ?_
  cases v with
  | some all => exact confined_pure _
  | none =>
    change Harmless (if o.strict = true then _ else _)
    split
    · exact confined_throw trivial
    · exact confined_pure _

theorem harmless_waitUntilDetached (p : Page) (kind : SelectorKind) (selector : String)
    (timeout : Duration) : Harmless (waitUntilDetached p kind selector timeout) := by
  have hg : Harmless (gone p kind selector) := by
    refine confined_bind (confined_outcome (asksOnly_call ⟨rfl, rfl⟩ rfl)) fun r => ?_
    rcases r with e | (_ | ⟨e, rest⟩) <;> exact confined_pure _
  refine confined_bind (harmless_waitFor hg timeout) fun v => ?_
  cases v with
  | some v => exact confined_pure _
  | none => exact confined_throw trivial

theorem harmless_waitUntilVisible (e : Element) (timeout : Duration) :
    Harmless (waitUntilVisible e timeout) := by
  have hs : Harmless (seen e) := by
    refine confined_bind (confined_outcome (asksOnly_call ⟨rfl, rfl⟩ rfl)) fun r => ?_
    rcases r with e | (_ | _) <;> exact confined_pure _
  refine confined_bind (harmless_waitFor hs timeout) fun v => ?_
  cases v with
  | some v => exact confined_pure _
  | none => exact confined_throw trivial

end Locator

namespace Executor

open Actions

variable {c : Context} {f : Element → Attempt τ}

theorem asksOnly_forEachElement {ok : Op → Prop} (hf : ∀ e, AsksOnly ok (f e)) :
    AsksOnly ok (forEachElement c f) := by
  unfold forEachElement
  split
  · exact confined_bind (hf _) fun v => confined_pure _
  · exact confined_bind (inherited_eachElement inherited_confined fun e _ => hf e) fun vs =>
      confined_pure _
  · exact confined_throw trivial
  · exact confined_throw trivial
  · exact confined_throw trivial

theorem harmless_findElement (c : Context) : Harmless (findElement c) := by
  refine confined_bind (confined_ofAnswer fun _ _ => trivial) fun p => ?_
  split
  · exact confined_bind (asksOnly_forEachElement fun e => Locator.harmless_resolve _ _ _ _)
      fun each => confined_pure _
  · exact confined_bind (Locator.harmless_resolve _ _ _ _) fun r => confined_pure _

theorem withinStep_clickOne (timeout : Duration) (e : Element) :
    WithinStep (clickOne timeout e) :=
  confined_bind (confined_outcome (asksOnly_call rfl rfl)) fun _ =>
    confined_bind (Locator.harmless_waitUntilVisible e timeout).withinStep fun _ =>
      asksOnly_call rfl rfl

theorem withinStep_fillOne (text : String) (e : Element) : WithinStep (fillOne text e) := by
  refine confined_bind (asksOnly_call rfl rfl) fun b => ?_
  split
  · exact asksOnly_call rfl rfl
  · exact confined_throw trivial

theorem harmless_awaitFullLoad (p : Page) (timeout : Duration) :
    Harmless (awaitFullLoad p timeout) :=
  confined_bind (asksOnly_call ⟨rfl, rfl⟩ rfl) fun _ =>
    confined_bind (Locator.harmless_resolve _ _ _ _) fun _ => confined_pure _

theorem harmless_navigate (c : Context) : Harmless (navigate c) := by
  refine confined_bind (confined_ofAnswer fun _ _ => trivial) fun p => ?_
  refine confined_bind (harmless_withRetryNamed _ _ fun n => ?_) fun _ => ?_
  · unfold navigateOnce
    split
    · exact confined_bind (confined_outcome (asksOnly_call ⟨rfl, rfl⟩ rfl)) fun _ => asksOnly_call ⟨rfl, rfl⟩ rfl
    · exact asksOnly_call ⟨rfl, rfl⟩ rfl
  · split
    · exact confined_bind (harmless_awaitFullLoad _ _) fun _ => confined_pure _
    · exact confined_pure _

theorem harmless_fetchWithRetry (api : ApiContext) (request : HttpRequest)
    (policy : RetryPolicy) : Harmless (fetchWithRetry api request policy) := by
  refine harmless_withRetryNamed _ _ fun _ => ?_
  refine confined_bind (asksOnly_call ⟨rfl, rfl⟩ rfl) fun response => ?_
  split
  · exact confined_pure _
  · exact confined_throw trivial

theorem harmless_httpRequest (method : HttpMethod) (c : Context) :
    Harmless (httpRequest method c) :=
  confined_bind (confined_ofAnswer fun _ _ => trivial) fun _ =>
    confined_bind (harmless_fetchWithRetry _ _ _) fun _ =>
      confined_bind (confined_ofAnswer fun _ _ => trivial) fun _ => confined_pure _

theorem harmless_executeScript (c : Context) : Harmless (executeScript c) := by
  refine confined_bind (confined_ofAnswer fun _ _ => trivial) fun p => ?_
  refine confined_bind (asksOnly_call ⟨rfl, rfl⟩ rfl) fun answer => ?_
  split
  · exact confined_bind (confined_ofAnswer fun _ _ => trivial) fun value => confined_pure _
  · exact confined_throw trivial

theorem harmless_extractPdf (command : Option PdfCommand) (c : Context) :
    Harmless (extractPdf command c) := by
  refine confined_bind (confined_ofAnswer fun _ _ => trivial) fun p => ?_
  split
  · exact confined_throw trivial
  · split
    · exact confined_throw trivial
    · rename_i source _ _ command
      have hw (body : Bytes) (scratch : Nat) :
          Harmless (extractIn command source body scratch) :=
        confined_bind (asksOnly_call ⟨rfl, rfl⟩ rfl) fun _ =>
          confined_bind (asksOnly_call ⟨rfl, rfl⟩ rfl) fun _ => confined_ofAnswer fun _ _ => trivial
      refine confined_bind (harmless_fetchWithRetry _ _ _) fun response => ?_
      refine confined_bind ?_ fun _ => confined_pure _
      refine confined_bind (asksOnly_call ⟨rfl, rfl⟩ rfl) fun scratch => ?_
      refine confined_bind (confined_outcome (hw _ scratch)) fun r => ?_
      exact confined_bind (asksOnly_call ⟨rfl, rfl⟩ rfl) fun _ => confined_ofAnswer fun _ _ => trivial

/-- All other actions leave elements as they are. -/
theorem harmless_builtIn (extractor : Option PdfCommand) {a : Action} (c : Context)
    (hc : a ≠ .click) (hf : a ≠ .inputText) : Harmless (builtIn extractor a c) := by
  cases a with
  | click => exact absurd rfl hc
  | inputText => exact absurd rfl hf
  | navigate => exact harmless_navigate c
  | findElement => exact harmless_findElement c
  | extractText =>
    refine confined_bind (asksOnly_forEachElement fun e => ?_) fun _ => confined_pure _
    exact confined_bind (asksOnly_call ⟨rfl, rfl⟩ rfl) fun _ => confined_pure _
  | extractTable =>
    refine confined_bind (confined_ofAnswer fun _ _ => trivial) fun p =>
      confined_bind (asksOnly_forEachElement fun e => ?_) fun _ => confined_pure _
    exact confined_bind (asksOnly_call ⟨rfl, rfl⟩ rfl) fun _ => confined_pure _
  | extractAttribute =>
    refine confined_bind (confined_ofAnswer fun _ _ => trivial) fun p =>
      confined_bind (asksOnly_forEachElement fun e => ?_) fun _ => confined_pure _
    exact confined_bind (asksOnly_call ⟨rfl, rfl⟩ rfl) fun _ => confined_pure _
  | scrollIntoElement =>
    refine confined_bind (asksOnly_forEachElement fun e => ?_) fun _ => confined_pure _
    exact confined_bind (confined_outcome (asksOnly_call ⟨rfl, rfl⟩ rfl)) fun _ => confined_pure _
  | waitForLoad =>
    exact confined_bind (confined_ofAnswer fun _ _ => trivial) fun p =>
      confined_bind (asksOnly_call ⟨rfl, rfl⟩ rfl) fun _ => confined_pure _
  | waitForFullLoad =>
    exact confined_bind (confined_ofAnswer fun _ _ => trivial) fun p =>
      confined_bind (harmless_awaitFullLoad _ _) fun _ => confined_pure _
  | waitForDisappearance =>
    refine confined_bind (confined_ofAnswer fun _ _ => trivial) fun p =>
      confined_bind (harmless_withRetryNamed _ _ fun _ => ?_) fun _ => confined_pure _
    exact Locator.harmless_waitUntilDetached _ _ _ _
  | scrollToTop | scrollToBottom =>
    exact confined_bind (confined_outcome (asksOnly_call ⟨rfl, rfl⟩ rfl)) fun _ => confined_pure _
  | screenshot =>
    refine confined_bind (asksOnly_call ⟨rfl, rfl⟩ rfl) fun closed => ?_
    split
    · exact confined_throw trivial
    · exact confined_bind (asksOnly_call ⟨rfl, rfl⟩ rfl) fun _ => confined_pure _
  | executeScript => exact harmless_executeScript c
  | httpGet => exact harmless_httpRequest .get c
  | httpPost => exact harmless_httpRequest .post c
  | extractPdf => exact harmless_extractPdf extractor c

theorem withinStep_builtIn (extractor : Option PdfCommand) (a : Action) (c : Context) :
    WithinStep (builtIn extractor a c) := by
  by_cases hc : a = .click
  · subst hc
    exact confined_bind (asksOnly_forEachElement (withinStep_clickOne _)) fun _ => confined_pure _
  by_cases hf : a = .inputText
  · subst hf
    exact confined_bind (confined_ofAnswer fun _ _ => trivial) fun p =>
      confined_bind (asksOnly_forEachElement (withinStep_fillOne _)) fun _ => confined_pure _
  · exact (harmless_builtIn extractor c hc hf).withinStep

end Executor

namespace Interpreter

/-- The executors of the interpreter keep to the operations of steps. -/
def KeepsToSteps (i : Interpreter) : Prop := ∀ c, WithinStep (i.registry.execute c)

theorem keepsToSteps_standard (config : EngineConfig) : (standard config).KeepsToSteps :=
  fun c => Executor.withinStep_builtIn config.pdf.extractor c.step.action c

/-- A run of steps adds looks at the clock and at the calendar only. -/
theorem asksOnly_runSteps {i : Interpreter} (ok : Op → Prop) (hn : ok .now) (hd : ok .date)
    (h : ∀ c, AsksOnly ok (i.registry.execute c)) (session : Session) (steps : List Step) :
    AsksOnly ok (ExceptT.lift (i.runSteps session steps)) := by
  have hp {past t left} (hr : Reaches i session steps past t left) :
      ∀ x ∈ past.flatMap Passed.calls, ok x.op := by
    intro x hx
    obtain ⟨p, hp, hc⟩ := List.mem_flatMap.mp hx
    obtain ⟨earlier, later, hs⟩ := List.append_of_mem hp
    obtain ⟨u, rest, -, he⟩ := hr.passed hs
    have hn : ∀ y ∈ p.calls, ok y.op :=
      List.forall_mem_cons.mpr ⟨hn, List.forall_mem_append.mpr ⟨(h _ _ _ he).1,
        List.forall_mem_singleton.mpr hn⟩⟩
    exact hn x hc
  intro log r hr
  obtain ⟨report, -, hr⟩ := (ends_lift_iff _ _).mp hr
  refine ⟨?_, fun _ _ => trivial⟩
  cases (exec_runSteps_iff i session steps log report).mp hr with
  | passed hs => exact hp hs
  | failed hs he =>
    refine List.forall_mem_append.mpr ⟨hp hs, List.forall_mem_cons.mpr ⟨hn, ?_⟩⟩
    exact List.forall_mem_append.mpr ⟨(h _ _ _ he).1,
      List.forall_mem_cons.mpr ⟨hn, List.forall_mem_singleton.mpr hd⟩⟩

theorem KeepsToSteps.runSteps {i : Interpreter} (h : i.KeepsToSteps) {session : Session}
    {steps : List Step} {log : Log} {report : FlowReport}
    (hr : Prog.Exec (i.runSteps session steps) log report) : ∀ x ∈ log, x.op.isOfStep = true := by
  have hs : WithinStep (ExceptT.lift (i.runSteps session steps)) :=
    asksOnly_runSteps (fun op => op.isOfStep = true) rfl rfl h session steps
  exact (hs log _ ((ends_lift_iff _ _).mpr ⟨report, rfl, hr⟩)).1

end Interpreter
end PageFlow
