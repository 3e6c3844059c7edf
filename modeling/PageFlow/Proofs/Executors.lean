import PageFlow.Engine.Registry
import PageFlow.Proofs.Lookups

/-! What can be said of all built-in executors: of what kind the value is that each leaves to the
next step, what faults of a flow it can find by itself, and that only the steps that work on
elements look at what earlier steps left. -/
namespace PageFlow

open Engine

def Pending.held : Pending → List Element
  | element e => [e]
  | elements all => all
  | _ => []

def Step.LooksInSelection (s : Step) : Prop :=
  s.action = .findElement ∧ ∃ p, s.params FindElementParams.read = .ok p ∧ p.inSelection = true

/-- The step works on elements that earlier steps left. -/
def Step.NeedsElements (s : Step) : Prop :=
  s.action.consumesElement = true ∨ s.LooksInSelection

theorem ofAnswer_bind_congr {x : Except FlowError τ} {f g : τ → Attempt υ}
    (h : ∀ v, x = .ok v → f v = g v) : (ofAnswer x >>= f) = ofAnswer x >>= g := by
  cases x with
  | error e => rfl
  | ok v => exact h v rfl

theorem params_error {s : Step} {read : Json.Doc → Json.Read τ} {e : FlowError}
    (h : s.params read = .error e) : ∃ m, e = .invalidStep s.action m := by
  unfold Step.params at h
  split at h
  · cases h
  · exact ⟨_, (Except.error.inj h).symm⟩

theorem paramsOr_error {s : Step} {read : Json.Doc → Json.Read τ} {default : τ} {e : FlowError}
    (h : s.paramsOr read default = .error e) : ∃ m, e = .invalidStep s.action m := by
  unfold Step.paramsOr at h
  split at h
  · cases h
  · exact params_error h

structure Treated (τ : Type) where
  element : Element
  calls : Log
  value : τ

section Elements

variable {c : Context} {f : Element → Attempt τ}

theorem ends_eachElement_cons_iff {e : Element} {rest : List Element} {log : Log}
    {r : Except FlowError (List τ)} :
    Ends (eachElement f (e :: rest)) log r ↔
      (∃ err, r = .error err ∧ Ends (f e) log (.error err)) ∨
      ∃ first v more, log = first ++ more ∧ Ends (f e) first (.ok v) ∧
        ∃ o, Ends (eachElement f rest) more o ∧ r = o.map (v :: ·) := by
  have hcons : eachElement f (e :: rest) =
      (f e >>= fun v => eachElement f rest >>= fun vs => pure (v :: vs)) := rfl
  rw [hcons, ends_bind_iff]
  simp only [ends_map_iff]

/-- Elements are gone through in order, all of them or up to the first that fails. -/
theorem ends_eachElement_iff {all : List Element} {log : Log} {r : Except FlowError (List τ)} :
    Ends (eachElement f all) log r ↔ ∃ done : List (Treated τ),
      (∀ d ∈ done, Ends (f d.element) d.calls (.ok d.value)) ∧
        ((all = done.map Treated.element ∧ log = done.flatMap Treated.calls ∧
            r = .ok (done.map Treated.value)) ∨
          ∃ e rest last err, all = done.map Treated.element ++ e :: rest ∧
            Ends (f e) last (.error err) ∧ log = done.flatMap Treated.calls ++ last ∧
            r = .error err) := by
  induction all generalizing log r with
  | nil =>
    constructor
    · intro h
      obtain ⟨rfl, rfl⟩ := (ends_pure_iff _ _).mp h
      exact ⟨[], by simp, Or.inl ⟨rfl, rfl, rfl⟩⟩
    · rintro ⟨done, -, ⟨hall, rfl, rfl⟩ | ⟨e, rest, last, err, hall, -⟩⟩
      · obtain rfl : done = [] := by simpa using hall
        exact (ends_pure_iff _ _).mpr ⟨rfl, rfl⟩
      · simp at hall
  | cons e rest ih =>
    rw [ends_eachElement_cons_iff]
    constructor
    · rintro (⟨err, rfl, he⟩ | ⟨first, v, more, rfl, hv, o, ho, rfl⟩)
      · exact ⟨[], by simp, Or.inr ⟨e, rest, log, err, rfl, he, rfl, rfl⟩⟩
      obtain ⟨done, hd, hgoes⟩ := ih.mp ho
      refine ⟨⟨e, first, v⟩ :: done, List.forall_mem_cons.mpr ⟨hv, hd⟩, ?_⟩
      rcases hgoes with ⟨rfl, rfl, rfl⟩ | ⟨e', rest', last, err, rfl, he, rfl, rfl⟩
      · exact Or.inl ⟨rfl, by simp, rfl⟩
      · exact Or.inr ⟨e', rest', last, err, rfl, he, by simp, rfl⟩
    · rintro ⟨_ | ⟨d, done⟩, hd, hgoes⟩
      · rcases hgoes with ⟨hall, -⟩ | ⟨e', rest', last, err, hall, he, rfl, rfl⟩
        · simp at hall
        · obtain ⟨rfl, rfl⟩ := List.cons.inj hall
          exact Or.inl ⟨err, rfl, he⟩
      obtain ⟨hfirst, hd⟩ := List.forall_mem_cons.mp hd
      rcases hgoes with ⟨hall, rfl, rfl⟩ | ⟨e', rest', last, err, hall, he, rfl, rfl⟩
      · obtain ⟨rfl, rfl⟩ := List.cons.inj hall
        have hrest := ih.mpr ⟨done, hd, Or.inl ⟨rfl, rfl, rfl⟩⟩
        exact Or.inr ⟨d.calls, d.value, _, rfl, hfirst, _, hrest, rfl⟩
      · obtain ⟨rfl, rfl⟩ := List.cons.inj hall
        have hrest := ih.mpr ⟨done, hd, Or.inr ⟨e', rest', last, err, rfl, he, rfl, rfl⟩⟩
        have hlog : (d :: done).flatMap Treated.calls ++ last =
            d.calls ++ (done.flatMap Treated.calls ++ last) := by
          rw [List.flatMap_cons, List.append_assoc]
        exact Or.inr ⟨d.calls, d.value, _, hlog, hfirst, _, hrest, rfl⟩

theorem inherited_eachElement {P : ∀ {τ : Type}, Attempt τ → Prop} (hp : Inherited P)
    {all : List Element} (hf : ∀ e ∈ all, P (f e)) : P (eachElement f all) := by
  induction all with
  | nil => exact hp.pure _
  | cons e rest ih =>
    obtain ⟨he, hr⟩ := List.forall_mem_cons.mp hf
    exact hp.bind he fun v => hp.bind (ih hr) fun vs => hp.pure _

theorem ends_forEachElement_of_missing (h : c.elementTarget.isElementContext = false) {log : Log}
    {r : Except FlowError (Fanned τ)} :
    Ends (forEachElement c f) log r ↔ log = [] ∧ r = .error (.missingContext c.step.action) := by
  unfold forEachElement
  split
  all_goals first
    | exact ends_throw_iff _ _
    | rename_i ht; rw [ht] at h; cases h

theorem forEachElement_of_notFound {miss : LocatorMiss} (h : c.elementTarget = .notFound miss) :
    forEachElement c f = throw (.locatorTimeout miss.selector miss.timeoutMs) := by
  simp only [forEachElement, h]

/-- An action on elements finds one fault by itself: that there are none at hand. -/
theorem faults_forEachElement (hf : ∀ e, Blameless (f e)) : Faults (forEachElement c f) fun e =>
    e = .missingContext c.step.action ∧ c.elementTarget.isElementContext = false := by
  unfold forEachElement
  split
  · exact (blameless_bind (hf _) fun v => blameless_pure _).faults _
  · rename_i all _
    have he : Blameless (eachElement f all) :=
      inherited_eachElement inherited_blameless fun e _ => hf e
    exact (blameless_bind he fun vs => blameless_pure _).faults _
  · exact (blameless_throw rfl).faults _
  · rename_i ht
    exact faults_throw fun _ => ⟨rfl, by rw [ht]; rfl⟩
  · rename_i ht
    exact faults_throw fun _ => ⟨rfl, by rw [ht]; rfl⟩

theorem finds_eachElement {held : τ → List Element} (hf : ∀ e, Finds (f e) held)
    (all : List Element) : Finds (eachElement f all) fun vs => vs.flatMap held := by
  induction all with
  | nil => exact finds_pure rfl
  | cons e rest ih =>
    refine finds_bind (hf e) fun v log vs hvs => ?_
    rcases (ends_bind_iff _ _ _).mp hvs with ⟨e, he, -⟩ | ⟨first, ws, second, rfl, hws, hp⟩
    · cases he
    · obtain ⟨rfl, hv⟩ := (ends_pure_iff _ _).mp hp
      obtain rfl := Except.ok.inj hv
      rw [List.append_nil, List.flatMap_cons]
      exact List.append_subset.mpr ⟨List.subset_append_left _ _,
        List.Subset.trans (ih first ws hws) (List.subset_append_right _ _)⟩

theorem finds_gathered {f : Element → Attempt Locator.Resolved}
    (hf : ∀ e, Finds (f e) Locator.Resolved.toList) :
    Finds (forEachElement c f) fun each => (Actions.gathered each).toList := by
  unfold forEachElement
  split
  · exact finds_bind_of_yields (hf _) fun v => yields_pure (List.Subset.refl _)
  · exact finds_bind_of_yields (finds_eachElement hf _) fun vs => yields_pure (List.Subset.refl _)
  · exact finds_throw _
  · exact finds_throw _
  · exact finds_throw _

end Elements

def Actions.captured (j : Json) : Option Pending := some (.value (.json j))

namespace Executor

open Actions

/-- What an action leaves to the next step: a lookup leaves elements or the record of a miss, an
action that captures leaves what it captured, any other leaves nothing. -/
def Leaves (a : Action) (produced : Option Pending) : Prop :=
  if a = .findElement then ∃ v, produced = some v ∧ v.isElementContext = true
  else if a.isCapturing = true then ∃ w, produced = some (.value w)
  else produced = none

theorem pendingOf_isElementContext (p : FindElementParams) (r : Locator.Resolved) :
    (pendingOf p r).isElementContext = true := by cases r <;> rfl

theorem held_pendingOf (p : FindElementParams) (r : Locator.Resolved) :
    (pendingOf p r).held = r.toList := by cases r <;> rfl

theorem yields_findElement (c : Context) : Yields (findElement c) (Leaves .findElement) := by
  refine yields_last fun p => ?_
  have hp (r : Locator.Resolved) : Leaves .findElement (some (pendingOf p r)) :=
    ⟨pendingOf p r, rfl, pendingOf_isElementContext p r⟩
  split
  · exact yields_last fun each => yields_last fun r => yields_pure (hp _)
  · exact yields_last fun r => yields_pure (hp r)

theorem yields_httpRequest (method : HttpMethod) (c : Context) :
    Yields (httpRequest method c) fun produced => ∃ w, produced = some (.value w) :=
  yields_last fun _ => yields_last fun _ => yields_last fun _ => yields_pure ⟨_, rfl⟩

theorem yields_extractPdf (command : Option PdfCommand) (c : Context) :
    Yields (extractPdf command c) fun produced => ∃ w, produced = some (.value w) := by
  refine yields_last fun p => ?_
  split
  · exact yields_throw _ _
  · split
    · exact yields_throw _ _
    · exact yields_last fun response => yields_last fun extracted => yields_pure ⟨_, rfl⟩

theorem yields_builtIn (extractor : Option PdfCommand) (a : Action) (c : Context) :
    Yields (builtIn extractor a c) (Leaves a) := by
  cases a with
  | findElement => exact yields_findElement c
  | navigate =>
    refine yields_last fun p => yields_last fun _ => ?_
    split
    · exact yields_last fun _ => yields_pure rfl
    · exact yields_pure rfl
  | click => exact yields_last fun _ => yields_pure rfl
  | inputText => exact yields_last fun p => yields_last fun _ => yields_pure rfl
  | scrollIntoElement => exact yields_last fun _ => yields_pure rfl
  | extractText => exact yields_last fun texts => yields_pure ⟨_, rfl⟩
  | extractTable => exact yields_last fun p => yields_last fun tables => yields_pure ⟨_, rfl⟩
  | extractAttribute => exact yields_last fun p => yields_last fun values => yields_pure ⟨_, rfl⟩
  | waitForLoad => exact yields_last fun p => yields_last fun _ => yields_pure rfl
  | waitForFullLoad => exact yields_last fun p => yields_last fun _ => yields_pure rfl
  | waitForDisappearance => exact yields_last fun p => yields_last fun _ => yields_pure rfl
  | scrollToTop => exact yields_last fun _ => yields_pure rfl
  | scrollToBottom => exact yields_last fun _ => yields_pure rfl
  | screenshot =>
    refine yields_last fun closed => ?_
    split
    · exact yields_throw _ _
    · exact yields_last fun png => yields_pure ⟨_, rfl⟩
  | executeScript =>
    refine yields_last fun p => yields_last fun answer => ?_
    split
    · exact yields_last fun value => yields_pure ⟨_, rfl⟩
    · exact yields_throw _ _
  | httpGet => exact yields_httpRequest .get c
  | httpPost => exact yields_httpRequest .post c
  | extractPdf => exact yields_extractPdf extractor c

/-- The faults of a flow that an action finds by itself: its data cannot be read, or it works on
elements and there are none at hand. -/
inductive Fault (c : Context) : FlowError → Prop where
  | data (message : String) : Fault c (.invalidStep c.step.action message)
  | noElements : c.step.NeedsElements → c.elementTarget.isElementContext = false →
      Fault c (.missingContext c.step.action)

theorem Fault.noElements_of {c : Context} {a : Action} (h : Fault c (.missingContext a)) :
    c.step.NeedsElements ∧ c.elementTarget.isElementContext = false := by
  cases h with
  | noElements hn ht => exact ⟨hn, ht⟩

/-- The executor of the action works on elements that earlier steps left. -/
def Needs (a : Action) (s : Step) : Prop :=
  a.consumesElement = true ∨
    a = .findElement ∧ ∃ p, s.params FindElementParams.read = .ok p ∧ p.inSelection = true

/-- What the executor of an action finds wrong by itself with the step that it is given, be it a
step of that action or not. -/
inductive Complaint (a : Action) (c : Context) : FlowError → Prop where
  | data (message : String) : Complaint a c (.invalidStep c.step.action message)
  | noElements : Needs a c.step → c.elementTarget.isElementContext = false →
      Complaint a c (.missingContext c.step.action)

theorem Complaint.fault {c : Context} {e : FlowError} (h : Complaint c.step.action c e) :
    Fault c e := by
  cases h with
  | data message => exact .data message
  | noElements hn ht => exact .noElements hn ht

section Faults

variable {a : Action} {c : Context} {f : τ → Attempt υ}

theorem faults_params {read : Json.Doc → Json.Read τ}
    (hf : ∀ v, c.step.params read = .ok v → Faults (f v) (Complaint a c)) :
    Faults (c.params read >>= f) (Complaint a c) := by
  refine faults_check (fun e he _ => ?_) hf
  obtain ⟨m, rfl⟩ := params_error he
  exact .data m

theorem faults_paramsOr {read : Json.Doc → Json.Read τ} {default : τ}
    (hf : ∀ v, Faults (f v) (Complaint a c)) :
    Faults (c.paramsOr read default >>= f) (Complaint a c) := by
  refine faults_check (fun e he _ => ?_) fun v _ => hf v
  obtain ⟨m, rfl⟩ := paramsOr_error he
  exact .data m

theorem faults_onElements {f : Element → Attempt τ} {g : Fanned τ → Attempt υ}
    (hn : Needs a c.step) (hf : ∀ e, Blameless (f e)) (hg : ∀ r, Blameless (g r)) :
    Faults (forEachElement c f >>= g) (Complaint a c) := by
  refine faults_bind (fun log e he hs => ?_) hg
  rcases faults_forEachElement hf log e he hs with hx | ⟨rfl, rfl, ht⟩
  · exact Or.inl hx
  · exact Or.inr ⟨rfl, .noElements hn ht⟩

end Faults

theorem blameless_clickOne (timeout : Duration) (e : Element) : Blameless (clickOne timeout e) := by
  refine blameless_bind (blameless_outcome _) fun _ => ?_
  refine blameless_bind (Locator.blameless_waitUntilVisible e timeout) fun _ => ?_
  exact blameless_ask (.click e) id rfl fun _ _ => mem_errors

theorem blameless_fillOne (text : String) (e : Element) : Blameless (fillOne text e) := by
  refine blameless_bind (blameless_ask (.isEditable e) id rfl fun _ _ => mem_errors) fun b => ?_
  split
  · exact blameless_ask (.fill e text) id rfl fun _ _ => mem_errors
  · exact blameless_throw rfl

theorem blameless_readText (e : Element) : Blameless (readText e) :=
  blameless_bind (blameless_ask (.text e) id rfl fun _ _ => mem_errors) fun _ => blameless_pure _

theorem blameless_readAttribute (name : String) (e : Element) : Blameless (readAttribute name e) :=
  blameless_bind (blameless_ask (.attributeOf e name) id rfl fun _ _ => mem_errors) fun _ =>
    blameless_pure _

theorem blameless_readTable (p : ExtractTableParams) (e : Element) : Blameless (readTable p e) :=
  blameless_bind (blameless_ask (.rows e) id rfl fun _ _ => mem_errors) fun _ => blameless_pure _

theorem blameless_awaitFullLoad (p : Page) (timeout : Duration) :
    Blameless (awaitFullLoad p timeout) :=
  blameless_bind (blameless_lift _) fun _ =>
    blameless_bind (Locator.blameless_resolve _ _ _ _) fun _ => blameless_pure _

theorem faults_findElement (c : Context) :
    Faults (findElement c) (Complaint .findElement c) := by
  refine faults_params fun p hp => ?_
  split
  · rename_i hs
    exact faults_onElements (Or.inr ⟨rfl, p, hp, hs⟩) (fun e => Locator.blameless_resolve _ _ _ _)
      fun each => blameless_bind (blameless_pure _) fun _ => blameless_pure _
  · exact (blameless_bind (Locator.blameless_resolve _ _ _ _) fun _ => blameless_pure _).faults _

inductive OfExtractor : FlowError → Prop where
  | timeout (text) : OfExtractor (.timeout text)
  | pdf (text) : OfExtractor (.pdf text)
  | json (text) : OfExtractor (.json text)

theorem OfExtractor.isStructural {e : FlowError} (h : OfExtractor e) : e.isStructural = false := by
  cases h <;> rfl

theorem mergeLines_error {e : FlowError} (lines : List (List Char)) (merged : List (String × Json))
    (h : Pdf.mergeLines merged lines = .error e) : OfExtractor e := by
  induction lines generalizing merged with
  | nil => cases h
  | cons line rest ih =>
    rw [Pdf.mergeLines] at h
    split at h
    · exact ih merged h
    · split at h
      · rename_i e' hl
        obtain rfl := Except.error.inj h
        unfold Pdf.lineFields at hl
        split at hl
        · obtain rfl := Except.error.inj hl; exact .json _
        · cases hl
        · obtain rfl := Except.error.inj hl; exact .pdf _
      · exact ih _ h

theorem pdfResult_error {command : PdfCommand} {ended : ProcessEnd} {e : FlowError}
    (h : Pdf.result command ended = .error e) : OfExtractor e := by
  unfold Pdf.result at h
  split at h
  · obtain rfl := Except.error.inj h; exact .timeout _
  · obtain rfl := Except.error.inj h; exact .pdf _
  · rename_i stdout _
    unfold Pdf.merge at h
    cases hm : Pdf.mergeLines [] (Text.lines (Text.decodeLossy stdout).toList) with
    | error e' =>
      rw [hm] at h
      obtain rfl := Except.error.inj h
      exact mergeLines_error _ _ hm
    | ok merged => rw [hm] at h; cases h
  · obtain rfl := Except.error.inj h; exact .pdf _

theorem responseValue_error {request : HttpRequest} {returnJson : Bool} {response : HttpResponse}
    {e : FlowError} (h : responseValue request returnJson response = .error e) :
    ∃ text, e = .http text := by
  unfold responseValue at h
  split at h
  · split at h
    · cases h
    · exact ⟨_, (Except.error.inj h).symm⟩
  · cases h

theorem blameless_ofAnswer {x : Except FlowError τ}
    (h : ∀ e, x = .error e → e.isStructural = false) : Blameless (ofAnswer x) :=
  faults_ofAnswer fun e he hs => by rw [h e he] at hs; cases hs

theorem blameless_extractIn (command : PdfCommand) (source : PdfSource) (body : Bytes)
    (scratch : Nat) : Blameless (extractIn command source body scratch) := by
  refine blameless_bind (blameless_ask (.writeScratch scratch body) id rfl fun _ _ => mem_errors)
    fun _ => ?_
  exact blameless_bind (blameless_lift _) fun ended =>
    blameless_ofAnswer fun e he => (pdfResult_error he).isStructural

theorem blameless_inScratch {work : Nat → Attempt τ} (h : ∀ s, Blameless (work s)) :
    Blameless (inScratch work) := by
  refine blameless_bind (blameless_ask .newScratch id rfl fun _ _ => mem_errors) fun s => ?_
  intro log e he hs
  obtain ⟨first, o, second, rfl, hw, hr⟩ := (ends_lift_bind_iff _ _ _).mp he
  obtain ⟨third, u, fourth, rfl, -, hr⟩ := (ends_lift_bind_iff _ _ _).mp hr
  obtain ⟨rfl, rfl⟩ := (ends_ofAnswer_iff _ _).mp hr
  rcases h s first e hw hs with ⟨x, hx, hm⟩ | ⟨-, hf⟩
  · exact Or.inl ⟨x, List.mem_append_left _ hx, hm⟩
  · exact hf.elim

theorem blameless_fetchWithRetry (api : ApiContext) (request : HttpRequest) (policy : RetryPolicy) :
    Blameless (fetchWithRetry api request policy) := blameless_withRetryNamed _ _ _

theorem faults_executeScript (a : Action) (c : Context) :
    Faults (executeScript c) (Complaint a c) := by
  refine faults_params fun p _ => Blameless.faults (fun log e he hs => ?_) _
  obtain ⟨first, o, second, rfl, ho, hr⟩ := (ends_lift_bind_iff _ _ _).mp he
  obtain rfl := (Prog.exec_call_iff _ _).mp ho
  split at hr
  · rename_i answer
    rcases (ends_bind_iff _ _ _).mp hr with ⟨e', he', ha⟩ | ⟨third, v, fourth, -, -, hp⟩
    · obtain rfl := Except.error.inj he'
      obtain ⟨-, rfl⟩ := (ends_ofAnswer_iff _ _).mp ha
      exact Or.inl ⟨_, List.mem_append_left _ List.mem_cons_self, List.mem_singleton_self e⟩
    · obtain ⟨-, hx⟩ := (ends_pure_iff _ _).mp hp
      cases hx
  · obtain ⟨-, hx⟩ := (ends_throw_iff _ _).mp hr
    obtain rfl := Except.error.inj hx
    cases hs

theorem faults_extractPdf (command : Option PdfCommand) (a : Action) (c : Context) :
    Faults (extractPdf command c) (Complaint a c) := by
  refine faults_params fun p _ => ?_
  split
  · exact faults_throw fun _ => .data _
  · split
    · exact (blameless_throw rfl).faults _
    · refine (blameless_bind (blameless_fetchWithRetry _ _ _) fun response => ?_).faults _
      exact blameless_bind (blameless_inScratch fun s => blameless_extractIn _ _ _ s) fun _ =>
        blameless_pure _

theorem faults_httpRequest (method : HttpMethod) (a : Action) (c : Context) :
    Faults (httpRequest method c) (Complaint a c) := by
  refine faults_params fun p _ => Blameless.faults ?_ _
  refine blameless_bind (blameless_fetchWithRetry _ _ _) fun response => ?_
  refine blameless_bind (blameless_ofAnswer fun e he => ?_) fun _ => blameless_pure _
  obtain ⟨text, rfl⟩ := responseValue_error he
  rfl

theorem faults_navigate (a : Action) (c : Context) : Faults (navigate c) (Complaint a c) := by
  refine faults_params fun p _ => Blameless.faults ?_ _
  refine blameless_bind (blameless_withRetryNamed _ _ _) fun _ => ?_
  split
  · exact blameless_bind (blameless_awaitFullLoad _ _) fun _ => blameless_pure _
  · exact blameless_pure _

theorem complaints_builtIn (extractor : Option PdfCommand) (a : Action) (c : Context) :
    Faults (builtIn extractor a c) (Complaint a c) := by
  cases a with
  | navigate => exact faults_navigate _ c
  | findElement => exact faults_findElement c
  | click =>
    exact faults_onElements (Or.inl rfl) (blameless_clickOne _) fun _ => blameless_pure _
  | extractText =>
    exact faults_onElements (Or.inl rfl) blameless_readText fun _ => blameless_pure _
  | extractTable =>
    exact faults_paramsOr fun p =>
      faults_onElements (Or.inl rfl) (blameless_readTable p) fun _ => blameless_pure _
  | extractAttribute =>
    exact faults_params fun p _ =>
      faults_onElements (Or.inl rfl) (blameless_readAttribute _) fun _ => blameless_pure _
  | inputText =>
    exact faults_params fun p _ =>
      faults_onElements (Or.inl rfl) (blameless_fillOne _) fun _ => blameless_pure _
  | scrollIntoElement =>
    exact faults_onElements (Or.inl rfl)
      (fun e => blameless_bind (blameless_outcome _) fun _ => blameless_pure _) fun _ =>
        blameless_pure _
  | waitForLoad =>
    exact faults_paramsOr fun p => (blameless_bind
      (blameless_ask (.load _ _ _) id rfl fun _ _ => mem_errors) fun _ => blameless_pure _).faults _
  | waitForFullLoad =>
    exact faults_paramsOr fun p =>
      (blameless_bind (blameless_awaitFullLoad _ _) fun _ => blameless_pure _).faults _
  | waitForDisappearance =>
    exact faults_params fun p _ =>
      (blameless_bind (blameless_withRetryNamed _ _ _) fun _ => blameless_pure _).faults _
  | scrollToTop => exact (blameless_bind (blameless_outcome _) fun _ => blameless_pure _).faults _
  | scrollToBottom => exact (blameless_bind (blameless_outcome _) fun _ => blameless_pure _).faults _
  | screenshot =>
    refine (blameless_bind (blameless_lift _) fun closed => ?_).faults _
    split
    · exact blameless_throw rfl
    · exact blameless_bind (blameless_ask (.screenshot _) id rfl fun _ _ => mem_errors) fun _ =>
        blameless_pure _
  | executeScript => exact faults_executeScript _ c
  | httpGet => exact faults_httpRequest .get _ c
  | httpPost => exact faults_httpRequest .post _ c
  | extractPdf => exact faults_extractPdf extractor _ c

theorem faults_builtIn (extractor : Option PdfCommand) (c : Context) :
    Faults (builtIn extractor c.step.action c) (Fault c) := by
  intro log e he hs
  exact (complaints_builtIn extractor _ c log e he hs).imp_right fun ⟨hl, hc⟩ => ⟨hl, hc.fault⟩

/-- The standard registry performs an action by its built-in executor. -/
theorem execute_of_action (extractor : Option PdfCommand) {c : Context} {a : Action}
    (ha : c.step.action = a) :
    (Registry.standard extractor).execute c = builtIn extractor a c :=
  congrFun (congrArg (builtIn extractor) ha) c

theorem execute_findElement (extractor : Option PdfCommand) {c : Context}
    (ha : c.step.action = .findElement) :
    (Registry.standard extractor).execute c = findElement c := execute_of_action extractor ha

theorem findElement_of_inSelection {c : Context} {p : FindElementParams}
    (hp : c.step.params FindElementParams.read = .ok p) (hs : p.inSelection = true) :
    findElement c = (do
      let each ← forEachElement c fun parent =>
        Locator.resolve (.element parent) p.by_ p.locator (findOptions p)
      pure (some (pendingOf p (gathered each)))) := by
  unfold findElement Context.params
  rw [hp]
  exact if_pos hs

theorem ends_findElement_of_missing {c : Context} (hl : c.step.LooksInSelection)
    (ht : c.elementTarget.isElementContext = false) {log : Log}
    {r : Except FlowError (Option Pending)} (h : Ends (findElement c) log r) :
    log = [] ∧ r = .error (.missingContext c.step.action) := by
  obtain ⟨-, p, hp, hs⟩ := hl
  rw [findElement_of_inSelection hp hs] at h
  obtain ⟨o, ho, rfl⟩ := ends_map_iff.mp h
  obtain ⟨rfl, rfl⟩ := (ends_forEachElement_of_missing ht).mp ho
  exact ⟨rfl, rfl⟩

/-- What a lookup leaves holds only elements that were answered to it. -/
theorem finds_findElement (c : Context) :
    Finds (findElement c) fun produced => (produced.getD .empty).held := by
  refine finds_last fun p => ?_
  have hk (r : Locator.Resolved) : Yields (pure (some (pendingOf p r)) : Attempt (Option Pending))
      fun produced => (produced.getD .empty).held ⊆ r.toList :=
    yields_pure (by rw [Option.getD_some, held_pendingOf]; exact List.Subset.refl _)
  split
  · exact finds_bind_of_yields (finds_gathered fun e => Locator.finds_resolve _ _ _ _)
      fun each => hk (gathered each)
  · exact finds_bind_of_yields (Locator.finds_resolve _ _ _ _) hk

/-- A step that works on no elements of earlier steps does not look at what they left. -/
theorem builtIn_of_not_needs (extractor : Option PdfCommand) {c : Context}
    (h : ¬ c.step.NeedsElements) (prev selection : Pending) :
    builtIn extractor c.step.action { c with prev := prev, selection := selection } =
      builtIn extractor c.step.action c := by
  cases ha : c.step.action with
  | findElement =>
    refine ofAnswer_bind_congr fun p hp => ?_
    have hs : ¬ p.inSelection = true := fun hs => h (Or.inr ⟨ha, p, hp, hs⟩)
    rw [if_neg hs, if_neg hs]
    rfl
  | click | inputText | scrollIntoElement | extractText | extractTable | extractAttribute =>
    exact absurd (Or.inl (by rw [ha]; rfl)) h
  | _ => rfl

end Executor
end PageFlow
