import PageFlow.Proofs.Executors
import PageFlow.Proofs.Polling
import PageFlow.Proofs.Trimming

/-! What is read of elements. A step that extracts texts, attributes or tables makes one call for
each element at hand, in order, and each entry of its result is made of one answer; the first answer
that is an error is the error of the step. A text counts without the blanks at its ends. -/
namespace PageFlow
namespace Actions

open Engine

theorem trimmedJson_eq_null_iff (value : Option String) : trimmedJson value = .null ↔
    ∀ s, value = some s → ∀ c ∈ s.toList, Text.isBlank c = true := by
  cases value with
  | none => simp [trimmedJson]
  | some s =>
    have hempty : Text.trimmed s = "" ↔ Text.trim s.toList = [] := by
      rw [Text.trimmed, ← String.toList_inj]
      simp
    simp [trimmedJson, hempty, Text.trim_eq_nil_iff]

theorem trimmedJson_of_ne_null {value : Option String} (h : trimmedJson value ≠ .null) :
    ∃ s t, value = some s ∧ trimmedJson value = .str t ∧ Text.Trims s.toList t.toList := by
  cases value with
  | none => exact absurd rfl h
  | some s =>
    refine ⟨s, Text.trimmed s, rfl, ?_, ?_⟩
    · by_cases hs : Text.trimmed s = ""
      · exact absurd (if_pos hs) h
      · exact if_neg hs
    · rw [Text.trimmed, String.toList_ofList]
      exact Text.trims_trim _

/-- How a step reads one element: by which call, and what entry it makes of the answer. -/
structure Reading where
  call : Element → Op
  entry : (e : Element) → Reply (call e) → Except FlowError Json

namespace Reading

def ofText : Reading := ⟨.text, fun _ (answer : Answer (Option String)) => answer.map trimmedJson⟩

def ofAttribute (name : String) : Reading :=
  ⟨(.attributeOf · name), fun _ (answer : Answer (Option String)) => answer.map trimmedJson⟩

def ofTable (p : ExtractTableParams) : Reading :=
  ⟨.rows, fun _ (answer : Answer (List TableRow)) => answer.map (tableJson p)⟩

/-- The attempt reads an element so, and does nothing else. -/
def Done (R : Reading) (f : Element → Attempt Json) : Prop :=
  ∀ e log r, Ends (f e) log r ↔ ∃ answer, log = [⟨R.call e, answer⟩] ∧ r = R.entry e answer

/-- The elements were read one after the other by these calls, and gave these entries. -/
inductive Gathers (R : Reading) : List Element → Log → List Json → Prop
  | nil : Gathers R [] [] []
  | cons {e answer j es log js} : R.entry e answer = .ok j → Gathers R es log js →
      Gathers R (e :: es) (⟨R.call e, answer⟩ :: log) (j :: js)

inductive Fails (R : Reading) : List Element → Log → FlowError → Prop
  | mk {done e rest log js answer err} : Gathers R done log js → R.entry e answer = .error err →
      Fails R (done ++ e :: rest) (log ++ [⟨R.call e, answer⟩]) err

end Reading

/-- The step reads elements so. -/
inductive ReadsBy (s : Step) : Reading → Prop
  | text : s.action = .extractText → ReadsBy s .ofText
  | attributes {p} : s.action = .extractAttribute → s.params AttributeParams.read = .ok p →
      ReadsBy s (.ofAttribute p.name)
  | table {p} : s.action = .extractTable →
      s.paramsOr ExtractTableParams.read .default = .ok p → ReadsBy s (.ofTable p)

section Readings

variable {R : Reading} {f : Element → Attempt Json} {es : List Element} {log : Log}
  {js : List Json}

theorem ends_answer_map_iff {op : Op} {a : Attempt τ} {answer : Reply op → Except FlowError τ}
    (ha : a.run = .ask op fun v => .done (answer v)) {g : τ → υ} {r : Except FlowError υ} :
    Ends (a >>= fun v => pure (g v)) log r ↔ ∃ v, log = [⟨op, v⟩] ∧ r = (answer v).map g := by
  rw [ends_map_iff]
  simp only [ends_answer_iff ha]
  constructor
  · rintro ⟨_, ⟨v, rfl, rfl⟩, rfl⟩
    exact ⟨v, rfl, rfl⟩
  · rintro ⟨v, rfl, rfl⟩
    exact ⟨_, ⟨v, rfl, rfl⟩, rfl⟩

theorem done_readText : Reading.ofText.Done readText := fun _ _ _ => ends_answer_map_iff rfl

theorem done_readAttribute (name : String) : (Reading.ofAttribute name).Done (readAttribute name) :=
  fun _ _ _ => ends_answer_map_iff rfl

theorem done_readTable (p : ExtractTableParams) : (Reading.ofTable p).Done (readTable p) :=
  fun _ _ _ => ends_answer_map_iff rfl

theorem execute_of_readsBy (extractor : Option PdfCommand) {c : Context} (h : ReadsBy c.step R) :
    ∃ f, R.Done f ∧ (Registry.standard extractor).execute c = (do
      let entries ← forEachElement c f
      pure (captured entries.toJson)) := by
  cases h with
  | text ha =>
    rw [Executor.execute_of_action extractor ha]
    exact ⟨readText, done_readText, rfl⟩
  | attributes ha hp =>
    rw [Executor.execute_of_action extractor ha]
    refine ⟨_, done_readAttribute _, ?_⟩
    simp only [Executor.builtIn, extractAttribute, Context.params, hp]
    rfl
  | table ha hp =>
    rw [Executor.execute_of_action extractor ha]
    refine ⟨_, done_readTable _, ?_⟩
    simp only [Executor.builtIn, extractTable, Context.paramsOr, hp]
    rfl

namespace Reading

theorem Gathers.lengths (h : R.Gathers es log js) :
    log.length = es.length ∧ js.length = es.length := by
  induction h with
  | nil => exact ⟨rfl, rfl⟩
  | cons _ _ ih => simpa using ih

theorem Gathers.getElem? (h : R.Gathers es log js) {i : Nat} {e : Element} (he : es[i]? = some e) :
    ∃ answer j, log[i]? = some ⟨R.call e, answer⟩ ∧ js[i]? = some j ∧
      R.entry e answer = .ok j := by
  induction h generalizing i with
  | nil => simp at he
  | @cons first answer j _ _ _ hj _ ih =>
    cases i with
    | zero =>
      obtain rfl : first = e := by simpa using he
      exact ⟨answer, j, rfl, rfl, hj⟩
    | succ i => simpa using ih (by simpa using he)

theorem gathers_iff (hf : R.Done f) : R.Gathers es log js ↔ ∃ done : List (Treated Json),
    (∀ d ∈ done, Ends (f d.element) d.calls (.ok d.value)) ∧ es = done.map Treated.element ∧
      log = done.flatMap Treated.calls ∧ js = done.map Treated.value := by
  constructor
  · intro h
    induction h with
    | nil => exact ⟨[], by simp, rfl, rfl, rfl⟩
    | @cons e answer j es log js hj _ ih =>
      obtain ⟨done, hd, rfl, rfl, rfl⟩ := ih
      have hread : Ends (f e) [⟨R.call e, answer⟩] (.ok j) := (hf _ _ _).mpr ⟨answer, rfl, hj.symm⟩
      exact ⟨⟨e, _, j⟩ :: done, List.forall_mem_cons.mpr ⟨hread, hd⟩, rfl, rfl, rfl⟩
  · rintro ⟨done, hd, rfl, rfl, rfl⟩
    induction done with
    | nil => exact .nil
    | cons d done ih =>
      obtain ⟨hread, hd⟩ := List.forall_mem_cons.mp hd
      obtain ⟨answer, hcalls, hj⟩ := (hf _ _ _).mp hread
      rw [List.flatMap_cons, hcalls]
      exact .cons hj.symm (ih hd)

theorem ends_eachElement_of_done (hf : R.Done f) {r : Except FlowError (List Json)} :
    Ends (eachElement f es) log r ↔ (∃ js, R.Gathers es log js ∧ r = .ok js) ∨
      ∃ err, R.Fails es log err ∧ r = .error err := by
  rw [ends_eachElement_iff]
  constructor
  · rintro ⟨done, hd, ⟨rfl, rfl, rfl⟩ | ⟨e, rest, last, err, rfl, he, rfl, rfl⟩⟩
    · exact Or.inl ⟨_, (gathers_iff hf).mpr ⟨done, hd, rfl, rfl, rfl⟩, rfl⟩
    · obtain ⟨answer, rfl, herr⟩ := (hf _ _ _).mp he
      exact Or.inr ⟨err, .mk ((gathers_iff hf).mpr ⟨done, hd, rfl, rfl, rfl⟩) herr.symm, rfl⟩
  · rintro (⟨js, hg, rfl⟩ | ⟨err, ⟨hg, herr⟩, rfl⟩)
    · obtain ⟨done, hd, rfl, rfl, rfl⟩ := (gathers_iff hf).mp hg
      exact ⟨done, hd, Or.inl ⟨rfl, rfl, rfl⟩⟩
    · obtain ⟨done, hd, rfl, rfl, -⟩ := (gathers_iff hf).mp hg
      exact ⟨done, hd, Or.inr ⟨_, _, _, _, rfl, (hf _ _ _).mpr ⟨_, rfl, herr.symm⟩, rfl, rfl⟩⟩

end Reading

section Steps

variable {c : Context}

theorem execute_of_element (hf : R.Done f) {e : Element} (ht : c.elementTarget = .element e)
    {r : Except FlowError (Option Pending)} :
    Ends (forEachElement c f >>= fun entries => pure (captured entries.toJson)) log r ↔
      ∃ answer, log = [⟨R.call e, answer⟩] ∧ r = (R.entry e answer).map captured := by
  have hone : (forEachElement c f >>= fun entries => pure (captured entries.toJson)) =
      (f e >>= fun j => pure (captured j)) := by
    simp only [forEachElement, ht, Fanned.toJson, bind_assoc, pure_bind]
  have hread := hf e
  rw [hone, ends_map_iff]
  simp only [hread]
  constructor
  · rintro ⟨_, ⟨answer, rfl, rfl⟩, rfl⟩
    exact ⟨answer, rfl, rfl⟩
  · rintro ⟨answer, rfl, rfl⟩
    exact ⟨_, ⟨answer, rfl, rfl⟩, rfl⟩

theorem execute_of_elements (hf : R.Done f) (ht : c.elementTarget = .elements es)
    {r : Except FlowError (Option Pending)} :
    Ends (forEachElement c f >>= fun entries => pure (captured entries.toJson)) log r ↔
      (∃ js, R.Gathers es log js ∧ r = .ok (captured (.arr js))) ∨
        ∃ err, R.Fails es log err ∧ r = .error err := by
  have hmany : (forEachElement c f >>= fun entries => pure (captured entries.toJson)) =
      (eachElement f es >>= fun js => pure (captured (.arr js))) := by
    simp only [forEachElement, ht, Fanned.toJson, bind_assoc, pure_bind]
  rw [hmany, ends_map_iff]
  simp only [Reading.ends_eachElement_of_done hf]
  constructor
  · rintro ⟨_, ⟨js, hg, rfl⟩ | ⟨err, hfails, rfl⟩, rfl⟩
    · exact Or.inl ⟨js, hg, rfl⟩
    · exact Or.inr ⟨err, hfails, rfl⟩
  · rintro (⟨js, hg, rfl⟩ | ⟨err, hfails, rfl⟩)
    · exact ⟨_, Or.inl ⟨js, hg, rfl⟩, rfl⟩
    · exact ⟨_, Or.inr ⟨err, hfails, rfl⟩, rfl⟩

/-- A step that reads texts, attributes or tables, in the standard registry and with any answers.
Over one element its result is the entry of that element. Over a selection it is the list of the
entries of all elements, each made of the one answer about its own element, in the order in which
the elements stand and in which they are read; at the first reading that fails the step ends with
that very error, all elements before were read once and none after. Over a miss it fails as the miss
says and without elements for want of them, in both cases without a call. A text is null exactly if
it is not there or blank, and stands without the blanks at its ends otherwise. -/
theorem elements_read_in_order (extractor : Option PdfCommand) (h : ReadsBy c.step R) :
    let step := (Registry.standard extractor).execute c
    (∀ e, c.elementTarget = .element e → ∀ log r, Ends step log r ↔
      ∃ answer, log = [⟨R.call e, answer⟩] ∧ r = (R.entry e answer).map captured) ∧
    (∀ es, c.elementTarget = .elements es → ∀ log r, Ends step log r ↔
      (∃ js, R.Gathers es log js ∧ r = .ok (captured (.arr js))) ∨
        ∃ err, R.Fails es log err ∧ r = .error err) ∧
    (c.elementTarget = .elements [] → ∀ log r, Ends step log r ↔
      log = [] ∧ r = .ok (captured (.arr []))) ∧
    (∀ (es : List Element) (log : Log) (js : List Json), R.Gathers es log js →
      log.length = es.length ∧ js.length = es.length ∧
        ∀ (i : Nat) (e : Element), es[i]? = some e → ∃ answer j,
          log[i]? = some ⟨R.call e, answer⟩ ∧ js[i]? = some j ∧ R.entry e answer = .ok j) ∧
    (∀ miss, c.elementTarget = .notFound miss → ∀ log r, Ends step log r ↔
      log = [] ∧ r = .error (.locatorTimeout miss.selector miss.timeoutMs)) ∧
    (c.elementTarget.isElementContext = false → ∀ log r, Ends step log r ↔
      log = [] ∧ r = .error (.missingContext c.step.action)) ∧
    (∀ (d : Driver) (start : Nat), ∃ time log r,
      Ends step log r ∧ time 0 = start ∧ d.Drives time [] log) ∧
    ∀ value, (trimmedJson value = .null ↔
        ∀ s, value = some s → ∀ ch ∈ s.toList, Text.isBlank ch = true) ∧
      (trimmedJson value ≠ .null → ∃ s t, value = some s ∧ trimmedJson value = .str t ∧
        Text.Trims s.toList t.toList) := by
  intro step
  obtain ⟨f, hf, hstep⟩ := execute_of_readsBy extractor h
  refine ⟨fun e ht log r => ?_, fun es ht log r => ?_, fun ht log r => ?_, fun es log js hg => ?_,
    fun miss ht log r => ?_, fun hm log r => ?_, fun d start => ?_, fun value => ?_⟩
  · rw [show step = _ from hstep]
    exact execute_of_element hf ht
  · rw [show step = _ from hstep]
    exact execute_of_elements hf ht
  · rw [show step = _ from hstep, execute_of_elements hf ht]
    constructor
    · rintro (⟨js, hg, rfl⟩ | ⟨err, hfails, rfl⟩)
      · cases hg
        exact ⟨rfl, rfl⟩
      · generalize hnil : ([] : List Element) = es at hfails
        cases hfails
        simp at hnil
    · rintro ⟨rfl, rfl⟩
      exact Or.inl ⟨[], .nil, rfl⟩
  · exact ⟨hg.lengths.1, hg.lengths.2, fun i e he => hg.getElem? he⟩
  · rw [show step = _ from hstep, forEachElement_of_notFound ht]
    exact ends_throw_iff _ r
  · rw [show step = _ from hstep, ends_map_iff]
    simp only [ends_forEachElement_of_missing hm]
    constructor
    · rintro ⟨o, ⟨rfl, rfl⟩, rfl⟩
      exact ⟨rfl, rfl⟩
    · rintro ⟨rfl, rfl⟩
      exact ⟨.error (.missingContext c.step.action), ⟨rfl, rfl⟩, rfl⟩
  · exact d.exists_ends step start
  · exact ⟨trimmedJson_eq_null_iff value, trimmedJson_of_ne_null⟩

end Steps

end Readings

section Samples

def priceCell (n : Nat) : Element := ⟨⟨0⟩, n, "td", "css td"⟩

def inPrices : Context where
  session := ⟨0, ⟨0⟩, ⟨0⟩⟩
  step := .ofAction .extractText .null
  prev := .elements [priceCell 1, priceCell 2]
  selection := .elements [priceCell 1, priceCell 2]
  config := .default

def priceCalls : Log :=
  [⟨.text (priceCell 1), .ok (some " 10 EUR\n")⟩, ⟨.text (priceCell 2), .ok (some "\t ")⟩]

end Samples

/-- Both cells are read, or only the first one if that fails. -/
theorem elements_read_in_order_prices :
    ReadsBy inPrices.step .ofText ∧
      (∃ js, Reading.ofText.Gathers [priceCell 1, priceCell 2] priceCalls js ∧
        js = [.str "10 EUR", .null]) ∧
      ∃ err, Reading.ofText.Fails [priceCell 1, priceCell 2]
        [⟨.text (priceCell 1), .error (.element "stale")⟩] err ∧ err = .element "stale" := by
  have hread : Ends ((Registry.standard none).execute inPrices) priceCalls
      (.ok (captured (.arr [.str "10 EUR", .null]))) := by
    repeat (first | exact .done _ | refine .ask _ ?_)
  have hstale : Ends ((Registry.standard none).execute inPrices)
      [⟨.text (priceCell 1), .error (.element "stale")⟩] (.error (.element "stale")) := by
    repeat (first | exact .done _ | refine .ask _ ?_)
  have hreads : ReadsBy inPrices.step .ofText := .text rfl
  have hstep := (elements_read_in_order none (c := inPrices) hreads).2.1 _ rfl
  refine ⟨hreads, ?_, ?_⟩
  · rcases (hstep _ _).mp hread with ⟨js, hg, hr⟩ | ⟨err, -, hr⟩
    · obtain rfl : js = [.str "10 EUR", .null] := by
        cases hr
        rfl
      exact ⟨_, hg, rfl⟩
    · cases hr
  · rcases (hstep _ _).mp hstale with ⟨js, -, hr⟩ | ⟨err, hfails, hr⟩
    · cases hr
    · exact ⟨err, hfails, (Except.error.inj hr).symm⟩

end Actions
end PageFlow
