import PageFlow.Proofs.Executors
import PageFlow.Proofs.Resolution

/-! What a lookup step does with the elements at hand. Under one element it looks as a step without
them would look on the page; under several it looks in one after the other, each with the whole
timeout, and what it leaves are the matches of all of them in order; a record of a miss is an error
without another lookup. -/
namespace PageFlow
namespace Locator

open Engine

variable {root : Root} {kind : SelectorKind} {selector : String} {o : Options} {log : Log}

/-- A lookup that ends with nothing found has lasted for its whole timeout. -/
theorem resolve_lasts {r : Except FlowError Resolved} {time : Nat → Nat}
    (h : Ends (resolve root kind selector o) log r) (hn : ∀ v, r = .ok v → v.toList = [])
    (hc : Clocked time log) : time 0 + o.timeout.toNanos ≤ time log.length := by
  rcases ends_resolve h with ⟨e, rest, -, rfl⟩ | ⟨hw, -⟩
  · have hnone := hn _ rfl
    by_cases hm : o.multiple = true <;> simp [hm, Resolved.toList] at hnone
  · obtain ⟨_, _, -, -, -, ⟨hr, -⟩ | ⟨-, _, -, -, hd, -⟩⟩ := ends_waitFor hw (asksOnly_found o) hc
    · exact absurd rfl hr
    · exact hd

theorem resolve_ok {v : Resolved} (h : Ends (resolve root kind selector o) log (.ok v)) :
    (o.multiple = false → v.toList.length ≤ 1) ∧ (o.strict = true → v.toList ≠ []) := by
  rcases ends_resolve h with ⟨e, rest, -, hv⟩ | ⟨-, hv⟩
  · obtain rfl := Except.ok.inj hv
    by_cases hm : o.multiple = true <;> simp [hm, Resolved.toList]
  · by_cases hs : o.strict = true
    · simp [hs] at hv
    · rw [if_neg hs] at hv
      obtain rfl := Except.ok.inj hv
      by_cases hm : o.multiple = true <;> simp [hm, hs, Resolved.toList]

theorem resolve_error {e : FlowError} (h : Ends (resolve root kind selector o) log (.error e)) :
    o.strict = true ∧ e = .locatorTimeout (kind.describe selector) o.timeout.toMillis := by
  rcases ends_resolve h with ⟨_, _, -, he⟩ | ⟨-, he⟩
  · cases he
  · by_cases hs : o.strict = true
    · rw [if_pos hs] at he
      exact ⟨hs, Except.error.inj he⟩
    · rw [if_neg hs] at he
      cases he

end Locator

namespace Actions

open Engine

def lookupFrom (p : FindElementParams) (root : Root) : Attempt (Option Pending) := do
  let resolved ← Locator.resolve root p.by_ p.locator (findOptions p)
  pure (some (pendingOf p resolved))

def missError (p : FindElementParams) : FlowError :=
  .locatorTimeout (p.by_.describe p.locator) (findOptions p).timeout.toMillis

/-- A lookup under one element: its calls, and what it resolved to. -/
abbrev Search := Treated Locator.Resolved

def Search.hits (s : Search) : List Element := s.value.toList

def Search.Made (p : FindElementParams) (s : Search) : Prop :=
  Ends (Locator.resolve (.element s.element) p.by_ p.locator (findOptions p)) s.calls (.ok s.value)

/-- The lookups under some elements and what the step leaves: all of them are made in order, or a
strict one has no match, fails, and is the last. -/
inductive Searches (p : FindElementParams) (parents : List Element) :
    List Search → Except FlowError (Option Pending) → Prop
  | all {done : List Search} : (∀ s ∈ done, s.Made p) → done.map Treated.element = parents →
      (p.strict = true → ∀ s ∈ done, s.hits ≠ []) →
      Searches p parents done (.ok (some (.elements (done.flatMap Search.hits))))
  | missed {done : List Search} {parent rest calls} : p.strict = true →
      (∀ s ∈ done, s.Made p) → (∀ s ∈ done, s.hits ≠ []) →
      parents = done.map Treated.element ++ parent :: rest →
      Ends (Locator.resolve (.element parent) p.by_ p.locator (findOptions p)) calls
        (.error (missError p)) →
      Searches p parents (done ++ [⟨parent, calls, .none⟩]) (.error (missError p))

section Steps

variable {c : Context} {p : FindElementParams} {log : Log}

theorem findElement_of_page (hp : c.step.params FindElementParams.read = .ok p)
    (hs : p.inSelection = false) : findElement c = lookupFrom p (.page c.page) := by
  unfold findElement Context.params
  rw [hp]
  exact if_neg (by simp [hs])

theorem findElement_of_element (hp : c.step.params FindElementParams.read = .ok p)
    (hs : p.inSelection = true) {e : Element} (ht : c.elementTarget = .element e) :
    findElement c = lookupFrom p (.element e) := by
  rw [Executor.findElement_of_inSelection hp hs]
  simp only [forEachElement, ht, lookupFrom, gathered, bind_assoc, pure_bind]

theorem findElement_of_notFound (hp : c.step.params FindElementParams.read = .ok p)
    (hs : p.inSelection = true) {miss : LocatorMiss} (ht : c.elementTarget = .notFound miss) :
    findElement c = throw (.locatorTimeout miss.selector miss.timeoutMs) := by
  rw [Executor.findElement_of_inSelection hp hs, forEachElement_of_notFound ht]
  rfl

theorem findElement_of_elements (hp : c.step.params FindElementParams.read = .ok p)
    (hs : p.inSelection = true) {parents : List Element}
    (ht : c.elementTarget = .elements parents) : findElement c = (do
      let found ← eachElement
        (fun parent => Locator.resolve (.element parent) p.by_ p.locator (findOptions p)) parents
      pure (some (.elements (found.flatMap Locator.Resolved.toList)))) := by
  rw [Executor.findElement_of_inSelection hp hs]
  simp only [forEachElement, ht, gathered, pendingOf, bind_assoc, pure_bind]

/-- A search that made its calls in vain has lasted for its whole timeout. -/
theorem Searches.lasts {parents : List Element} {searches : List Search}
    {r : Except FlowError (Option Pending)} (h : Searches p parents searches r) {s : Search}
    (hs : s ∈ searches) (hn : s.hits = []) {time : Nat → Nat} (hc : Clocked time s.calls) :
    time 0 + (findOptions p).timeout.toNanos ≤ time s.calls.length := by
  have hmade (hm : s.Made p) : time 0 + (findOptions p).timeout.toNanos ≤ time s.calls.length :=
    Locator.resolve_lasts hm (fun v hv => by rw [← Except.ok.inj hv]; exact hn) hc
  cases h with
  | all hd => exact hmade (hd s hs)
  | missed _ hd _ _ he =>
    rcases List.mem_append.mp hs with hs | hs
    · exact hmade (hd s hs)
    · obtain rfl := List.mem_singleton.mp hs
      exact Locator.resolve_lasts he nofun hc

theorem Searches.length_hits_le {parents : List Element} {searches : List Search}
    {r : Except FlowError (Option Pending)} (h : Searches p parents searches r)
    (hm : p.multiple = false) : ∀ s ∈ searches, s.hits.length ≤ 1 := by
  have hmade {s : Search} (hs : s.Made p) : s.hits.length ≤ 1 := (Locator.resolve_ok hs).1 hm
  cases h with
  | all hd => exact fun s hs => hmade (hd s hs)
  | missed _ hd =>
    refine List.forall_mem_append.mpr ⟨fun s hs => hmade (hd s hs), ?_⟩
    exact List.forall_mem_singleton.mpr (Nat.zero_le 1)

theorem ends_findElement_of_elements_iff (hp : c.step.params FindElementParams.read = .ok p)
    (hs : p.inSelection = true) {parents : List Element} (ht : c.elementTarget = .elements parents)
    {r : Except FlowError (Option Pending)} :
    Ends (findElement c) log r ↔
      ∃ searches, Searches p parents searches r ∧ log = searches.flatMap Treated.calls := by
  have hstrict {s : Search} (hs : s.Made p) : p.strict = true → s.hits ≠ [] :=
    (Locator.resolve_ok hs).2
  have hleft (done : List Search) : (done.map Treated.value).flatMap Locator.Resolved.toList =
      done.flatMap Search.hits := List.flatMap_map _ _ _
  rw [findElement_of_elements hp hs ht, ends_map_iff]
  simp only [ends_eachElement_iff]
  constructor
  · rintro ⟨o, ⟨done, hd, ⟨rfl, rfl, rfl⟩ | ⟨parent, rest, calls, err, rfl, he, rfl, rfl⟩⟩, rfl⟩
    · refine ⟨done, ?_, rfl⟩
      simp only [Except.map, hleft]
      exact .all hd rfl fun hst s hs => hstrict (hd s hs) hst
    · obtain ⟨hst, rfl⟩ := Locator.resolve_error he
      refine ⟨done ++ [⟨parent, calls, .none⟩], ?_, by simp⟩
      exact .missed hst hd (fun s hs => hstrict (hd s hs) hst) rfl he
  · rintro ⟨searches, hsearch, rfl⟩
    cases hsearch with
    | all hd hparents =>
      refine ⟨.ok (searches.map Treated.value), ⟨searches, hd, Or.inl ?_⟩, ?_⟩
      · exact ⟨hparents.symm, rfl, rfl⟩
      simp only [Except.map, hleft]
    | @missed done parent rest calls _ hd _ hparents he =>
      refine ⟨.error (missError p), ⟨done, hd, Or.inr ?_⟩, rfl⟩
      refine ⟨parent, rest, calls, missError p, hparents, he, ?_⟩
      simp

/-- A lookup step that looks in the elements at hand, in the standard registry and with any answers.
Under a single element it is the program of a lookup that starts there, which is also what a lookup
on the page is. Several elements are looked in one after the other: what is left are the matches of
all in their order, of a single lookup one for each element at most, and a lookup in vain takes its
own whole timeout whatever came before it; a strict one ends the step at the first element without a
match. Over a miss the step fails as the miss says, and over nothing for want of elements, in both
cases without a call. -/
theorem lookup_in_selection (extractor : Option PdfCommand) {c : Context} {p : FindElementParams}
    (ha : c.step.action = .findElement) (hp : c.step.params FindElementParams.read = .ok p)
    (hs : p.inSelection = true) :
    let lookup := (Registry.standard extractor).execute c
    (∀ parents, c.elementTarget = .elements parents →
      (∀ log r, Ends lookup log r ↔
        ∃ searches, Searches p parents searches r ∧ log = searches.flatMap Treated.calls) ∧
      ∀ searches r, Searches p parents searches r →
        (p.multiple = false → ∀ s ∈ searches, s.hits.length ≤ 1) ∧
        ∀ time, Clocked time (searches.flatMap Treated.calls) → ∀ before s after,
          searches = before ++ s :: after → s.hits = [] →
            let start := (before.flatMap Treated.calls).length
            time start + (findOptions p).timeout.toNanos ≤ time (start + s.calls.length)) ∧
    (∀ e, c.elementTarget = .element e → lookup = lookupFrom p (.element e)) ∧
    (∀ c' : Context, c'.step.action = .findElement →
      c'.step.params FindElementParams.read = .ok { p with inSelection := false } →
        (Registry.standard extractor).execute c' = lookupFrom p (.page c'.page)) ∧
    (∀ miss, c.elementTarget = .notFound miss → ∀ log r, Ends lookup log r ↔
      log = [] ∧ r = .error (.locatorTimeout miss.selector miss.timeoutMs)) ∧
    (c.elementTarget = .empty → ∀ log r, Ends lookup log r ↔
      log = [] ∧ r = .error (.missingContext .findElement)) ∧
    ∀ (d : Driver) (start : Nat), ∃ time log r,
      Ends lookup log r ∧ time 0 = start ∧ d.Drives time [] log := by
  intro lookup
  have hlookup : lookup = findElement c := Executor.execute_findElement extractor ha
  rw [hlookup]
  refine ⟨fun parents ht => ⟨fun log r => ?_, fun searches r h => ⟨h.length_hits_le, ?_⟩⟩, ?_, ?_,
    fun miss ht log r => ?_, fun ht log r => ?_, fun d start => ?_⟩
  · exact ends_findElement_of_elements_iff hp hs ht
  · rintro time hc before s after rfl hn
    rw [List.flatMap_append, List.flatMap_cons] at hc
    have hcalls := (clocked_append_iff.mp (clocked_append_iff.mp hc).2).1
    exact h.lasts (by simp) hn hcalls
  · exact fun e ht => findElement_of_element hp hs ht
  · intro c' ha' hp'
    rw [Executor.execute_findElement extractor ha', findElement_of_page hp' rfl]
    rfl
  · rw [findElement_of_notFound hp hs ht]
    exact ends_throw_iff _ r
  · have hm : c.elementTarget.isElementContext = false := by rw [ht]; rfl
    rw [Executor.findElement_of_inSelection hp hs, ends_map_iff]
    simp only [ends_forEachElement_of_missing hm, ha]
    constructor
    · rintro ⟨_, ⟨rfl, rfl⟩, rfl⟩
      exact ⟨rfl, rfl⟩
    · rintro ⟨rfl, rfl⟩
      exact ⟨_, ⟨rfl, rfl⟩, rfl⟩
  · obtain ⟨time, log, r, he, h0, hd⟩ := d.exists_exec (findElement c).run start []
    exact ⟨time, log, r, he, h0, hd⟩

end Steps

section Samples

def row (n : Nat) : Element := ⟨⟨0⟩, n, "tr", "css tr"⟩
def cell : Element := ⟨⟨0⟩, 3, "td", "css td"⟩

def inRows : Context where
  session := ⟨0, ⟨0⟩, ⟨0⟩⟩
  step := .ofAction .findElement
    (.obj [("locator", .str "td"), ("scoped", .bool true), ("timeout", .int 0)])
  prev := .elements [row 1, row 2]
  selection := .elements [row 1, row 2]
  config := .default

def rowCalls : Log :=
  [⟨.now, (0 : Instant)⟩, ⟨.query (.element (row 1)) .css "td", .ok []⟩,
    ⟨.now, (7 : Instant)⟩, ⟨.query (.element (row 2)) .css "td", .ok [cell, row 2]⟩]

end Samples

theorem lookup_in_selection_rows : ∃ p searches,
    inRows.step.params FindElementParams.read = .ok p ∧ p.inSelection = true ∧
      Searches p [row 1, row 2] searches (.ok (some (.elements [cell]))) ∧
      rowCalls = searches.flatMap Treated.calls := by
  have h : Ends ((Registry.standard none).execute inRows) rowCalls
      (.ok (some (.elements [cell]))) := by
    repeat (first | exact .done _ | refine .ask _ ?_)
  have hlookup := lookup_in_selection none (c := inRows) rfl rfl rfl
  obtain ⟨searches, hs, hl⟩ := ((hlookup.1 _ rfl).1 _ _).mp h
  exact ⟨_, searches, rfl, rfl, hs, hl⟩

end Actions
end PageFlow
