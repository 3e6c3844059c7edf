import PageFlow.Proofs.Disappearance
import PageFlow.Proofs.MarkedLookups

/-! Lookups on a page by CSS and XPath. Of a lookup that fails nothing is told but that there are no
matches, which is the answer that a wait for a disappearance ends with. So such a wait takes the
first lookup that fails for the first that finds nothing. -/
namespace PageFlow
namespace Locator

open Engine

theorem ends_waitUntilDetached_first (page : Page) (kind : SelectorKind) (selector : String)
    (timeout : Duration) (t : Instant) : Ends (waitUntilDetached page kind selector timeout)
      [⟨.now, t⟩, ⟨.query (.page page) kind selector, .ok []⟩] (.ok ()) := by
  refine ends_waitUntilDetached_iff.mpr ⟨some (), ?_, rfl⟩
  refine (ends_call_bind_iff _ _ _).mpr ⟨t, _, rfl, ?_⟩
  -- With or without polls left, the first is made in the same way.
  cases pollBound timeout <;> repeat (first | exact .done _ | refine .ask _ ?_)

end Locator

namespace Chromium

open DevTools
open Prog (Exec)

/-- How a page is searched by CSS or by XPath. -/
inductive LooksUp (p : Page) (selector : String) :
    SelectorKind → Log → Except Fault (List String) → Prop
  | css {log o} : Finds p selector log o → LooksUp p selector .css log o
  | xpath {answer} :
      LooksUp p selector .xpath (waited (.page p) (.findXpath selector) answer) (told answer)

/-- Polls that do not end a wait: looks at the clock, sleeps, and lookups that find something. -/
inductive Polls (p : Page) (selector : String) (kind : SelectorKind) : Log → Prop
  | nil : Polls p selector kind []
  | now {log} (t) : Polls p selector kind log → Polls p selector kind (⟨.now, t⟩ :: log)
  | sleep {log} (d) : Polls p selector kind log → Polls p selector kind (⟨.sleep d, ()⟩ :: log)
  | found {first nodes more all log} : LooksUp p selector kind first (.ok nodes) → nodes ≠ [] →
      Exec (handles p nodes) more all → Polls p selector kind log →
      Polls p selector kind (first ++ more ++ log)

section Lookups

variable {p : Page} {selector : String} {kind : SelectorKind} {log : Log}

theorem exec_handles_nil_iff {all : List Element} :
    Exec (handles p []) log all ↔ log = [] ∧ all = [] := Prog.exec_done_iff _ _

theorem handles_ne_nil {node : String} {nodes : List String} {all : List Element}
    (h : Exec (handles p (node :: nodes)) log all) : all ≠ [] := by
  obtain ⟨n, rest, rfl, hrest⟩ := (Prog.exec_ask_iff _ _ _).mp h
  obtain ⟨_, more, _, rfl, -, hdone⟩ := (Prog.exec_bind_iff (handles p nodes) _ _).mp hrest
  obtain ⟨-, rfl⟩ := (Prog.exec_done_iff _ _).mp hdone
  exact List.cons_ne_nil _ _

theorem exec_queryPage_iff (hk : kind ≠ .script) {r : Engine.Answer (List Element)} :
    Exec (queryPage p kind selector) log r ↔
      ∃ first o more all, log = first ++ more ∧ LooksUp p selector kind first o ∧
        Exec (handles p (foundOrNone o)) more all ∧ r = .ok all := by
  have hlookup (lookup : Remote (Except Fault (List String)))
      (hlookup : ∀ log o, Exec lookup log o ↔ LooksUp p selector kind log o) :
      Exec (lookup >>= fun o => handles p (foundOrNone o) >>= fun all => pure (.ok all)) log r ↔
        ∃ first o more all, log = first ++ more ∧ LooksUp p selector kind first o ∧
          Exec (handles p (foundOrNone o)) more all ∧ r = .ok all := by
    rw [Prog.exec_bind_iff]
    simp only [hlookup, exec_handles_ok_iff]
    constructor
    · rintro ⟨first, o, more, rfl, hfirst, all, hall, rfl⟩
      exact ⟨first, o, more, all, rfl, hfirst, hall, rfl⟩
    · rintro ⟨first, o, more, all, rfl, hfirst, hall, rfl⟩
      exact ⟨first, o, more, rfl, hfirst, all, hall, rfl⟩
  cases kind with
  | css =>
    refine hlookup _ fun log o => exec_find_iff.trans ⟨.css, fun h => ?_⟩
    cases h with
    | css h => exact h
  | xpath =>
    refine hlookup _ fun log o => exec_call_iff.trans ⟨?_, fun h => ?_⟩
    · rintro ⟨answer, rfl, rfl⟩
      exact .xpath
    · cases h with
      | @xpath answer => exact ⟨answer, rfl, rfl⟩
  | script => exact absurd rfl hk

theorem exec_queryPage_empty_iff (hk : kind ≠ .script) :
    Exec (queryPage p kind selector) log (.ok []) ↔
      ∃ o, LooksUp p selector kind log o ∧ foundOrNone o = [] := by
  rw [exec_queryPage_iff hk]
  constructor
  · rintro ⟨first, o, more, all, rfl, hfirst, hall, hr⟩
    obtain rfl := Except.ok.inj hr
    cases ho : foundOrNone o with
    | nil =>
      rw [ho] at hall
      obtain ⟨rfl, -⟩ := exec_handles_nil_iff.mp hall
      exact ⟨o, by rwa [List.append_nil], ho⟩
    | cons node nodes => exact absurd rfl (handles_ne_nil (ho ▸ hall))
  · rintro ⟨o, hlog, ho⟩
    refine ⟨log, o, [], [], (List.append_nil _).symm, hlog, ?_, rfl⟩
    rw [ho]
    exact exec_handles_nil_iff.mpr ⟨rfl, rfl⟩

theorem exists_looksUp_error (hk : kind ≠ .script) (f : Fault) :
    ∃ first, LooksUp p selector kind first (.error f) := by
  cases kind with
  | css =>
    have hfinds : Finds p selector (waited (.page p) .document (some (.error f))) (.error f) :=
      .noDocument rfl
    exact ⟨_, .css hfinds⟩
  | xpath => exact ⟨waited (.page p) (.findXpath selector) (some (.error f)), .xpath⟩
  | script => exact absurd rfl hk

/-- The calls of a wait that finds something make the browser polls of that kind. -/
theorem polls_of_realizes (hk : kind ≠ .script) {cfg : BrowserConfig} {calls : Engine.Log}
    (h : Prog.Realizes (backend cfg) calls log)
    (hcalls : ∀ x ∈ calls, Locator.Waits (.page p) kind selector (Locator.emptied · = none) x) :
    Polls p selector kind log := by
  induction h with
  | nil => exact .nil
  | @cons x calls first rest hx _ ih =>
    obtain ⟨hwaits, hcalls⟩ := List.forall_mem_cons.mp hcalls
    have hrest := ih hcalls
    cases hwaits with
    | now t =>
      obtain rfl := (Prog.exec_call_iff _ _).mp hx
      exact .now t hrest
    | sleep d =>
      obtain rfl := (Prog.exec_call_iff _ _).mp hx
      exact .sleep d hrest
    | query hanswer =>
      obtain ⟨first, o, more, all, rfl, hfirst, hall, rfl⟩ := (exec_queryPage_iff hk).mp hx
      cases ho : foundOrNone o with
      | nil =>
        rw [ho] at hall
        obtain ⟨-, rfl⟩ := exec_handles_nil_iff.mp hall
        cases hanswer
      | cons node nodes =>
        obtain rfl : o = .ok (node :: nodes) := by
          cases o with
          | error => cases ho
          | ok => exact congrArg _ ho
        exact .found hfirst (List.cons_ne_nil _ _) hall hrest

end Lookups
end Chromium

namespace Actions

open Engine DevTools
open Chromium (LooksUp Polls foundOrNone backend remote)
open Prog (Exec)

section Steps

variable {extractor : Option PdfCommand} {c : Context} {p : WaitForDisappearanceParams}

theorem execute_waitForDisappearance (ha : c.step.action = .waitForDisappearance)
    (hp : c.step.params WaitForDisappearanceParams.read = .ok p) :
    (Registry.standard extractor).execute c =
      (withRetryNamed ("waiting for " ++ p.by_.describe p.locator ++ " to disappear")
        (c.config.disappearanceRetry.withRetries
          (p.options.maxRetries.getD c.config.disappearanceRetry.retries))
        (fun _ => Locator.waitUntilDetached c.page p.by_ p.locator
          ((p.options.timeout.map Duration.ofSeconds).getD c.config.disappearanceTimeout)) >>=
        fun _ => pure none) := by
  have haction : (Registry.standard extractor).execute c = waitForDisappearance c :=
    Executor.execute_of_action extractor ha
  rw [haction, waitForDisappearance, Context.params, hp]
  rfl

/-- A repeated wait ends with the first query that finds nothing, or fails and never had one. -/
theorem waits_of_ends_repeated {operation : String} {policy : RetryPolicy} {page : Page}
    {kind : SelectorKind} {selector : String} {timeout : Duration} {log : Engine.Log}
    {r : Except FlowError (Option Pending)}
    (h : Ends (withRetryNamed operation policy
      (fun _ => Locator.waitUntilDetached page kind selector timeout) >>= fun _ => pure none)
      log r) :
    (r = .ok none ∧ ∃ before,
      (∀ x ∈ before, Locator.Waits (.page page) kind selector (Locator.emptied · = none) x) ∧
        log = before ++ [⟨.query (.page page) kind selector, .ok []⟩]) ∨
    (r = .error (.retryExhausted operation (min (policy.retries + 1) (2 ^ 32 - 1))
        (Locator.lingering kind selector timeout)) ∧
      ∀ x ∈ log, Locator.Waits (.page page) kind selector (Locator.emptied · = none) x) := by
  obtain ⟨tries, n, hmade, hstop, rfl, hr⟩ := ends_repeated_iff.mp h
  have hbefore := Locator.waits_earlier policy (fun j hj => hmade j (Nat.le_of_lt hj))
    hstop.failed_before
  have hlast := Locator.watches_of_ends (hmade n (Nat.le_refl n))
  rw [spelled_eq_earlier]
  generalize (tries n).result = o at hr hlast
  generalize (tries n).calls = calls at hlast
  cases hlast with
  | gone hwaits =>
    cases hr with
    | gone => exact Or.inl ⟨rfl, _, List.forall_mem_append.mpr ⟨hbefore, hwaits⟩,
        (List.append_assoc _ _ _).symm⟩
  | still hwaits =>
    cases hr with
    | exhausted => exact Or.inr ⟨rfl, List.forall_mem_append.mpr ⟨hbefore, hwaits⟩⟩

theorem ends_repeated_first (operation : String) (policy : RetryPolicy) (page : Page)
    (kind : SelectorKind) (selector : String) (timeout : Duration) (t : Instant) :
    Ends (withRetryNamed operation policy
      (fun _ => Locator.waitUntilDetached page kind selector timeout) >>= fun _ => pure none)
      [⟨.now, t⟩, ⟨.query (.page page) kind selector, .ok []⟩]
      (.ok none : Except FlowError (Option Pending)) := by
  refine ends_repeated_iff.mpr
    ⟨fun _ => ⟨[⟨.now, t⟩, ⟨.query (.page page) kind selector, .ok []⟩], .ok ()⟩, 0,
      fun _ _ => Locator.ends_waitUntilDetached_first page kind selector timeout t, ?_, rfl, .gone⟩
  exact ⟨Or.inr rfl, fun j _ => Nat.zero_le j⟩

end Steps

/-- Steps that wait for a disappearance by CSS or XPath, with any answers of the browser. As long as
every lookup finds something, the step goes on, until it has no attempts left. It succeeds at the
first lookup that finds nothing or that fails, and whichever of the two happens there, the step
succeeds in the same way. So it does for every fault, at once if the first lookup fails. -/
theorem failed_lookup_ends_wait (extractor : Option PdfCommand) (cfg : BrowserConfig) {c : Context}
    {p : WaitForDisappearanceParams} (ha : c.step.action = .waitForDisappearance)
    (hp : c.step.params WaitForDisappearanceParams.read = .ok p) (hk : p.by_ ≠ .script) :
    let step := remote cfg ((Registry.standard extractor).execute c).run
    let policy := c.config.disappearanceRetry.withRetries
      (p.options.maxRetries.getD c.config.disappearanceRetry.retries)
    let timeout := (p.options.timeout.map Duration.ofSeconds).getD c.config.disappearanceTimeout
    let operation := "waiting for " ++ p.by_.describe p.locator ++ " to disappear"
    let looksUp := LooksUp c.page p.locator p.by_
    let polls := Polls c.page p.locator p.by_
    (∀ log r, Exec step log r →
      (r = .ok none ∧ ∃ before last o, log = before ++ last ∧ polls before ∧ looksUp last o ∧
        (o = .ok [] ∨ ∃ f, o = .error f) ∧
        ∀ other o', looksUp other o' → (o' = .ok [] ∨ ∃ f, o' = .error f) →
          Exec step (before ++ other) (.ok none)) ∨
      (r = .error (.retryExhausted operation (min (policy.retries + 1) (2 ^ 32 - 1))
        (Locator.lingering p.by_ p.locator timeout)) ∧ polls log)) ∧
    (∀ f, ∃ first, looksUp first (.error f)) ∧
    ∀ t first f, looksUp first (.error f) → Exec step (⟨.now, t⟩ :: first) (.ok none) := by
  intro step policy timeout operation looksUp polls
  have hstep : (Registry.standard extractor).execute c = _ := execute_waitForDisappearance ha hp
  -- In place of a query that finds nothing, the browser may make any lookup that tells of nothing.
  have hends {before : Engine.Log} {first other : Chromium.Log} {o : Except Fault (List String)}
      (h : Ends ((Registry.standard extractor).execute c)
        (before ++ [⟨.query (.page c.page) p.by_ p.locator, .ok []⟩]) (.ok none))
      (hfirst : Prog.Realizes (backend cfg) before first) (hother : looksUp other o)
      (ho : foundOrNone o = []) : Exec step (first ++ other) (.ok none) := by
    have hquery := (Chromium.exec_queryPage_empty_iff hk).mpr ⟨o, hother, ho⟩
    refine (Prog.exec_expand_iff _ _).mpr ⟨_, h, Prog.realizes_append_iff.mpr ?_⟩
    exact ⟨first, other, rfl, hfirst, Prog.realizes_singleton_iff.mpr hquery⟩
  have htells {o : Except Fault (List String)} :
      foundOrNone o = [] ↔ o = .ok [] ∨ ∃ f, o = .error f := by
    cases o <;> simp [foundOrNone]
  refine ⟨fun log r h => ?_, Chromium.exists_looksUp_error hk, fun t first f hfirst => ?_⟩
  · obtain ⟨calls, hcalls, hreal⟩ := (Prog.exec_expand_iff _ _).mp h
    have hcourse := hcalls
    rw [hstep] at hcourse
    rcases waits_of_ends_repeated hcourse with ⟨rfl, before, hbefore, rfl⟩ | ⟨rfl, hwaits⟩
    · obtain ⟨first, last, rfl, hfirst, hlast⟩ := Prog.realizes_append_iff.mp hreal
      obtain ⟨o, hlooks, ho⟩ :=
        (Chromium.exec_queryPage_empty_iff hk).mp (Prog.realizes_singleton_iff.mp hlast)
      exact Or.inl ⟨rfl, first, last, o, rfl, Chromium.polls_of_realizes hk hfirst hbefore, hlooks,
        htells.mp ho, fun other o' hother ho' => hends hcalls hfirst hother (htells.mpr ho')⟩
    · exact Or.inr ⟨rfl, Chromium.polls_of_realizes hk hreal hwaits⟩
  · have hnow : Prog.Realizes (backend cfg) [⟨.now, t⟩] [⟨.now, t⟩] :=
      Prog.realizes_singleton_iff.mpr ((Prog.exec_call_iff _ _).mpr rfl)
    have hquery := ends_repeated_first operation policy c.page p.by_ p.locator timeout t
    rw [← hstep] at hquery
    exact hends hquery hnow hfirst rfl

/-- The step ends with its first lookup, although nobody has answered it in 30 s. -/
theorem failed_lookup_ends_wait_unanswered :
    untilGone.step.action = .waitForDisappearance ∧
      (∃ p, untilGone.step.params WaitForDisappearanceParams.read = .ok p ∧ p.by_ ≠ .script) ∧
      Exec (remote .default ((Registry.standard none).execute untilGone).run)
        [⟨.now, (0 : Nat)⟩, ⟨.send (.page ⟨0⟩) .document, none⟩,
          ⟨.sleep (.ofNanos Chromium.patience), ()⟩] (.ok none) := by
  have hp : untilGone.step.params WaitForDisappearanceParams.read =
      .ok ⟨.css, ".spinner", none, some 1⟩ := rfl
  have hfails : LooksUp ⟨0⟩ ".spinner" .css (Chromium.waited (.page ⟨0⟩) .document none)
      (.error .timedOut) := .css (.noDocument rfl)
  have hcourse := failed_lookup_ends_wait none .default (c := untilGone) rfl hp (by decide)
  exact ⟨rfl, ⟨_, hp, by decide⟩, hcourse.2.2 _ _ _ hfails⟩

def refusedLookup : Chromium.Log :=
  [⟨.send (.page ⟨0⟩) .document, some (.ok ())⟩,
    ⟨.send (.page ⟨0⟩) (.find none ".spinner"), some (.error (.refused (-32000) "no"))⟩]

/-- A step waits for the spinner to disappear, and succeeds though the only lookup was refused. -/
theorem refused_lookup_counts_as_gone :
    LooksUp untilGone.page ".spinner" .css refusedLookup (.error (.refused (-32000) "no")) ∧
      Exec (remote .default ((Registry.standard none).execute untilGone).run)
        (⟨.now, (0 : Nat)⟩ :: refusedLookup) (.ok none) := by
  have hfinds := @Chromium.Finds.searched ⟨0⟩ ".spinner" (some (.error (.refused (-32000) "no")))
  refine ⟨.css hfinds, ?_⟩
  repeat (first | exact .done _ | refine .ask _ ?_)

end Actions
end PageFlow
