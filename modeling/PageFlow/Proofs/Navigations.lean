import PageFlow.Proofs.JoinedWaits
import PageFlow.Proofs.Repetition
import PageFlow.Proofs.StepCalls

/-! Steps that navigate. The attempts alternate with reloads, of which the answers count for
nothing; the first navigation that succeeds is the last. Only then a step may wait for the full
load: it makes nothing of the milestones either, and fails only if no poll finds a body. A browser
is asked for all milestones at once, and for a body when the last of the waits is over. -/
namespace PageFlow
namespace Engine

def Op.isPause : Op → Bool
  | .sleep _ => true
  | _ => false

/-- The same exchange, but for an answer to a reload or to waits for milestones. -/
inductive Exchange.Alike : Exchange → Exchange → Prop
  | same (x) : Alike x x
  | reload (page a b) : Alike ⟨.reload page, a⟩ ⟨.reload page, b⟩
  | loads (page s₁ s₂ s₃ timeout a b) :
      Alike ⟨.loads page s₁ s₂ s₃ timeout, a⟩ ⟨.loads page s₁ s₂ s₃ timeout, b⟩

/-- Other answers to reloads and to the waits for milestones would not have mattered. -/
def Deaf (a : Attempt τ) : Prop :=
  ∀ log log' r, Ends a log r → List.Forall₂ Exchange.Alike log' log → Ends a log' r

section Deaf

variable {a : Attempt τ} {f : τ → Attempt υ} {op : Op}

theorem Exchange.Alike.op_eq {x y : Exchange} (h : x.Alike y) : x.op = y.op := by
  cases h <;> rfl

theorem deaf_ofAnswer (x : Except FlowError τ) : Deaf (ofAnswer x) := by
  intro log log' r h hl
  obtain ⟨rfl, rfl⟩ := (ends_ofAnswer_iff x r).mp h
  obtain rfl := List.forall₂_nil_right_iff.mp hl
  exact h

theorem deaf_bind (ha : Deaf a) (hf : ∀ v, Deaf (f v)) : Deaf (a >>= f) := by
  intro log log' r h hl
  rcases (ends_bind_iff a f r).mp h with ⟨e, rfl, he⟩ | ⟨first, v, second, rfl, hv, hr⟩
  · exact (ends_bind_iff a f _).mpr (Or.inl ⟨e, rfl, ha _ _ _ he hl⟩)
  · -- Logs that are alike are of equal length: both split where the first part ends.
    have hfirst := ha _ _ _ hv (List.forall₂_take_append log' first second hl)
    have hsecond := hf v _ _ _ hr (List.forall₂_drop_append log' first second hl)
    have hboth := hfirst.bind hsecond
    rwa [List.take_append_drop] at hboth

theorem inherited_deaf : Inherited Deaf := ⟨fun v => deaf_ofAnswer (.ok v), deaf_bind⟩

theorem deaf_outcome (ha : Deaf a) : Deaf (outcome a) := by
  intro log log' r h hl
  obtain ⟨o, rfl, ho⟩ := (ends_outcome_iff a r).mp h
  exact (ends_outcome_iff a _).mpr ⟨o, rfl, ha _ _ _ ho hl⟩

theorem deaf_call {answer : Reply op → Except FlowError τ}
    (ha : a.run = .ask op fun v => .done (answer v))
    (hop : ∀ v x, Exchange.Alike x ⟨op, v⟩ → x = ⟨op, v⟩) : Deaf a := by
  intro log log' r h hl
  obtain ⟨v, rfl, rfl⟩ := (ends_answer_iff ha r).mp h
  obtain ⟨x, rest, hx, hrest, rfl⟩ := List.forall₂_cons_right_iff.mp hl
  obtain rfl := List.forall₂_nil_right_iff.mp hrest
  rw [hop v x hx]
  exact h

theorem deaf_ignored (op : Op) {b : Attempt υ} (hb : Deaf b) :
    Deaf (ExceptT.lift (ask op) >>= fun _ => b) := by
  intro log log' r h hl
  obtain ⟨v, rest, rfl, hr⟩ := (ends_call_bind_iff op _ _).mp h
  obtain ⟨⟨op', v'⟩, rest', hx, hrest, rfl⟩ := List.forall₂_cons_right_iff.mp hl
  obtain rfl : op' = op := hx.op_eq
  exact (ends_call_bind_iff _ _ _).mpr ⟨v', rest', rfl, hb _ _ _ hr hrest⟩

end Deaf
end Engine

open Engine

namespace Locator

section Attached

variable {root : Root} {kind : SelectorKind} {selector : String} {timeout : Duration}
  {multiple strict : Bool} {log : Log}

theorem deaf_resolve :
    Deaf (resolve root kind selector ⟨timeout, multiple, .attached, strict⟩) := by
  have hpoll : Deaf (poll root kind selector ⟨timeout, multiple, .attached, strict⟩) :=
    deaf_bind (deaf_call rfl (by rintro v x ⟨⟩; rfl)) fun _ => deaf_ofAnswer (.ok _)
  have hfound : Deaf (found root kind selector ⟨timeout, multiple, .attached, strict⟩) := by
    refine deaf_bind (deaf_outcome hpoll) fun r => ?_
    rcases r with e | (_ | ⟨e, rest⟩) <;> exact deaf_ofAnswer (.ok _)
  refine deaf_bind (inherited_waitFor inherited_deaf (deaf_call rfl (by rintro v x ⟨⟩; rfl))
    (fun _ => deaf_call rfl (by rintro v x ⟨⟩; rfl)) hfound _) fun v => ?_
  cases v with
  | some all => exact deaf_ofAnswer (.ok _)
  | none => cases strict <;> exact deaf_ofAnswer _

def firstOf : Answer (List Element) → Option (List Element)
  | .ok (e :: _) => some [e]
  | _ => none

/-- How a strict lookup of one element goes: up to the first query that finds something, or without
any that does. -/
inductive Seeks (root : Root) (kind : SelectorKind) (selector : String) (timeout : Duration) :
    Log → Except FlowError Resolved → Prop
  | found {before e rest} : (∀ x ∈ before, Waits root kind selector (firstOf · = none) x) →
      Seeks root kind selector timeout
        (before ++ [⟨.query root kind selector, .ok (e :: rest)⟩]) (.ok (.one e))
  | missing {log answer} : (∀ x ∈ log, Waits root kind selector (firstOf · = none) x) →
      (⟨.query root kind selector, answer⟩ : Exchange) ∈ log →
      Seeks root kind selector timeout log
        (.error (.locatorTimeout (kind.describe selector) timeout.toMillis))

theorem peeks_found :
    Peeks (found root kind selector ⟨timeout, false, .attached, strict⟩) root kind selector
      firstOf := by
  intro log r h
  obtain ⟨first, polled, second, rfl, hpoll, hfound⟩ := (ends_lift_bind_iff _ _ _).mp h
  obtain ⟨answer, rest, rfl, hready⟩ := (ends_answer_bind_iff rfl _ _).mp hpoll
  rcases answer with err | (_ | ⟨e, all⟩)
  · obtain ⟨rfl, rfl⟩ := (ends_throw_iff err _).mp hready
    obtain ⟨rfl, rfl⟩ := (ends_pure_iff none _).mp hfound
    exact ⟨.error err, rfl, rfl⟩
  · obtain ⟨rfl, rfl⟩ := (ends_pure_iff [] _).mp hready
    obtain ⟨rfl, rfl⟩ := (ends_pure_iff none _).mp hfound
    exact ⟨.ok [], rfl, rfl⟩
  · obtain ⟨rfl, rfl⟩ := (ends_pure_iff [e] _).mp hready
    obtain ⟨rfl, rfl⟩ := (ends_pure_iff (some [e]) _).mp hfound
    exact ⟨.ok (e :: all), rfl, rfl⟩

theorem seeks_of_ends {r : Except FlowError Resolved}
    (h : Ends (resolve root kind selector ⟨timeout, false, .attached, true⟩) log r) :
    Seeks root kind selector timeout log r := by
  rcases ends_resolve h with ⟨e, rest, hw, rfl⟩ | ⟨hw, rfl⟩
  · obtain ⟨o, ho, hdecided⟩ := peeks_found.decided hw
    obtain rfl := Except.ok.inj ho
    cases hdecided with
    | yields hbefore hjudge =>
      unfold firstOf at hjudge
      split at hjudge
      · cases hjudge
        exact .found hbefore
      · cases hjudge
  · obtain ⟨o, ho, hdecided⟩ := peeks_found.decided hw
    obtain rfl := Except.ok.inj ho
    cases hdecided with
    | nothing hlog hmem => exact .missing hlog hmem

end Attached
end Locator

namespace Actions

open Prog (Exec)

/-- One attempt to navigate, and the answers to its reload and its navigation: every attempt but the
first reloads the page before. -/
def visited (page : Page) (p : NavigateParams) (j : Nat) (reload goto : Answer Unit) : Try Unit where
  calls := (if j = 0 then [] else [⟨.reload page, reload⟩]) ++
    [⟨.goto page p.url p.waitUntil (.ofSeconds p.timeout), goto⟩]
  result := goto

def navigation (page : Page) (p : NavigateParams) (policy : RetryPolicy)
    (reloads gotos : Nat → Answer Unit) (k : Nat) : Log :=
  spelled policy (fun j => visited page p j (reloads j) (gotos j)) 0 k

def bodyLookup (page : Page) (timeout : Duration) : Attempt Locator.Resolved :=
  Locator.resolve (.page page) .css "body" ⟨timeout, false, .attached, true⟩

def arrival (page : Page) (p : NavigateParams) : Attempt (Option Pending) :=
  if p.waitForFullLoad then awaitFullLoad page (.ofSeconds p.timeout) >>= fun _ => pure none
  else pure none

/-- What follows the last attempt, and what the step comes to. -/
inductive Arrives (page : Page) (p : NavigateParams) (policy : RetryPolicy) :
    Answer Unit → Log → Except FlowError (Option Pending) → Prop
  | gaveUp {e} : Arrives page p policy (.error e) []
      (.error (.retryExhausted ("navigate to " ++ p.url) (min (policy.retries + 1) (2 ^ 32 - 1)) e))
  | opened : p.waitForFullLoad = false → Arrives page p policy (.ok ()) [] (.ok none)
  | loaded {milestones lookup body} : p.waitForFullLoad = true →
      Ends (bodyLookup page (.ofSeconds p.timeout)) lookup (.ok body) →
      Arrives page p policy (.ok ())
        (⟨.loads page .domContentLoaded .networkIdle .load (.ofSeconds p.timeout), milestones⟩ ::
          lookup) (.ok none)
  | bodiless {milestones lookup e} : p.waitForFullLoad = true →
      Ends (bodyLookup page (.ofSeconds p.timeout)) lookup (.error e) →
      Arrives page p policy (.ok ())
        (⟨.loads page .domContentLoaded .networkIdle .load (.ofSeconds p.timeout), milestones⟩ ::
          lookup) (.error e)

/-- The same on a browser. The waits for the milestones are woven together, each as it goes alone,
and the calls of the lookup come after all of theirs. -/
inductive Lands (config : BrowserConfig) (page : Page) (p : NavigateParams) (policy : RetryPolicy) :
    Answer Unit → Chromium.Log → Except FlowError (Option Pending) → Prop
  | gaveUp {e} : Lands config page p policy (.error e) []
      (.error (.retryExhausted ("navigate to " ++ p.url) (min (policy.retries + 1) (2 ^ 32 - 1)) e))
  | opened : p.waitForFullLoad = false → Lands config page p policy (.ok ()) [] (.ok none)
  | joined {waits : Fin 3 → Chromium.Log} {woven lookup : Chromium.Log} {domReady idle complete o} :
      p.waitForFullLoad = true → Chromium.Weaves woven waits →
      Exec (Chromium.load page .domContentLoaded (.ofSeconds p.timeout)) (waits 0) domReady →
      Exec (Chromium.load page .networkIdle (.ofSeconds p.timeout)) (waits 1) idle →
      Exec (Chromium.load page .load (.ofSeconds p.timeout)) (waits 2) complete →
      Exec (Chromium.remote config (bodyLookup page (.ofSeconds p.timeout)).run) lookup o →
      Lands config page p policy (.ok ()) (woven ++ lookup) (o.map fun _ => none)

section Navigations

variable {page : Page} {p : NavigateParams} {policy : RetryPolicy} {log : Log}

theorem made_navigateOnce_iff {j : Nat} {t : Try Unit} :
    t.Made (navigateOnce page p.url p.waitUntil (.ofSeconds p.timeout)) j ↔
      ∃ answers : Answer Unit × Answer Unit, t = visited page p j answers.1 answers.2 := by
  obtain ⟨calls, result⟩ := t
  have hgoto (log : Log) (r : Except FlowError Unit) :
      Ends (goto page p.url p.waitUntil (.ofSeconds p.timeout)) log r ↔
        ∃ answer, log = [⟨.goto page p.url p.waitUntil (.ofSeconds p.timeout), answer⟩] ∧
          r = answer := ends_answer_iff rfl r
  cases j with
  | zero =>
    refine Iff.trans (hgoto calls result) ?_
    constructor
    · rintro ⟨_, rfl, rfl⟩
      exact ⟨(.ok (), _), rfl⟩
    · rintro ⟨answers, h⟩
      obtain ⟨rfl, rfl⟩ := Try.mk.inj h
      exact ⟨answers.2, rfl, rfl⟩
  | succ j =>
    refine Iff.trans (ends_call_bind_iff (.reload page) (fun _ => goto page p.url p.waitUntil
      (.ofSeconds p.timeout)) result) ?_
    constructor
    · rintro ⟨reload, rest, rfl, hrest⟩
      obtain ⟨_, rfl, rfl⟩ := (hgoto _ _).mp hrest
      exact ⟨(reload, _), rfl⟩
    · rintro ⟨answers, h⟩
      obtain ⟨rfl, rfl⟩ := Try.mk.inj h
      exact ⟨answers.1, _, rfl, (hgoto _ _).mpr ⟨answers.2, rfl, rfl⟩⟩

theorem ends_navigation_iff {r : Except FlowError Unit} :
    Ends (withRetryNamed ("navigate to " ++ p.url) policy
      (navigateOnce page p.url p.waitUntil (.ofSeconds p.timeout))) log r ↔
      ∃ (reloads gotos : Nat → Answer Unit) (k : Nat),
        IsLeast {j | j = policy.retries ∨ gotos j = .ok ()} k ∧
          log = navigation page p policy reloads gotos k ∧
            r = (gotos k).mapError (exhausted ("navigate to " ++ p.url) policy) := by
  have hstops (reloads gotos : Nat → Answer Unit) (k : Nat) :
      Stops (fun j => visited page p j (reloads j) (gotos j)) 0 policy.retries k ↔
        IsLeast {j | j = policy.retries ∨ gotos j = .ok ()} k := by
    simp only [stops_unit_iff, visited]
  rw [ends_withRetryNamed_iff]
  simp only [ends_withRetry_iff_of_answers fun _ _ => made_navigateOnce_iff]
  constructor
  · rintro ⟨_, ⟨answers, k, hk, rfl, rfl⟩, rfl⟩
    exact ⟨fun j => (answers j).1, fun j => (answers j).2, k, (hstops _ _ _).mp hk, rfl, rfl⟩
  · rintro ⟨reloads, gotos, k, hk, rfl, rfl⟩
    exact ⟨_, ⟨fun j => (reloads j, gotos j), k, (hstops _ _ _).mpr hk, rfl, rfl⟩, rfl⟩

theorem arrives_iff {r : Except FlowError (Option Pending)} :
    Ends (arrival page p) log r ↔ Arrives page p policy (.ok ()) log r := by
  cases hw : p.waitForFullLoad with
  | false =>
    have hdone : arrival page p = pure none := by simp only [arrival, hw]; rfl
    rw [hdone, ends_pure_iff]
    constructor
    · rintro ⟨rfl, rfl⟩
      exact .opened hw
    · intro h
      cases h with
      | opened => exact ⟨rfl, rfl⟩
      | loaded hw' | bodiless hw' => cases hw.symm.trans hw'
  | true =>
    have hload : arrival page p = (ExceptT.lift (ask (.loads page .domContentLoaded
        .networkIdle .load (.ofSeconds p.timeout))) >>=
          fun _ => bodyLookup page (.ofSeconds p.timeout) >>= fun _ => pure none) := by
      simp only [arrival, hw, if_true, awaitFullLoad, bind_assoc, pure_bind]
      rfl
    rw [hload, ends_call_bind_iff]
    simp only [ends_map_iff]
    constructor
    · rintro ⟨milestones, lookup, rfl, o, ho, rfl⟩
      cases o with
      | ok body => exact .loaded hw ho
      | error e => exact .bodiless hw ho
    · intro h
      cases h with
      | opened hw' => cases hw.symm.trans hw'
      | loaded _ ho => exact ⟨_, _, rfl, _, ho, rfl⟩
      | bodiless _ ho => exact ⟨_, _, rfl, _, ho, rfl⟩

theorem Arrives.lands {config : BrowserConfig} {answer : Answer Unit} {rest : Chromium.Log}
    {r : Except FlowError (Option Pending)} (h : Arrives page p policy answer log r)
    (hr : Prog.Realizes (Chromium.backend config) log rest) :
    Lands config page p policy answer rest r := by
  have hjoined {milestones : Answer Unit × Answer Unit × Answer Unit} {lookup : Log}
      {rest : Chromium.Log} {o : Except FlowError Locator.Resolved} (hw : p.waitForFullLoad = true)
      (ho : Ends (bodyLookup page (.ofSeconds p.timeout)) lookup o)
      (hr : Prog.Realizes (Chromium.backend config) (⟨.loads page .domContentLoaded .networkIdle
        .load (.ofSeconds p.timeout), milestones⟩ :: lookup) rest) :
      Lands config page p policy (.ok ()) rest (o.map fun _ => none) := by
    obtain ⟨woven, looked, rfl, hloads, hlookup⟩ := Prog.realizes_cons_iff.mp hr
    obtain ⟨domReady, idle, complete⟩ := milestones
    obtain ⟨waits, hweaves, hwaits⟩ := Chromium.exec_loads
      (s := ![.domContentLoaded, .networkIdle, .load]) (r := ![domReady, idle, complete]) hloads
    exact .joined hw hweaves (hwaits 0) (hwaits 1) (hwaits 2)
      ((Prog.exec_expand_iff _ _).mpr ⟨lookup, ho, hlookup⟩)
  cases h with
  | gaveUp =>
    obtain rfl := Prog.realizes_nil_iff.mp hr
    exact .gaveUp
  | opened hw =>
    obtain rfl := Prog.realizes_nil_iff.mp hr
    exact .opened hw
  | loaded hw ho => exact hjoined hw ho hr
  | bodiless hw ho => exact hjoined hw ho hr

/-- The step is its attempts and what follows them. -/
theorem ends_navigate_iff {r : Except FlowError (Option Pending)} :
    Ends (withRetryNamed ("navigate to " ++ p.url) policy
      (navigateOnce page p.url p.waitUntil (.ofSeconds p.timeout)) >>= fun _ => arrival page p)
        log r ↔
      ∃ (reloads gotos : Nat → Answer Unit) (k : Nat) (after : Log),
        IsLeast {j | j = policy.retries ∨ gotos j = .ok ()} k ∧
          log = navigation page p policy reloads gotos k ++ after ∧
            Arrives page p policy (gotos k) after r := by
  rw [ends_bind_iff]
  constructor
  · rintro (⟨e, rfl, he⟩ | ⟨first, v, second, rfl, hv, hr⟩)
    · obtain ⟨reloads, gotos, k, hk, rfl, hresult⟩ := ends_navigation_iff.mp he
      refine ⟨reloads, gotos, k, [], hk, (List.append_nil _).symm, ?_⟩
      cases hgoto : gotos k with
      | ok v => rw [hgoto] at hresult; cases hresult
      | error source =>
        rw [hgoto] at hresult
        obtain rfl := Except.error.inj hresult
        exact .gaveUp
    · obtain ⟨reloads, gotos, k, hk, rfl, hresult⟩ := ends_navigation_iff.mp hv
      refine ⟨reloads, gotos, k, second, hk, rfl, ?_⟩
      cases hgoto : gotos k with
      | ok v => exact arrives_iff.mp hr
      | error source => rw [hgoto] at hresult; cases hresult
  · rintro ⟨reloads, gotos, k, after, hk, rfl, hr⟩
    cases hgoto : gotos k with
    | error source =>
      rw [hgoto] at hr
      cases hr with
      | gaveUp =>
        refine Or.inl ⟨_, rfl, ends_navigation_iff.mpr ⟨reloads, gotos, k, hk,
          List.append_nil _, ?_⟩⟩
        rw [hgoto]
        rfl
    | ok v =>
      rw [hgoto] at hr
      refine Or.inr ⟨_, (), after, rfl, ends_navigation_iff.mpr ⟨reloads, gotos, k, hk, rfl, ?_⟩,
        arrives_iff.mpr hr⟩
      rw [hgoto]
      rfl

theorem navigation_calls (page : Page) (p : NavigateParams) (policy : RetryPolicy)
    (reloads gotos : Nat → Answer Unit) (k : Nat) :
    ((navigation page p policy reloads gotos k).map (·.op)).filter (!·.isPause) =
      .goto page p.url p.waitUntil (.ofSeconds p.timeout) :: (List.replicate k
        [.reload page, .goto page p.url p.waitUntil (.ofSeconds p.timeout)]).flatten := by
  induction k with
  | zero => rfl
  | succ k ih =>
    rw [navigation] at ih ⊢
    rw [spelled_snoc, List.map_append, List.filter_append, ih, List.replicate_succ',
      List.flatten_append, List.cons_append]
    rfl

/-- Only the attempts fail for their number, and then all of them have failed. -/
theorem ends_navigate_exhausted_iff {operation : String} {attempts : Nat} {source : FlowError} :
    Ends (withRetryNamed ("navigate to " ++ p.url) policy
      (navigateOnce page p.url p.waitUntil (.ofSeconds p.timeout)) >>= fun _ => arrival page p)
        log (.error (.retryExhausted operation attempts source)) ↔
      operation = "navigate to " ++ p.url ∧ attempts = min (policy.retries + 1) (2 ^ 32 - 1) ∧
        ∃ reloads gotos : Nat → Answer Unit, (∀ j ≤ policy.retries, gotos j ≠ .ok ()) ∧
          gotos policy.retries = .error source ∧
            log = navigation page p policy reloads gotos policy.retries := by
  rw [ends_navigate_iff]
  constructor
  · rintro ⟨reloads, gotos, k, after, ⟨hmem, hleast⟩, rfl, hr⟩
    generalize hgoto : gotos k = answer at hr
    cases hr with
    | gaveUp =>
      obtain rfl : k = policy.retries := by
        rcases hmem with hk | hok
        · exact hk
        · cases hgoto.symm.trans hok
      refine ⟨rfl, rfl, reloads, gotos, fun j hj hok => ?_, hgoto, List.append_nil _⟩
      obtain rfl := Nat.le_antisymm hj (hleast (Or.inr hok))
      cases hgoto.symm.trans hok
    | bodiless _ ho =>
      -- A lookup fails for want of a match only, never for a number of attempts.
      obtain ⟨-, he⟩ := Locator.resolve_error ho
      cases he
  · rintro ⟨rfl, rfl, reloads, gotos, hfail, hlast, rfl⟩
    refine ⟨reloads, gotos, policy.retries, [], ⟨Or.inl rfl, ?_⟩, (List.append_nil _).symm, ?_⟩
    · rintro j (hj | hok)
      · exact Nat.le_of_eq hj.symm
      · by_contra hlt
        exact hfail j (Nat.le_of_not_le hlt) hok
    · rw [hlast]
      exact .gaveUp

theorem deaf_navigate (c : Context) : Deaf (navigate c) := by
  have hheard (page : Page) (url : String) (waitUntil : LoadState) (timeout : Duration) :
      Deaf (goto page url waitUntil timeout) := deaf_call rfl (by rintro v x ⟨⟩; rfl)
  refine deaf_bind (deaf_ofAnswer _) fun p => ?_
  refine deaf_bind (inherited_withRetryNamed inherited_deaf deaf_outcome
    (fun _ => deaf_call rfl (by rintro v x ⟨⟩; rfl)) (fun e => deaf_ofAnswer (.error e)) _ _
    fun j => ?_) fun _ => ?_
  · unfold navigateOnce
    split
    · exact deaf_ignored (.reload c.page) (hheard _ _ _ _)
    · exact hheard _ _ _ _
  · split
    · refine deaf_bind (deaf_ignored (.loads _ _ _ _ _) ?_) fun _ => deaf_ofAnswer (.ok none)
      exact deaf_bind Locator.deaf_resolve fun _ => deaf_ofAnswer (.ok ())
    · exact deaf_ofAnswer (.ok none)

/-- A step that navigates, in the standard registry and with any answers. Its attempts end with the
first navigation that succeeds, or with the last that the policy allows; without the waits between
them they are a navigation, and then a reload and a navigation for each repetition. The step gives
up exactly if all navigations fail, with the error of the last one and without another call. Where
it waits for the full load, it asks for the milestones once and then for a body, and fails only
because no query found one in time. On a browser it waits for the three milestones side by side, as
long as for each alone, and looks for the body when all three waits are over. No answer to a reload
or about a milestone makes a difference, and with every driver the step comes to its end. -/
theorem navigation_course (extractor : Option PdfCommand) {c : Context} {p : NavigateParams}
    (ha : c.step.action = .navigate) (hp : c.step.params NavigateParams.read = .ok p) :
    let step := (Registry.standard extractor).execute c
    let policy := c.config.navigationRetry.withRetries
      (p.retries.getD c.config.navigationRetry.retries)
    let timeout := Duration.ofSeconds p.timeout
    let goto : Op := .goto c.page p.url p.waitUntil timeout
    (∀ log r, Ends step log r ↔
      ∃ (reloads gotos : Nat → Answer Unit) (k : Nat) (after : Log),
        IsLeast {j | j = policy.retries ∨ gotos j = .ok ()} k ∧
          log = navigation c.page p policy reloads gotos k ++ after ∧
            Arrives c.page p policy (gotos k) after r) ∧
    (∀ (reloads gotos : Nat → Answer Unit) (k : Nat),
      ((navigation c.page p policy reloads gotos k).map (·.op)).filter (!·.isPause) =
        goto :: (List.replicate k [.reload c.page, goto]).flatten) ∧
    (∀ log operation attempts source,
      Ends step log (.error (.retryExhausted operation attempts source)) ↔
        operation = "navigate to " ++ p.url ∧ attempts = min (policy.retries + 1) (2 ^ 32 - 1) ∧
          ∃ reloads gotos : Nat → Answer Unit, (∀ j ≤ policy.retries, gotos j ≠ .ok ()) ∧
            gotos policy.retries = .error source ∧
              log = navigation c.page p policy reloads gotos policy.retries) ∧
    (∀ lookup o, Ends (bodyLookup c.page timeout) lookup o →
      Locator.Seeks (.page c.page) .css "body" timeout lookup o) ∧
    (∀ config log r, Exec (Chromium.remote config step.run) log r →
      ∃ (reloads gotos : Nat → Answer Unit) (k : Nat) (moves rest : Chromium.Log),
        IsLeast {j | j = policy.retries ∨ gotos j = .ok ()} k ∧ log = moves ++ rest ∧
          Prog.Realizes (Chromium.backend config)
            (navigation c.page p policy reloads gotos k) moves ∧
              Lands config c.page p policy (gotos k) rest r) ∧
    Deaf step ∧
    ∀ (d : Driver) (start : Nat), ∃ time log r,
      Ends step log r ∧ time 0 = start ∧ d.Drives time [] log := by
  intro step policy timeout goto
  have haction : step = navigate c := Executor.execute_of_action extractor ha
  have hstep : step = (withRetryNamed ("navigate to " ++ p.url) policy
      (navigateOnce c.page p.url p.waitUntil timeout) >>= fun _ => arrival c.page p) := by
    rw [haction, navigate, Context.params, hp]
    rfl
  have hends (log : Log) (r : Except FlowError (Option Pending)) : Ends step log r ↔
      ∃ (reloads gotos : Nat → Answer Unit) (k : Nat) (after : Log),
        IsLeast {j | j = policy.retries ∨ gotos j = .ok ()} k ∧
          log = navigation c.page p policy reloads gotos k ++ after ∧
            Arrives c.page p policy (gotos k) after r := by
    rw [hstep]
    exact ends_navigate_iff
  refine ⟨hends, navigation_calls c.page p policy, fun log operation attempts source => ?_,
    fun lookup o ho => Locator.seeks_of_ends ho, fun config log r h => ?_, ?_, fun d start => ?_⟩
  · rw [hstep]
    exact ends_navigate_exhausted_iff
  · obtain ⟨calls, hcalls, hreal⟩ := (Prog.exec_expand_iff _ _).mp h
    obtain ⟨reloads, gotos, k, after, hk, rfl, harrives⟩ := (hends calls r).mp hcalls
    obtain ⟨moves, rest, rfl, hmoves, hrest⟩ := Prog.realizes_append_iff.mp hreal
    exact ⟨reloads, gotos, k, moves, rest, hk, rfl, hmoves, harrives.lands hrest⟩
  · rw [haction]
    exact deaf_navigate c
  · exact d.exists_ends step start

end Navigations

section Samples

def patientVisit : Context where
  session := ⟨0, ⟨0⟩, ⟨0⟩⟩
  step := .ofAction .navigate (.obj [("url", .str "u"), ("retries", .int 1),
    ("waitForFullLoad", .bool true)])
  prev := .empty
  selection := .empty
  config := .default

def visitBody : Element := ⟨⟨0⟩, 1, "body", "css body"⟩

def visitLookup : Log :=
  [⟨.now, (0 : Nat)⟩, ⟨.query (.page ⟨0⟩) .css "body", .ok [visitBody]⟩]

def visitCalls : Log :=
  [⟨.goto ⟨0⟩ "u" .load (.ofSeconds 5.0), .error (.navigation "down")⟩, ⟨.sleep (.ofSecs 2), ()⟩,
    ⟨.reload ⟨0⟩, .error (.navigation "down")⟩, ⟨.goto ⟨0⟩ "u" .load (.ofSeconds 5.0), .ok ()⟩,
    ⟨.loads ⟨0⟩ .domContentLoaded .networkIdle .load (.ofSeconds 5.0),
      (.ok (), .error (.timeout "load"), .ok ())⟩] ++ visitLookup

theorem bodyLookup_visitLookup (timeout : Duration) :
    Ends (bodyLookup ⟨0⟩ timeout) visitLookup (.ok (.one visitBody)) := by
  have hpolls (deadline left : Nat) : Ends (Locator.pollUntil (Locator.found (.page ⟨0⟩) .css "body"
      ⟨timeout, false, .attached, true⟩) deadline left)
      [⟨.query (.page ⟨0⟩) .css "body", .ok [visitBody]⟩] (.ok (some [visitBody])) := by
    cases left <;> exact .ask _ (.done _)
  have hwait : Ends (Locator.waitFor (Locator.found (.page ⟨0⟩) .css "body"
      ⟨timeout, false, .attached, true⟩) timeout) visitLookup (.ok (some [visitBody])) :=
    (ends_call_bind_iff .now _ _).mpr ⟨(0 : Nat), _, rfl, hpolls _ _⟩
  exact hwait.bind_nil (.done _)

end Samples

/-- Neither the failed reload nor the missing milestone keeps the step from its body. -/
theorem navigation_course_visit : patientVisit.step.action = .navigate ∧ ∃ p,
    patientVisit.step.params NavigateParams.read = .ok p ∧
      Ends ((Registry.standard none).execute patientVisit) visitCalls (.ok none) := by
  have hp : patientVisit.step.params NavigateParams.read = .ok ⟨"u", .load, 5.0, some 1, true⟩ :=
    rfl
  have hcourse := navigation_course none (c := patientVisit) rfl hp
  refine ⟨rfl, _, hp, (hcourse.1 _ _).mpr ⟨fun _ => .error (.navigation "down"),
    fun j => if j = 0 then .error (.navigation "down") else .ok (), 1, _, ⟨Or.inl rfl, ?_⟩, rfl,
    .loaded rfl (bodyLookup_visitLookup _)⟩⟩
  rintro j (hj | hok)
  · exact Nat.le_of_eq hj.symm
  · by_contra hlt
    obtain rfl : j = 0 := by omega
    cases hok

end Actions
end PageFlow
