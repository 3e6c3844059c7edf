import Mathlib.Order.Nat
import PageFlow.Proofs.LookupSteps

/-! Repeating what failed. The attempts that a repetition makes are those up to the first success or
to the last that the policy allows, with the wait that the policy sets between two of them. Counted
in a 32-bit word they are the same attempts, and the error that names an operation of which all
failed tells their number. -/
namespace PageFlow
namespace Engine

/-- What one attempt calls, and how it ends. -/
structure Try (τ : Type) where
  calls : Log
  result : Except FlowError τ

/-- Attempt number `k` can go so. -/
def Try.Made (op : Nat → Attempt τ) (k : Nat) (t : Try τ) : Prop := Ends (op k) t.calls t.result

def pause (policy : RetryPolicy) (k : Nat) : Exchange := ⟨.sleep (policy.delayAfter k), ()⟩

/-- The calls of attempt number `k` and the `n` attempts after it. -/
def spelled (policy : RetryPolicy) (tries : Nat → Try τ) (k n : Nat) : Log :=
  (List.range' k n).flatMap (fun j => (tries j).calls ++ [pause policy j]) ++ (tries (k + n)).calls

/-- Of the attempts from number `k` on, with at most `left` after it, the `n`-th after it is the
last: it is the first that succeeds, or no more are left. -/
def Stops (tries : Nat → Try τ) (k left n : Nat) : Prop :=
  IsLeast {j | j = left ∨ (tries (k + j)).result.isOk = true} n

section Attempts

variable {policy : RetryPolicy} {op : Nat → Attempt τ} {tries tries' : Nat → Try τ}
  {left k n : Nat} {log : Log} {r : Except FlowError τ}

theorem spelled_succ : spelled policy tries k (n + 1) =
    (tries k).calls ++ pause policy k :: spelled policy tries (k + 1) n := by
  have hlast : k + (n + 1) = k + 1 + n := by omega
  simp [spelled, List.range'_succ, hlast]

theorem spelled_snoc : spelled policy tries k (n + 1) =
    spelled policy tries k n ++ pause policy (k + n) :: (tries (k + (n + 1))).calls := by
  simp [spelled, List.range'_concat]

theorem spelled_congr (h : ∀ j, k ≤ j → j ≤ k + n → tries' j = tries j) :
    spelled policy tries' k n = spelled policy tries k n := by
  have hbefore : ∀ j ∈ List.range' k n,
      (tries' j).calls ++ [pause policy j] = (tries j).calls ++ [pause policy j] := by
    intro j hj
    obtain ⟨hk, hn⟩ := List.mem_range'_1.mp hj
    rw [h j hk (Nat.le_of_lt hn)]
  rw [spelled, spelled, List.flatMap_congr hbefore,
    h (k + n) (Nat.le_add_right k n) (Nat.le_refl _)]

theorem Stops.congr (hs : Stops tries k left n)
    (h : ∀ j, k ≤ j → j ≤ k + n → tries' j = tries j) : Stops tries' k left n := by
  have hsame (j : Nat) (hj : j ≤ n) : tries' (k + j) = tries (k + j) :=
    h _ (Nat.le_add_right k j) (Nat.add_le_add_left hj k)
  refine ⟨hs.1.imp_right fun hok => ?_, fun j hj => ?_⟩
  · rwa [hsame n (Nat.le_refl n)]
  · by_contra hlt
    refine hlt (hs.2 (hj.imp_right fun hok => ?_))
    rwa [← hsame j (Nat.le_of_not_le hlt)]

theorem stops_zero_iff : Stops tries k 0 n ↔ n = 0 := by
  constructor
  · intro h
    exact Nat.le_zero.mp (h.2 (Or.inl rfl))
  · rintro rfl
    exact ⟨Or.inl rfl, fun _ _ => Nat.zero_le _⟩

theorem stops_at_once_iff :
    Stops tries k (left + 1) 0 ↔ (tries k).result.isOk = true := by
  constructor
  · rintro ⟨h | h, -⟩
    · cases h
    · exact h
  · intro h
    exact ⟨Or.inr h, fun _ _ => Nat.zero_le _⟩

theorem stops_later_iff : Stops tries k (left + 1) (n + 1) ↔
    (tries k).result.isOk = false ∧ Stops tries (k + 1) left n := by
  have hnext (j : Nat) : k + (j + 1) = k + 1 + j := by omega
  constructor
  · rintro ⟨hmem, hleast⟩
    refine ⟨?_, ?_, fun j hj => ?_⟩
    · by_contra hk
      have h0 : n + 1 ≤ 0 := hleast (Or.inr (by simpa using hk))
      omega
    · refine hmem.imp Nat.succ.inj fun h => ?_
      rwa [← hnext n]
    · have hle : n + 1 ≤ j + 1 := hleast (hj.imp (congrArg Nat.succ) fun h => by rwa [hnext j])
      omega
  · rintro ⟨hk, hmem, hleast⟩
    refine ⟨hmem.imp (congrArg Nat.succ) fun h => by rwa [hnext n], fun j hj => ?_⟩
    cases j with
    | zero =>
      rcases hj with h | h
      · cases h
      · rw [Nat.add_zero, hk] at h
        cases h
    | succ j =>
      refine Nat.succ_le_succ (hleast (hj.imp Nat.succ.inj fun h => ?_))
      rwa [← hnext j]

theorem exists_stops (tries : Nat → Try τ) (k left : Nat) : ∃ n, Stops tries k left n := by
  classical
  exact ⟨_, Nat.isLeast_find (p := fun j => j = left ∨ (tries (k + j)).result.isOk = true)
    ⟨left, Or.inl rfl⟩⟩

theorem Stops.failed_before (hs : Stops tries 0 left n) : ∀ j < n, (tries j).result.isOk = false := by
  intro j hj
  by_contra hok
  have hle : n ≤ j := hs.2 (Or.inr (by simpa using hok))
  omega

theorem stops_unit_iff {tries : Nat → Try Unit} : Stops tries 0 left n ↔
    IsLeast {j | j = left ∨ (tries j).result = .ok ()} n := by
  have hok (o : Except FlowError Unit) : o.isOk = true ↔ o = .ok () := by
    cases o <;> simp [Except.isOk, Except.toBool]
  simp only [Stops, Nat.zero_add, hok]

theorem ends_attemptsFrom_succ_iff : Ends (attemptsFrom policy op (left + 1) k) log r ↔
    (r.isOk = true ∧ Ends (op k) log r) ∨ ∃ first e more,
      log = first ++ pause policy k :: more ∧ Ends (op k) first (.error e) ∧
        Ends (attemptsFrom policy op left (k + 1)) more r := by
  refine (ends_lift_bind_iff _ _ _).trans ?_
  constructor
  · rintro ⟨first, o, second, rfl, ho, hr⟩
    cases o with
    | ok v =>
      obtain ⟨rfl, rfl⟩ := (ends_pure_iff _ _).mp hr
      rw [List.append_nil]
      exact Or.inl ⟨rfl, ho⟩
    | error e =>
      obtain ⟨_, more, rfl, hmore⟩ := (ends_call_bind_iff _ _ _).mp hr
      exact Or.inr ⟨first, e, more, rfl, ho, hmore⟩
  · rintro (⟨hr, ho⟩ | ⟨first, e, more, rfl, ho, hmore⟩)
    · cases r with
      | ok v => exact ⟨log, .ok v, [], (List.append_nil log).symm, ho, .done _⟩
      | error e => cases hr
    · exact ⟨first, .error e, _, rfl, ho, (ends_call_bind_iff _ _ _).mpr ⟨(), more, rfl, hmore⟩⟩

/-- The attempts from one on are made in order, up to where they stop. -/
theorem ends_attemptsFrom_iff : Ends (attemptsFrom policy op left k) log r ↔
    ∃ (tries : Nat → Try τ) (n : Nat), (∀ j, k ≤ j → j ≤ k + n → (tries j).Made op j) ∧
      Stops tries k left n ∧ log = spelled policy tries k n ∧ r = (tries (k + n)).result := by
  induction left generalizing k log with
  | zero =>
    constructor
    · intro h
      refine ⟨fun _ => ⟨log, r⟩, 0, fun j hj hk => ?_, stops_zero_iff.mpr rfl, rfl, rfl⟩
      obtain rfl : j = k := by omega
      exact h
    · rintro ⟨tries, n, hmade, hstop, rfl, rfl⟩
      obtain rfl := stops_zero_iff.mp hstop
      exact hmade k (Nat.le_refl k) (Nat.le_refl k)
  | succ left ih =>
    rw [ends_attemptsFrom_succ_iff]
    constructor
    · rintro (⟨hr, h⟩ | ⟨first, e, more, rfl, he, hmore⟩)
      · refine ⟨fun _ => ⟨log, r⟩, 0, fun j hj hk => ?_, stops_at_once_iff.mpr hr, rfl, rfl⟩
        obtain rfl : j = k := by omega
        exact h
      · obtain ⟨tries, n, hmade, hstop, rfl, rfl⟩ := ih.mp hmore
        let failed : Try τ := ⟨first, .error e⟩
        have hfirst : Function.update tries k failed k = failed := Function.update_self ..
        have hlater : ∀ j, k + 1 ≤ j → Function.update tries k failed j = tries j :=
          fun j hj => Function.update_of_ne (by omega) _ _
        have hsame : ∀ j, k + 1 ≤ j → j ≤ k + 1 + n → Function.update tries k failed j = tries j :=
          fun j hj _ => hlater j hj
        refine ⟨Function.update tries k failed, n + 1, fun j hj hk => ?_,
          stops_later_iff.mpr ⟨by rw [hfirst]; rfl, hstop.congr hsame⟩, ?_, ?_⟩
        · by_cases hjk : j = k
          · subst hjk
            rw [hfirst]
            exact he
          · rw [hlater j (by omega)]
            exact hmade j (by omega) (by omega)
        · rw [spelled_succ, hfirst, spelled_congr hsame]
        · rw [hlater _ (by omega), Nat.add_right_comm]
          rfl
    · rintro ⟨tries, n, hmade, hstop, rfl, rfl⟩
      have hfirst : (tries k).Made op k := hmade k (Nat.le_refl k) (Nat.le_add_right k n)
      cases n with
      | zero => exact Or.inl ⟨stops_at_once_iff.mp hstop, hfirst⟩
      | succ n =>
        obtain ⟨hfailed, hstop⟩ := stops_later_iff.mp hstop
        unfold Try.Made at hfirst
        cases hr : (tries k).result with
        | ok v =>
          rw [hr] at hfailed
          cases hfailed
        | error e =>
          rw [hr] at hfirst
          refine Or.inr ⟨_, e, _, spelled_succ, hfirst, ih.mpr ⟨tries, n, fun j hj hk => ?_, hstop,
            rfl, ?_⟩⟩
          · exact hmade j (by omega) (by omega)
          · rw [Nat.add_right_comm]
            rfl

/-- A repetition makes the attempts from number 0 on, up to where they stop, and ends as the last of
them does. -/
theorem ends_withRetry_iff : Ends (withRetry policy op) log r ↔
    ∃ (tries : Nat → Try τ) (n : Nat), (∀ j ≤ n, (tries j).Made op j) ∧
      Stops tries 0 policy.retries n ∧ log = spelled policy tries 0 n ∧ r = (tries n).result := by
  simp only [withRetry, ends_attemptsFrom_iff, Nat.zero_le, Nat.zero_add, forall_true_left]

theorem ends_withRetry_iff_of_answers {α : Type} [Nonempty α] {goes : Nat → α → Try τ}
    (hop : ∀ j t, t.Made op j ↔ ∃ a, t = goes j a) : Ends (withRetry policy op) log r ↔
      ∃ (answers : Nat → α) (n : Nat), Stops (fun j => goes j (answers j)) 0 policy.retries n ∧
        log = spelled policy (fun j => goes j (answers j)) 0 n ∧
        r = (goes n (answers n)).result := by
  rw [ends_withRetry_iff]
  constructor
  · rintro ⟨tries, n, hmade, hstop, rfl, rfl⟩
    have hanswered : ∀ j ≤ n, ∃ a, tries j = goes j a := fun j hj => (hop j _).mp (hmade j hj)
    choose! answers hanswers using hanswered
    have hsame : ∀ j, 0 ≤ j → j ≤ 0 + n → goes j (answers j) = tries j :=
      fun j _ hj => (hanswers j (by omega)).symm
    refine ⟨answers, n, hstop.congr hsame, (spelled_congr hsame).symm, ?_⟩
    rw [hanswers n (Nat.le_refl n)]
  · rintro ⟨answers, n, hstop, rfl, rfl⟩
    exact ⟨_, n, fun j _ => (hop j _).mpr ⟨answers j, rfl⟩, hstop, rfl, rfl⟩

def Exhausts (policy : RetryPolicy) (op : Nat → Attempt τ) (log : Log) (e : FlowError) : Prop :=
  ∃ tries : Nat → Try τ, (∀ j ≤ policy.retries, (tries j).Made op j ∧
      (tries j).result.isOk = false) ∧ log = spelled policy tries 0 policy.retries ∧
    (tries policy.retries).result = .error e

theorem ends_withRetry_error_iff {e : FlowError} :
    Ends (withRetry policy op) log (.error e) ↔ Exhausts policy op log e := by
  rw [ends_withRetry_iff]
  constructor
  · rintro ⟨tries, n, hmade, ⟨hmem, hleast⟩, rfl, hr⟩
    simp only [Nat.zero_add] at hmem hleast
    obtain rfl : n = policy.retries := by
      rcases hmem with hn | hok
      · exact hn
      · rw [← hr] at hok
        cases hok
    refine ⟨tries, fun j hj => ⟨hmade j hj, ?_⟩, rfl, hr.symm⟩
    by_contra hok
    have hle : policy.retries ≤ j := hleast (Or.inr (by simpa using hok))
    obtain rfl := Nat.le_antisymm hj hle
    rw [← hr] at hok
    exact hok rfl
  · rintro ⟨tries, hmade, rfl, hr⟩
    refine ⟨tries, policy.retries, fun j hj => (hmade j hj).1, ⟨Or.inl rfl, ?_⟩, rfl, hr.symm⟩
    rintro j (hj | hok)
    · exact Nat.le_of_eq hj.symm
    · by_contra hlt
      rw [Nat.zero_add, (hmade j (Nat.le_of_not_le hlt)).2] at hok
      cases hok

theorem ends_withRetryNamed_iff {operation : String} :
    Ends (withRetryNamed operation policy op) log r ↔
      ∃ o, Ends (withRetry policy op) log o ∧ r = o.mapError (exhausted operation policy) := by
  have hnamed : Ends (withRetryNamed operation policy op) log r ↔ ∃ first o second,
      log = first ++ second ∧ Ends (withRetry policy op) first o ∧
        Ends (ofAnswer (o.mapError (exhausted operation policy))) second r := by
    refine (ends_lift_bind_iff _ _ _).trans ?_
    constructor
    · rintro ⟨first, o, second, rfl, ho, hr⟩
      exact ⟨first, o, second, rfl, ho, by cases o <;> exact hr⟩
    · rintro ⟨first, o, second, rfl, ho, hr⟩
      exact ⟨first, o, second, rfl, ho, by cases o <;> exact hr⟩
  rw [hnamed]
  constructor
  · rintro ⟨first, o, second, rfl, ho, hr⟩
    obtain ⟨rfl, rfl⟩ := (ends_ofAnswer_iff _ _).mp hr
    exact ⟨o, by rwa [List.append_nil], rfl⟩
  · rintro ⟨o, ho, rfl⟩
    exact ⟨log, o, [], (List.append_nil log).symm, ho, .done _⟩

end Attempts

section Words

theorem outcome_bind_ofAnswer (a : Attempt τ) : (outcome a >>= ofAnswer) = a := by
  show (a.run >>= fun o => Prog.done (Except.ok o)) >>= ExceptT.bindCont ofAnswer = a.run
  rw [Prog.bind_assoc]
  exact Prog.bind_done a.run

theorem toNat_succ_of_lt {a b : UInt32} (h : a < b) : (a + 1).toNat = a.toNat + 1 := by
  have hlt : a.toNat < b.toNat := UInt32.lt_iff_toNat_lt.mp h
  have hb : b.toNat < 2 ^ 32 := b.toNat_lt
  rw [UInt32.toNat_add]
  exact Nat.mod_eq_of_lt (by simp; omega)

def retryFrom (policy : RetryPolicy) (op : UInt32 → Attempt τ) (retries attempt : UInt32) :
    Attempt τ := do
  match ← outcome (op attempt) with
  | .ok v => pure v
  | .error e =>
    if h : attempt < retries then do
      sleep (policy.delayAfter attempt.toNat)
      retryFrom policy op retries (attempt + 1)
    else throw e
termination_by retries.toNat - attempt.toNat
decreasing_by
  have hlt : attempt.toNat < retries.toNat := UInt32.lt_iff_toNat_lt.mp h
  rw [toNat_succ_of_lt h]
  omega

/-- The counter does not overflow: no attempt is taken for another. -/
theorem retryFrom_eq (policy : RetryPolicy) (op : Nat → Attempt τ) {retries attempt : UInt32}
    (h : attempt ≤ retries) : retryFrom policy (fun w => op w.toNat) retries attempt =
      attemptsFrom policy op (retries.toNat - attempt.toNat) attempt.toNat := by
  generalize hleft : retries.toNat - attempt.toNat = left
  have hle : attempt.toNat ≤ retries.toNat := UInt32.le_iff_toNat_le.mp h
  induction left generalizing attempt with
  | zero =>
    have hlast : ¬ attempt < retries := by
      rw [UInt32.lt_iff_toNat_lt]
      omega
    rw [retryFrom, attemptsFrom]
    refine (bind_congr fun o => ?_).trans (outcome_bind_ofAnswer (op attempt.toNat))
    cases o with
    | ok v => rfl
    | error e => exact dif_neg hlast
  | succ left ih =>
    have hlt : attempt < retries := by
      rw [UInt32.lt_iff_toNat_lt]
      omega
    have hnext : (attempt + 1).toNat = attempt.toNat + 1 := toNat_succ_of_lt hlt
    have hrest : retryFrom policy (fun w => op w.toNat) retries (attempt + 1) =
        attemptsFrom policy op left (attempt + 1).toNat :=
      ih (UInt32.le_iff_toNat_le.mpr (by omega)) (by omega) (by omega)
    rw [retryFrom, attemptsFrom]
    refine bind_congr fun o => ?_
    cases o with
    | ok v => rfl
    | error e =>
      refine (dif_pos hlt).trans ?_
      rw [hrest, hnext]

end Words

/-- What a named repetition fails with tells how many attempts it has made. -/
theorem ends_withRetryNamed_error_iff {policy : RetryPolicy} {op : Nat → Attempt τ} {log : Log}
    {operation : String} {e : FlowError} :
    Ends (withRetryNamed operation policy op) log (.error e) ↔
      ∃ source, Exhausts policy op log source ∧ e = exhausted operation policy source := by
  rw [ends_withRetryNamed_iff]
  constructor
  · rintro ⟨o, ho, he⟩
    cases o with
    | ok v => cases he
    | error source => exact ⟨source, ends_withRetry_error_iff.mp ho, Except.error.inj he⟩
  · rintro ⟨source, hs, rfl⟩
    exact ⟨.error source, ends_withRetry_error_iff.mpr hs, rfl⟩

end Engine

namespace Actions

open Engine

def OfOneAttempt (e : FlowError) : Prop :=
  ∀ operation attempts source, e ≠ .retryExhausted operation attempts source

def FailedScratch (log : Log) (e : FlowError) : Prop :=
  (⟨.newScratch, .error e⟩ : Exchange) ∈ log ∨
    ∃ scratch content, (⟨.writeScratch scratch content, .error e⟩ : Exchange) ∈ log

def repeating : List Action := [.navigate, .waitForDisappearance, .httpGet, .httpPost, .extractPdf]

/-- What a step repeats: under which name, by which policy, and what every attempt does. -/
inductive Repeats (c : Context) :
    Action → (τ : Type) → String → RetryPolicy → (Nat → Attempt τ) → Prop
  | navigate {p} : c.step.params NavigateParams.read = .ok p →
      Repeats c .navigate Unit ("navigate to " ++ p.url)
        (c.config.navigationRetry.withRetries (p.retries.getD c.config.navigationRetry.retries))
        (navigateOnce c.page p.url p.waitUntil (.ofSeconds p.timeout))
  | disappearance {p} : c.step.params WaitForDisappearanceParams.read = .ok p →
      Repeats c .waitForDisappearance Unit
        ("waiting for " ++ p.by_.describe p.locator ++ " to disappear")
        (c.config.disappearanceRetry.withRetries
          (p.options.maxRetries.getD c.config.disappearanceRetry.retries))
        fun _ => Locator.waitUntilDetached c.page p.by_ p.locator
          ((p.options.timeout.map Duration.ofSeconds).getD c.config.disappearanceTimeout)
  | get {p} : c.step.params HttpParams.read = .ok p →
      Repeats c .httpGet HttpResponse (requestOf c.config .get p).title
        (c.config.httpRetry.withRetries (p.options.retries.getD c.config.httpRetry.retries))
        fun _ => fetchOnce c.session.api (requestOf c.config .get p)
  | post {p} : c.step.params HttpParams.read = .ok p →
      Repeats c .httpPost HttpResponse (requestOf c.config .post p).title
        (c.config.httpRetry.withRetries (p.options.retries.getD c.config.httpRetry.retries))
        fun _ => fetchOnce c.session.api (requestOf c.config .post p)
  | pdf {p source} : c.step.params ExtractPdfParams.read = .ok p → p.source = some source →
      Repeats c .extractPdf HttpResponse (HttpRequest.get source.url c.config.httpTimeout).title
        c.config.httpRetry
        fun _ => fetchOnce c.session.api (HttpRequest.get source.url c.config.httpTimeout)

/-- The step has made all attempts that its policy allows, and its error says so. -/
def GivesUp (c : Context) (a : Action) (log : Log) (operation : String) (attempts : Nat)
    (source : FlowError) : Prop :=
  ∃ (τ : Type) (policy : RetryPolicy) (op : Nat → Attempt τ), Repeats c a τ operation policy op ∧
    Exhausts policy op log source ∧ attempts = min (policy.retries + 1) (2 ^ 32 - 1)

section Steps

variable {c : Context} {a : Action} {log : Log} {operation : String} {attempts : Nat}
  {source : FlowError}

theorem ends_params_bind {read : Json.Doc → Json.Read τ} {f : τ → Attempt υ}
    (h : Ends (c.params read >>= f) log (.error (.retryExhausted operation attempts source))) :
    ∃ p, c.step.params read = .ok p ∧
      Ends (f p) log (.error (.retryExhausted operation attempts source)) := by
  cases hp : c.step.params read with
  | ok p =>
    rw [Context.params, hp] at h
    exact ⟨p, rfl, h⟩
  | error e =>
    rw [Context.params, hp] at h
    obtain ⟨-, he⟩ := (ends_throw_iff _ _).mp h
    obtain ⟨m, rfl⟩ := params_error hp
    cases he

theorem givesUp_or_rest {name : String} {policy : RetryPolicy} {op : Nat → Attempt τ}
    {rest : τ → Attempt υ} (hr : Repeats c a τ name policy op)
    (h : Ends (withRetryNamed name policy op >>= rest) log
      (.error (.retryExhausted operation attempts source))) :
    GivesUp c a log operation attempts source ∨ ∃ first v second, log = first ++ second ∧
      Ends (rest v) second (.error (.retryExhausted operation attempts source)) := by
  rcases (ends_bind_iff _ _ _).mp h with ⟨e, he, hn⟩ | ⟨first, v, second, rfl, -, hrest⟩
  · obtain rfl := Except.error.inj he
    obtain ⟨s, hs, heq⟩ := ends_withRetryNamed_error_iff.mp hn
    obtain ⟨rfl, rfl, rfl⟩ := FlowError.retryExhausted.inj heq
    exact Or.inl ⟨τ, policy, op, hr, hs, rfl⟩
  · exact Or.inr ⟨first, v, second, rfl, hrest⟩

theorem givesUp_of_rest {name : String} {policy : RetryPolicy} {op : Nat → Attempt τ}
    {rest : τ → Attempt υ} (hr : Repeats c a τ name policy op)
    (hrest : ∀ v, Confined (fun _ => True) OfOneAttempt (rest v))
    (h : Ends (withRetryNamed name policy op >>= rest) log
      (.error (.retryExhausted operation attempts source))) :
    GivesUp c a log operation attempts source := by
  rcases givesUp_or_rest hr h with hg | ⟨first, v, second, rfl, he⟩
  · exact hg
  · exact absurd rfl ((hrest v second _ he).2 _ rfl operation attempts source)

theorem ofOneAttempt_awaitFullLoad (p : Page) (timeout : Duration) :
    Confined (fun _ => True) OfOneAttempt (awaitFullLoad p timeout) := by
  refine confined_bind (confined_lift trivial rfl) fun _ =>
    confined_bind (fun log r h => ⟨fun _ _ => trivial, ?_⟩) fun _ => confined_pure _
  rintro e rfl
  obtain ⟨-, rfl⟩ := Locator.resolve_error h
  exact nofun

theorem givesUp_navigate
    (h : Ends (navigate c) log (.error (.retryExhausted operation attempts source))) :
    GivesUp c .navigate log operation attempts source := by
  obtain ⟨p, hp, h⟩ := ends_params_bind h
  refine givesUp_of_rest (.navigate hp) (fun _ => ?_) h
  split
  · exact confined_bind (ofOneAttempt_awaitFullLoad _ _) fun _ => confined_pure _
  · exact confined_pure _

theorem givesUp_disappearance
    (h : Ends (waitForDisappearance c) log (.error (.retryExhausted operation attempts source))) :
    GivesUp c .waitForDisappearance log operation attempts source := by
  obtain ⟨p, hp, h⟩ := ends_params_bind h
  exact givesUp_of_rest (.disappearance hp) (fun _ => confined_pure _) h

theorem givesUp_request {method : HttpMethod}
    (hr : ∀ p, c.step.params HttpParams.read = .ok p →
      Repeats c a HttpResponse (requestOf c.config method p).title
        (c.config.httpRetry.withRetries (p.options.retries.getD c.config.httpRetry.retries))
        fun _ => fetchOnce c.session.api (requestOf c.config method p))
    (h : Ends (httpRequest method c) log (.error (.retryExhausted operation attempts source))) :
    GivesUp c a log operation attempts source := by
  obtain ⟨p, hp, h⟩ := ends_params_bind h
  refine givesUp_of_rest (hr p hp) (fun response => ?_) h
  refine confined_bind (confined_ofAnswer fun e he => ?_) fun _ => confined_pure _
  obtain ⟨text, rfl⟩ := Executor.responseValue_error he
  exact nofun

theorem failedScratch_of_ends {command : PdfCommand} {pdf : PdfSource} {body : Bytes}
    {e : FlowError} (h : Ends (inScratch (extractIn command pdf body)) log (.error e)) :
    FailedScratch log e ∨ Executor.OfExtractor e := by
  obtain ⟨made, rest, rfl, hmade⟩ := (ends_answer_bind_iff rfl _ _).mp h
  cases made with
  | error e' =>
    obtain ⟨-, he⟩ := (ends_throw_iff _ _).mp hmade
    obtain rfl := Except.error.inj he
    exact Or.inl (Or.inl List.mem_cons_self)
  | ok scratch =>
    obtain ⟨first, o, second, rfl, hwork, hremove⟩ := (ends_lift_bind_iff _ _ _).mp hmade
    obtain ⟨third, _, fourth, rfl, -, hresult⟩ := (ends_lift_bind_iff _ _ _).mp hremove
    obtain ⟨rfl, rfl⟩ := (ends_ofAnswer_iff _ _).mp hresult
    obtain ⟨written, more, rfl, hwritten⟩ := (ends_answer_bind_iff rfl _ _).mp hwork
    cases written with
    | error e' =>
      obtain ⟨-, he⟩ := (ends_throw_iff _ _).mp hwritten
      obtain rfl := Except.error.inj he
      exact Or.inl (Or.inr ⟨scratch, body, by simp⟩)
    | ok _ =>
      obtain ⟨_, ended, _, -, -, hended⟩ := (ends_lift_bind_iff _ _ _).mp hwritten
      obtain ⟨-, he⟩ := (ends_ofAnswer_iff _ _).mp hended
      exact Or.inr (Executor.pdfResult_error he.symm)

theorem givesUp_extractPdf {extractor : Option PdfCommand}
    (h : Ends (extractPdf extractor c) log (.error (.retryExhausted operation attempts source))) :
    GivesUp c .extractPdf log operation attempts source ∨
      FailedScratch log (.retryExhausted operation attempts source) := by
  obtain ⟨p, hp, h⟩ := ends_params_bind h
  split at h
  · obtain ⟨-, he⟩ := (ends_throw_iff _ _).mp h
    cases he
  · rename_i pdf hpdf
    split at h
    · obtain ⟨-, he⟩ := (ends_throw_iff _ _).mp h
      cases he
    · rcases givesUp_or_rest (.pdf hp hpdf) h with hg | ⟨first, response, second, rfl, hrest⟩
      · exact Or.inl hg
      · obtain ⟨o, ho, he⟩ := ends_map_iff.mp hrest
        cases o with
        | ok v => cases he
        | error e =>
          obtain rfl := Except.error.inj he
          rcases failedScratch_of_ends ho with hf | hf
          · exact Or.inr (hf.imp (List.mem_append_right _)
              fun ⟨s, content, hx⟩ => ⟨s, content, List.mem_append_right _ hx⟩)
          · cases hf

end Steps

/-- Repetition, by every policy and whatever the attempts do. Those are made from number 0 up to the
first that succeeds or the last that the policy allows; between two of them stands the wait that
the policy sets, and none after the last, whose outcome is that of the whole. So it goes for any
outcomes that the attempts can have; it comes to its end with every driver; and it is the loop that
counts the attempts in a 32-bit word. Where a step ends with the error of a repetition, all attempts
that its policy allows were made and failed, one more than its retries, and the error tells their
number as far as a word can. Only a call for the scratch directory could have been answered with
such an error instead. -/
theorem attempts_accounted :
    (∀ {τ : Type} (policy : RetryPolicy) (op : Nat → Attempt τ),
      (∀ log r, Ends (withRetry policy op) log r ↔ ∃ (tries : Nat → Try τ) (n : Nat),
        (∀ j ≤ n, (tries j).Made op j) ∧ Stops tries 0 policy.retries n ∧
          log = spelled policy tries 0 n ∧ r = (tries n).result) ∧
      (∀ tries : Nat → Try τ, (∀ j ≤ policy.retries, (tries j).Made op j) →
        ∃ n ≤ policy.retries, Stops tries 0 policy.retries n ∧
          Ends (withRetry policy op) (spelled policy tries 0 n) (tries n).result) ∧
      (∀ (d : Driver) (start : Nat), ∃ time log r, Ends (withRetry policy op) log r ∧
        time 0 = start ∧ d.Drives time [] log) ∧
      ∀ retries : UInt32, policy.retries = retries.toNat →
        retryFrom policy (fun w => op w.toNat) retries 0 = withRetry policy op) ∧
    ∀ (extractor : Option PdfCommand) (c : Context) (a : Action) (log : Log) (operation : String)
      (attempts : Nat) (source : FlowError), a ∈ repeating →
      Ends (Executor.builtIn extractor a c) log
        (.error (.retryExhausted operation attempts source)) →
      GivesUp c a log operation attempts source ∨
        a = .extractPdf ∧ FailedScratch log (.retryExhausted operation attempts source) := by
  refine ⟨fun policy op => ⟨fun log r => ends_withRetry_iff, fun tries hmade => ?_,
    fun d start => ?_, fun retries hretries => ?_⟩, ?_⟩
  · obtain ⟨n, hstop⟩ := exists_stops tries 0 policy.retries
    have hn : n ≤ policy.retries := hstop.2 (Or.inl rfl)
    refine ⟨n, hn, hstop, ends_withRetry_iff.mpr ⟨tries, n, fun j hj => ?_, hstop, rfl, rfl⟩⟩
    exact hmade j (Nat.le_trans hj hn)
  · obtain ⟨time, log, r, he, h0, hd⟩ := d.exists_exec (withRetry policy op).run start []
    exact ⟨time, log, r, he, h0, hd⟩
  · have hzero : (0 : UInt32) ≤ retries := UInt32.le_iff_toNat_le.mpr (Nat.zero_le _)
    rw [retryFrom_eq policy op hzero, withRetry, hretries]
    rfl
  · intro extractor c a log operation attempts source ha h
    simp only [repeating, List.mem_cons, List.not_mem_nil, or_false] at ha
    rcases ha with rfl | rfl | rfl | rfl | rfl
    · exact Or.inl (givesUp_navigate h)
    · exact Or.inl (givesUp_disappearance h)
    · exact Or.inl (givesUp_request (fun p hp => .get hp) h)
    · exact Or.inl (givesUp_request (fun p hp => .post hp) h)
    · exact (givesUp_extractPdf h).imp_right fun hf => ⟨rfl, hf⟩

section Samples

def twice : Context where
  session := ⟨0, ⟨0⟩, ⟨0⟩⟩
  step := .ofAction .navigate (.obj [("url", .str "u"), ("retries", .int 1)])
  prev := .empty
  selection := .empty
  config := .default

def unreachable : (op : Op) → Unit → Option (Reply op) × Unit
  | .goto _ _ _ _, s => (some (.error (.navigation "down")), s)
  | .reload _, s => (some (.ok ()), s)
  | .sleep _, s => (some (), s)
  | _, s => (none, s)

end Samples

/-- Two attempts, both of which fail. -/
theorem attempts_accounted_twice : ∃ log,
    Ends (Executor.builtIn none .navigate twice) log
      (.error (.retryExhausted "navigate to u" 2 (.navigation "down"))) ∧
    GivesUp twice .navigate log "navigate to u" 2 (.navigation "down") := by
  obtain ⟨log, hl, -⟩ := @Prog.exec_of_run Op Reply _ _ unreachable
    (Executor.builtIn none .navigate twice).run () ()
    (.error (.retryExhausted "navigate to u" 2 (.navigation "down"))) rfl
  refine ⟨log, hl, ?_⟩
  rcases attempts_accounted.2 none twice .navigate log _ _ _ (by decide) hl with hg | ⟨hp, -⟩
  · exact hg
  · cases hp

end Actions
end PageFlow
