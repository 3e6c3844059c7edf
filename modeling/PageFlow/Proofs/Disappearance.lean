import PageFlow.Proofs.Repetition

/-! Steps that wait until nothing on the page matches. A query that is answered so ends the step,
in whichever attempt it is made; any other answer, a failure too, means that something is still
there. When only sleeping takes time, the queries of all attempts are made at moments that are known
before. -/
namespace PageFlow

open Engine

namespace Engine

def Op.isQuery : Op → Bool
  | .query _ _ _ => true
  | _ => false

/-- The moments at which the log asks what matches. -/
def askedAt (time : Nat → Nat) : Log → List Nat
  | [] => []
  | x :: log => (if x.op.isQuery then [time 0] else []) ++ askedAt (fun k => time (k + 1)) log

section Moments

variable {time : Nat → Nat} {first second log : Log}

theorem askedAt_append : askedAt time (first ++ second) =
    askedAt time first ++ askedAt (fun k => time (first.length + k)) second := by
  induction first generalizing time with
  | nil => simp [askedAt]
  | cons x first ih =>
    have hshift (k : Nat) : first.length + k + 1 = (x :: first).length + k := by
      rw [List.length_cons]
      omega
    rw [List.cons_append, askedAt, askedAt, ih, List.append_assoc]
    simp only [hshift]

theorem askedAt_eq_nil (h : ∀ x ∈ log, x.op.isQuery = false) : askedAt time log = [] := by
  induction log generalizing time with
  | nil => rfl
  | cons x log ih =>
    obtain ⟨hx, hlog⟩ := List.forall_mem_cons.mp h
    simp [askedAt, hx, ih hlog]

theorem Driver.Drives.swift {d : Driver} {past : Log} (h : d.Drives time past log)
    (hd : ∀ t past op, d.spends t past op = 0) : Swift time log := by
  intro k x hx hsleep
  obtain ⟨-, ht⟩ := h k x hx
  obtain ⟨op, r⟩ := x
  cases op with
  | sleep s => exact absurd rfl (hsleep s)
  | now => exact ht
  | _ => exact ht.trans (by simp only [Driver.lasts, hd, Nat.add_zero])

end Moments

section Repetition

variable {policy : RetryPolicy} {tries : Nat → Try τ}

def earlier (policy : RetryPolicy) (tries : Nat → Try τ) (n : Nat) : Log :=
  (List.range n).flatMap fun j => (tries j).calls ++ [pause policy j]

theorem spelled_eq_earlier (n : Nat) :
    spelled policy tries 0 n = earlier policy tries n ++ (tries n).calls := by
  rw [spelled, earlier, List.range_eq_range', Nat.zero_add]

theorem earlier_succ (n : Nat) : earlier policy tries (n + 1) =
    earlier policy tries n ++ ((tries n).calls ++ [pause policy n]) := by
  simp [earlier, List.range_succ]

end Repetition
end Engine

namespace Locator

section Queries

variable {check : Attempt (Option τ)} {root : Root} {kind : SelectorKind} {selector : String}
  {judge : Answer (List Element) → Option τ} {time : Nat → Nat} {log : Log}

theorem askedAt_opening {start deadline : Nat} {misses : List Miss}
    (h : ∀ m ∈ misses, ∃ answer, m.log = [⟨.query root kind selector, answer⟩]) :
    askedAt time (opening start deadline misses) =
      (List.range misses.length).map fun k =>
        time (opening start deadline (misses.take k)).length := by
  -- By the last miss: those before it and their moments stay the same.
  induction misses using List.reverseRecOn with
  | nil => rfl
  | append_singleton misses m ih =>
    obtain ⟨hmisses, hm⟩ := List.forall_mem_append.mp h
    obtain ⟨answer, hlog⟩ := List.forall_mem_singleton.mp hm
    have hopening : opening start deadline (misses ++ [m]) =
        opening start deadline misses ++ m.calls deadline := by simp [opening]
    have hcalls (time : Nat → Nat) : askedAt time (m.calls deadline) = [time 0] := by
      rw [Miss.calls, hlog]
      rfl
    have hbefore : ∀ k ∈ List.range misses.length, time (opening start deadline
        (misses.take k)).length = time (opening start deadline ((misses ++ [m]).take k)).length := by
      intro k hk
      rw [List.take_append_of_le_length (Nat.le_of_lt (List.mem_range.mp hk))]
    rw [hopening, askedAt_append, hcalls, ih hmisses, List.length_append, List.length_singleton,
      List.range_succ, List.map_append, List.map_congr_left hbefore, List.map_singleton,
      List.take_left, Nat.add_zero]

/-- The moments at which a wait asks, if it comes to its deadline: an interval after each other,
and at the deadline. -/
def attemptTimes (timeout : Duration) (start : Nat) : List Nat :=
  ((List.range (timeout.toNanos ⌈/⌉ interval)).map fun k => start + k * interval) ++
    [start + timeout.toNanos]

theorem attemptTimes_eq (timeout : Duration) (start : Nat) : attemptTimes timeout start =
    (List.range (timeout.toNanos ⌈/⌉ interval + 1)).map fun k =>
      start + min (k * interval) timeout.toNanos := by
  have hi : 0 < interval := by decide
  have hbefore : ∀ k ∈ List.range (timeout.toNanos ⌈/⌉ interval),
      start + k * interval = start + min (k * interval) timeout.toNanos := by
    intro k hk
    have hlt : interval * k < timeout.toNanos :=
      Nat.not_le.mp (mt (ceilDiv_le_iff_le_mul hi).mpr (Nat.not_le.mpr (List.mem_range.mp hk)))
    rw [Nat.mul_comm, Nat.min_eq_left (Nat.le_of_lt hlt)]
  have hlast : timeout.toNanos ≤ timeout.toNanos ⌈/⌉ interval * interval := by
    rw [Nat.mul_comm]
    exact (ceilDiv_le_iff_le_mul hi).mp (Nat.le_refl _)
  rw [attemptTimes, List.map_congr_left hbefore, List.range_succ, List.map_append,
    List.map_singleton, Nat.min_eq_right hlast]

/-- When only sleeping takes time, a wait asks at the first of those moments, and without a query
that yields something at all of them. -/
theorem Peeks.askedAt (hp : Peeks check root kind selector judge) {timeout : Duration}
    {r : Except FlowError (Option τ)} (h : Ends (waitFor check timeout) log r)
    (hc : Clocked time log) (hw : Swift time log) :
    Engine.askedAt time log <+: attemptTimes timeout (time 0) ∧
      (r = .ok none → Engine.askedAt time log = attemptTimes timeout (time 0) ∧
        time log.length = time 0 + timeout.toNanos) := by
  obtain ⟨misses, last, hg, ht, hlast, hlog⟩ := ends_waitFor h hp.no_sleep hc
  obtain ⟨answer, rfl, -⟩ := hp _ _ hlast
  have hqueries : ∀ m ∈ misses, ∃ answer, m.log = [⟨.query root kind selector, answer⟩] :=
    fun m hm => (hp.miss (hg m hm)).imp fun _ hx => hx.1
  -- The clock stands still after the last query, whether or not it is looked at again.
  have hasked {looks : Log} (hlooks : ∀ x ∈ looks, x.op = .now)
      (hlog : log = opening (time 0) (time 0 + timeout.toNanos) misses ++
        [⟨.query root kind selector, answer⟩] ++ looks) :
      Engine.askedAt time log = (List.range (misses.length + 1)).map fun k =>
        time 0 + min (k * interval) timeout.toNanos := by
    have hopen : Swift time (opening (time 0) (time 0 + timeout.toNanos) misses) := by
      rw [hlog, List.append_assoc] at hw
      exact (swift_append hw).1
    have hstarts : ∀ k ∈ List.range (misses.length + 1),
        time (opening (time 0) (time 0 + timeout.toNanos) (misses.take k)).length =
          time 0 + min (k * interval) timeout.toNanos :=
      fun k hk => ht.swift hopen k (Nat.le_of_lt_succ (List.mem_range.mp hk))
    have hquiet : ∀ x ∈ looks, x.op.isQuery = false := fun x hx => by rw [hlooks x hx]; rfl
    rw [hlog, askedAt_append, askedAt_append, askedAt_opening hqueries, askedAt_eq_nil hquiet,
      List.append_nil, ← List.map_congr_left hstarts, List.range_succ, List.map_append,
      List.map_singleton, List.take_length]
    rfl
  have hbegins : ((List.range (misses.length + 1)).map fun k =>
      time 0 + min (k * interval) timeout.toNanos) <+: attemptTimes timeout (time 0) := by
    have hfirst : List.range (misses.length + 1) =
        (List.range (timeout.toNanos ⌈/⌉ interval + 1)).take (misses.length + 1) := by
      rw [List.take_range, Nat.min_eq_left (Nat.succ_le_succ ht.bounded)]
    rw [attemptTimes_eq, hfirst]
    exact List.IsPrefix.map _ <| List.take_prefix _ _
  rcases hlog with ⟨hr, hlog⟩ | ⟨-, looks, hlooks, hlog, -, hall⟩
  · rw [hasked (List.forall_mem_nil _) (by rw [hlog, List.append_nil])]
    exact ⟨hbegins, fun hnone => absurd hnone hr⟩
  · have hfull : misses.length = timeout.toNanos ⌈/⌉ interval := hall hw
    rw [hasked hlooks hlog]
    refine ⟨hbegins, fun _ => ⟨?_, ?_⟩⟩
    · rw [attemptTimes_eq, hfull]
    · have hstill : ∀ x ∈ ([⟨.query root kind selector, answer⟩] : Log) ++ looks,
          ∀ d, x.op ≠ .sleep d := by
        refine List.forall_mem_append.mpr ⟨by simp, fun x hx d => ?_⟩
        rw [hlooks x hx]
        nofun
      rw [hlog, List.append_assoc] at hw ⊢
      rw [List.length_append]
      exact ((swift_append hw).2.eq hstill).trans (ht.full hfull)

end Queries

/-- The answer that nothing matches is the only one that ends the wait for it. -/
def emptied : Answer (List Element) → Option Unit
  | .ok [] => some ()
  | _ => none

def lingering (kind : SelectorKind) (selector : String) (timeout : Duration) : FlowError :=
  .timeout (kind.describe selector ++ " to disappear within " ++ toString timeout.toMillis ++ "ms")

section Detached

variable {page : Page} {kind : SelectorKind} {selector : String} {timeout : Duration} {log : Log}
  {r : Except FlowError Unit} {time : Nat → Nat}

theorem peeks_gone : Peeks (gone page kind selector) (.page page) kind selector emptied := by
  intro log r h
  obtain ⟨first, answer, second, rfl, hquery, hgone⟩ := (ends_lift_bind_iff _ _ _).mp h
  obtain ⟨_, rfl, rfl⟩ := (ends_answer_iff rfl _).mp hquery
  rcases answer with err | (_ | ⟨e, all⟩)
  · obtain ⟨rfl, rfl⟩ := (ends_pure_iff none _).mp hgone
    exact ⟨.error err, rfl, rfl⟩
  · obtain ⟨rfl, rfl⟩ := (ends_pure_iff (some ()) _).mp hgone
    exact ⟨.ok [], rfl, rfl⟩
  · obtain ⟨rfl, rfl⟩ := (ends_pure_iff none _).mp hgone
    exact ⟨.ok (e :: all), rfl, rfl⟩

def detached (kind : SelectorKind) (selector : String) (timeout : Duration) :
    Option Unit → Except FlowError Unit
  | some () => .ok ()
  | none => .error (lingering kind selector timeout)

theorem ends_waitUntilDetached_iff : Ends (waitUntilDetached page kind selector timeout) log r ↔
    ∃ o, Ends (waitFor (gone page kind selector) timeout) log (.ok o) ∧
      r = detached kind selector timeout o := by
  have hverdict : waitUntilDetached page kind selector timeout =
      (waitFor (gone page kind selector) timeout >>= fun o =>
        ofAnswer (detached kind selector timeout o)) := by
    refine bind_congr fun o => ?_
    cases o <;> rfl
  rw [hverdict, ends_then_answer_iff]
  constructor
  · rintro ⟨o, ho, rfl⟩
    obtain ⟨v, rfl, -⟩ := peeks_gone.decided ho
    exact ⟨v, ho, rfl⟩
  · rintro ⟨o, ho, rfl⟩
    exact ⟨.ok o, ho, rfl⟩

/-- How an attempt goes: up to the first query that finds nothing any more, or without any. -/
inductive Watches (page : Page) (kind : SelectorKind) (selector : String) (timeout : Duration) :
    Log → Except FlowError Unit → Prop
  | gone {before} : (∀ x ∈ before, Waits (.page page) kind selector (emptied · = none) x) →
      Watches page kind selector timeout
        (before ++ [⟨.query (.page page) kind selector, .ok []⟩]) (.ok ())
  | still {log answer} : (∀ x ∈ log, Waits (.page page) kind selector (emptied · = none) x) →
      (⟨.query (.page page) kind selector, answer⟩ : Exchange) ∈ log →
      Watches page kind selector timeout log (.error (lingering kind selector timeout))

theorem watches_of_ends (h : Ends (waitUntilDetached page kind selector timeout) log r) :
    Watches page kind selector timeout log r := by
  obtain ⟨o, ho, rfl⟩ := ends_waitUntilDetached_iff.mp h
  obtain ⟨v, hv, hdecided⟩ := peeks_gone.decided ho
  obtain rfl := Except.ok.inj hv
  cases hdecided with
  | yields hbefore hjudge =>
    unfold emptied at hjudge
    split at hjudge
    · exact .gone hbefore
    · cases hjudge
  | nothing hlog hmem => exact .still hlog hmem

theorem Watches.waits (h : Watches page kind selector timeout log r) (hr : r.isOk = false) :
    ∀ x ∈ log, Waits (.page page) kind selector (emptied · = none) x := by
  cases h with
  | gone => cases hr
  | still hlog => exact hlog

theorem askedAt_detached (h : Ends (waitUntilDetached page kind selector timeout) log r)
    (hc : Clocked time log) (hw : Swift time log) :
    askedAt time log <+: attemptTimes timeout (time 0) ∧
      (r.isOk = false → askedAt time log = attemptTimes timeout (time 0) ∧
        time log.length = time 0 + timeout.toNanos) := by
  obtain ⟨o, ho, rfl⟩ := ends_waitUntilDetached_iff.mp h
  obtain ⟨hbegins, hall⟩ := peeks_gone.askedAt ho hc hw
  refine ⟨hbegins, fun hfailed => ?_⟩
  cases o with
  | some v => cases hfailed
  | none => exact hall rfl

end Detached

section Attempts

variable {page : Page} {kind : SelectorKind} {selector : String} {timeout : Duration}
  {policy : RetryPolicy} {tries : Nat → Try Unit} {n : Nat} {time : Nat → Nat}

/-- When attempt number `j` starts, if all before it have waited in vain. -/
def attemptStart (policy : RetryPolicy) (timeout : Duration) (start j : Nat) : Nat :=
  start + j * timeout.toNanos + ((List.range j).map fun k => (policy.delayAfter k).toNanos).sum

theorem attemptStart_succ (policy : RetryPolicy) (timeout : Duration) (start j : Nat) :
    attemptStart policy timeout start (j + 1) =
      attemptStart policy timeout start j + timeout.toNanos + (policy.delayAfter j).toNanos := by
  simp only [attemptStart, Nat.succ_mul, List.range_succ, List.map_append, List.map_singleton,
    List.sum_append, List.sum_singleton]
  omega

def askTimes (policy : RetryPolicy) (timeout : Duration) (start n : Nat) : List Nat :=
  (List.range n).flatMap fun j => attemptTimes timeout (attemptStart policy timeout start j)

theorem askTimes_succ (policy : RetryPolicy) (timeout : Duration) (start n : Nat) :
    askTimes policy timeout start (n + 1) = askTimes policy timeout start n ++
      attemptTimes timeout (attemptStart policy timeout start n) := by
  rw [askTimes, askTimes, List.range_succ, List.flatMap_append, List.flatMap_singleton]

theorem askedAt_earlier
    (hmade : ∀ j < n, (tries j).Made (fun _ => waitUntilDetached page kind selector timeout) j)
    (hfailed : ∀ j < n, (tries j).result.isOk = false)
    (hc : Clocked time (earlier policy tries n)) (hw : Swift time (earlier policy tries n)) :
    askedAt time (earlier policy tries n) = askTimes policy timeout (time 0) n ∧
      time (earlier policy tries n).length = attemptStart policy timeout (time 0) n := by
  induction n with
  | zero => exact ⟨rfl, by simp [earlier, attemptStart]⟩
  | succ n ih =>
    rw [earlier_succ] at hc hw ⊢
    obtain ⟨hcbefore, hclast⟩ := clocked_append_iff.mp hc
    obtain ⟨hwbefore, hwlast⟩ := swift_append hw
    obtain ⟨hcalls, hpause⟩ := clocked_append_iff.mp hclast
    -- Attempt number `n` starts on a clock that has come as far as the attempts before it.
    obtain ⟨hbefore, hstart⟩ := ih (fun j hj => hmade j (Nat.lt_succ_of_lt hj))
      (fun j hj => hfailed j (Nat.lt_succ_of_lt hj)) hcbefore hwbefore
    obtain ⟨-, hall⟩ := askedAt_detached (hmade n (Nat.lt_succ_self n)) hcalls (swift_append hwlast).1
    obtain ⟨hasked, hstop⟩ := hall (hfailed n (Nat.lt_succ_self n))
    have hwait := clocked_singleton_iff.mp hpause
    simp only [Nat.add_zero, hstart] at hasked hstop
    constructor
    · rw [askedAt_append, hbefore, askedAt_append, hasked, askTimes_succ]
      simp [askedAt, pause, Op.isQuery]
    · have hend : time ((earlier policy tries n).length + ((tries n).calls.length + 1)) =
          time ((earlier policy tries n).length + (tries n).calls.length) +
            (policy.delayAfter n).toNanos := hwait
      rw [hstop] at hend
      rw [List.length_append, List.length_append, List.length_singleton, hend, attemptStart_succ]

theorem askTimes_mono (policy : RetryPolicy) (timeout : Duration) (start : Nat) {n m : Nat}
    (h : n ≤ m) : askTimes policy timeout start n <+: askTimes policy timeout start m := by
  induction h with
  | refl => exact List.prefix_refl _
  | step _ ih =>
    rw [askTimes_succ]
    exact ih.trans (List.prefix_append _ _)

/-- A repetition asks at the first of the moments at which its attempts would ask in vain, and at
all of them if all attempts are made and fail. -/
theorem askedAt_spelled
    (hmade : ∀ j ≤ n, (tries j).Made (fun _ => waitUntilDetached page kind selector timeout) j)
    (hstop : Stops tries 0 policy.retries n) (hc : Clocked time (spelled policy tries 0 n))
    (hw : Swift time (spelled policy tries 0 n)) :
    askedAt time (spelled policy tries 0 n) <+:
        askTimes policy timeout (time 0) (policy.retries + 1) ∧
      ((tries n).result.isOk = false →
        askedAt time (spelled policy tries 0 n) =
            askTimes policy timeout (time 0) (policy.retries + 1) ∧
          time (spelled policy tries 0 n).length =
            attemptStart policy timeout (time 0) policy.retries + timeout.toNanos) := by
  have hfailed := hstop.failed_before
  rw [spelled_eq_earlier] at hc hw ⊢
  obtain ⟨hcbefore, hclast⟩ := clocked_append_iff.mp hc
  obtain ⟨hwbefore, hwlast⟩ := swift_append hw
  obtain ⟨hbefore, hstart⟩ := askedAt_earlier (fun j hj => hmade j (Nat.le_of_lt hj)) hfailed
    hcbefore hwbefore
  obtain ⟨hbegins, hall⟩ := askedAt_detached (hmade n (Nat.le_refl n)) hclast hwlast
  simp only [Nat.add_zero, hstart] at hbegins hall
  rw [askedAt_append, hbefore]
  constructor
  · have hn : n + 1 ≤ policy.retries + 1 := Nat.succ_le_succ (hstop.2 (Or.inl rfl))
    refine List.IsPrefix.trans ?_ (askTimes_mono policy timeout (time 0) hn)
    rw [askTimes_succ]
    exact (List.prefix_append_right_inj _).mpr hbegins
  · intro hlast
    obtain rfl : n = policy.retries := by
      rcases hstop.1 with hn | hok
      · exact hn
      · rw [Nat.zero_add, hlast] at hok
        cases hok
    obtain ⟨hasked, hend⟩ := hall hlast
    rw [askTimes_succ, hasked, List.length_append]
    exact ⟨rfl, hend⟩

theorem waits_earlier (policy : RetryPolicy)
    (hmade : ∀ j < n, (tries j).Made (fun _ => waitUntilDetached page kind selector timeout) j)
    (hfailed : ∀ j < n, (tries j).result.isOk = false) :
    ∀ x ∈ earlier policy tries n, Waits (.page page) kind selector (emptied · = none) x := by
  intro x hx
  obtain ⟨j, hj, hx⟩ := List.mem_flatMap.mp hx
  have hj : j < n := List.mem_range.mp hj
  rcases List.mem_append.mp hx with hx | hx
  · exact (watches_of_ends (hmade j hj)).waits (hfailed j hj) x hx
  · obtain rfl := List.mem_singleton.mp hx
    exact .sleep _

end Attempts
end Locator

namespace Actions

/-- How the step ends after its last attempt. -/
inductive Concludes (operation : String) (policy : RetryPolicy) :
    Except FlowError Unit → Except FlowError (Option Pending) → Prop
  | gone : Concludes operation policy (.ok ()) (.ok none)
  | exhausted {e} : Concludes operation policy (.error e)
      (.error (.retryExhausted operation (min (policy.retries + 1) (2 ^ 32 - 1)) e))

section Steps

variable {operation : String} {policy : RetryPolicy} {log : Log}

theorem concludes_iff {o : Except FlowError Unit} {r : Except FlowError (Option Pending)} :
    Concludes operation policy o r ↔
      r = (o.mapError (exhausted operation policy)).map fun _ => none := by
  constructor
  · intro h
    cases h <;> rfl
  · rintro rfl
    cases o with
    | ok v => exact .gone
    | error e => exact .exhausted

theorem ends_repeated_iff {op : Nat → Attempt Unit} {r : Except FlowError (Option Pending)} :
    Ends (withRetryNamed operation policy op >>= fun _ => pure none) log r ↔
      ∃ (tries : Nat → Try Unit) (n : Nat), (∀ j ≤ n, (tries j).Made op j) ∧
        Stops tries 0 policy.retries n ∧ log = spelled policy tries 0 n ∧
          Concludes operation policy (tries n).result r := by
  rw [ends_map_iff]
  simp only [ends_withRetryNamed_iff, ends_withRetry_iff, concludes_iff]
  constructor
  · rintro ⟨_, ⟨_, ⟨tries, n, hmade, hstop, rfl, rfl⟩, rfl⟩, rfl⟩
    exact ⟨tries, n, hmade, hstop, rfl, rfl⟩
  · rintro ⟨tries, n, hmade, hstop, rfl, rfl⟩
    exact ⟨_, ⟨_, ⟨tries, n, hmade, hstop, rfl, rfl⟩, rfl⟩, rfl⟩

end Steps

/-- A step that waits for a disappearance, in the standard registry and with any answers. It makes
attempts up to the first that succeeds or the last that the policy allows, and asks in all of them
what matches. The first answer that nothing does ends the step, which then succeeds; whatever else
is answered, an error too, counts as a match, and a step without that answer fails for the number of
its attempts because the last of them was too long. When only sleeping takes time, all queries fall
on moments that are known before: in each attempt an interval apart from its start, and once at its
timeout; and a step that fails has taken the timeouts of all attempts and the waits between them.
With every driver the step comes to its end. -/
theorem disappearance_course (extractor : Option PdfCommand) {c : Context}
    {p : WaitForDisappearanceParams} (ha : c.step.action = .waitForDisappearance)
    (hp : c.step.params WaitForDisappearanceParams.read = .ok p) :
    let step := (Registry.standard extractor).execute c
    let policy := c.config.disappearanceRetry.withRetries
      (p.options.maxRetries.getD c.config.disappearanceRetry.retries)
    let timeout := (p.options.timeout.map Duration.ofSeconds).getD c.config.disappearanceTimeout
    let attempt := Locator.waitUntilDetached c.page p.by_ p.locator timeout
    let operation := "waiting for " ++ p.by_.describe p.locator ++ " to disappear"
    let waits := Locator.Waits (.page c.page) p.by_ p.locator (Locator.emptied · = none)
    (∀ log r, Ends step log r ↔ ∃ (tries : Nat → Try Unit) (n : Nat),
      (∀ j ≤ n, Ends attempt (tries j).calls (tries j).result) ∧
        IsLeast {j | j = policy.retries ∨ (tries j).result = .ok ()} n ∧
          log = spelled policy tries 0 n ∧ Concludes operation policy (tries n).result r) ∧
    (∀ log r, Ends attempt log r → Locator.Watches c.page p.by_ p.locator timeout log r) ∧
    (∀ log r, Ends step log r →
      (r = .ok none ∧ ∃ before, (∀ x ∈ before, waits x) ∧
        log = before ++ [⟨.query (.page c.page) p.by_ p.locator, .ok []⟩]) ∨
      r = .error (.retryExhausted operation (min (policy.retries + 1) (2 ^ 32 - 1))
        (Locator.lingering p.by_ p.locator timeout)) ∧ ∀ x ∈ log, waits x) ∧
    (∀ time log r, Ends step log r → Clocked time log → Swift time log →
      askedAt time log <+: Locator.askTimes policy timeout (time 0) (policy.retries + 1) ∧
        (r ≠ .ok none →
          askedAt time log = Locator.askTimes policy timeout (time 0) (policy.retries + 1) ∧
            time log.length = time 0 + (policy.retries + 1) * timeout.toNanos +
              ((List.range policy.retries).map fun k => (policy.delayAfter k).toNanos).sum)) ∧
    ∀ (d : Driver) (start : Nat), ∃ time log r,
      Ends step log r ∧ time 0 = start ∧ d.Drives time [] log ∧ Clocked time log ∧
        ((∀ t past op, d.spends t past op = 0) → Swift time log) := by
  intro step policy timeout attempt operation waits
  have hstep : step = (withRetryNamed operation policy (fun _ => attempt) >>= fun _ => pure none) := by
    have haction : step = waitForDisappearance c := Executor.execute_of_action extractor ha
    rw [haction, waitForDisappearance, Context.params, hp]
    rfl
  have hends {log : Log} {r : Except FlowError (Option Pending)} (h : Ends step log r) :
      ∃ (tries : Nat → Try Unit) (n : Nat), (∀ j ≤ n, (tries j).Made (fun _ => attempt) j) ∧
        Stops tries 0 policy.retries n ∧ log = spelled policy tries 0 n ∧
          Concludes operation policy (tries n).result r := by
    rw [hstep] at h
    exact ends_repeated_iff.mp h
  refine ⟨fun log r => ?_, fun log r h => Locator.watches_of_ends h, fun log r h => ?_,
    fun time log r h hc hw => ?_, fun d start => ?_⟩
  · simp only [← stops_unit_iff]
    rw [hstep]
    exact ends_repeated_iff
  · obtain ⟨tries, n, hmade, hstop, rfl, hr⟩ := hends h
    have hbefore := Locator.waits_earlier policy (fun j hj => hmade j (Nat.le_of_lt hj))
      hstop.failed_before
    have hlast := Locator.watches_of_ends (hmade n (Nat.le_refl n))
    rw [spelled_eq_earlier]
    generalize (tries n).result = o at hr hlast
    generalize (tries n).calls = calls at hlast
    cases hlast with
    | gone hwaits =>
      cases hr with
      | gone => exact Or.inl ⟨rfl, _, List.forall_mem_append.mpr ⟨hbefore, hwaits⟩,
          (List.append_assoc _ _ _).symm⟩
    | still hwaits =>
      cases hr with
      | exhausted => exact Or.inr ⟨rfl, List.forall_mem_append.mpr ⟨hbefore, hwaits⟩⟩
  · obtain ⟨tries, n, hmade, hstop, rfl, hr⟩ := hends h
    obtain ⟨hbegins, hall⟩ := Locator.askedAt_spelled hmade hstop hc hw
    refine ⟨hbegins, fun hfailed => ?_⟩
    have hlast : (tries n).result.isOk = false := by
      generalize (tries n).result = o at hr
      cases hr with
      | gone => exact absurd rfl hfailed
      | exhausted => rfl
    obtain ⟨hasked, hend⟩ := hall hlast
    refine ⟨hasked, hend.trans ?_⟩
    rw [Locator.attemptStart, Nat.succ_mul]
    omega
  · obtain ⟨time, log, r, he, h0, hd⟩ := d.exists_ends step start
    exact ⟨time, log, r, he, h0, hd, hd.clocked, hd.swift⟩

section Samples

def spinner : Element := ⟨⟨0⟩, 1, "div", "css .spinner"⟩

def untilGone : Context where
  session := ⟨0, ⟨0⟩, ⟨0⟩⟩
  step := .ofAction .waitForDisappearance (.obj [("locator", .str ".spinner"),
    ("options", .obj [("maxRetries", .int 1)])])
  prev := .empty
  selection := .empty
  config := { EngineConfig.default with disappearanceTimeout := .ofMillis 150 }

def spinnerCalls : Log :=
  Locator.opening 0 (15 * 10 ^ 7)
    [⟨[⟨.query (.page ⟨0⟩) .css ".spinner", .ok [spinner]⟩], 0⟩,
      ⟨[⟨.query (.page ⟨0⟩) .css ".spinner", .error (.element "busy")⟩], 10 ^ 8⟩] ++
    [⟨.query (.page ⟨0⟩) .css ".spinner", .ok [spinner]⟩, ⟨.sleep (.ofSecs 1), ()⟩,
      ⟨.now, (115 * 10 ^ 7 : Nat)⟩, ⟨.query (.page ⟨0⟩) .css ".spinner", .ok []⟩]

def spinnerClock (k : Nat) : Nat :=
  if k < 4 then 0 else if k < 7 then 10 ^ 8 else if k < 9 then 15 * 10 ^ 7 else 115 * 10 ^ 7

end Samples

/-- The first query of the second attempt ends the step. -/
theorem disappearance_course_spinner :
    untilGone.step.action = .waitForDisappearance ∧
      (∃ p, untilGone.step.params WaitForDisappearanceParams.read = .ok p) ∧
      Ends ((Registry.standard none).execute untilGone) spinnerCalls (.ok none) ∧
      askedAt spinnerClock spinnerCalls <+: Locator.askTimes
        (untilGone.config.disappearanceRetry.withRetries 1) (.ofMillis 150) 0 2 := by
  have h : Ends ((Registry.standard none).execute untilGone) spinnerCalls (.ok none) := by
    repeat (first | exact .done _ | refine .ask _ ?_)
  have hc : Clocked spinnerClock spinnerCalls := by
    repeat first
      | exact clocked_nil
      | refine clocked_cons_iff.mpr ⟨?_, ?_⟩
      | exact ⟨rfl, rfl⟩
      | exact Nat.le_refl _
      | rfl
  have hw : Swift spinnerClock spinnerCalls := by
    repeat first
      | exact swift_nil
      | refine swift_cons ?_ ?_
      | exact fun _ => rfl
      | exact fun hn => absurd rfl (hn _)
  have hp : untilGone.step.params WaitForDisappearanceParams.read =
      .ok ⟨.css, ".spinner", none, some 1⟩ := rfl
  have hcourse := disappearance_course none (c := untilGone) rfl hp
  exact ⟨rfl, ⟨_, hp⟩, h, (hcourse.2.2.2.1 _ _ _ h hc hw).1⟩

end Actions
end PageFlow
