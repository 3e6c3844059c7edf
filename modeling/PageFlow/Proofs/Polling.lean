import Mathlib.Algebra.Order.Floor.Div
import PageFlow.Engine.Locator
import PageFlow.Proofs.Attempts

/-! Waiting on a clock. A log lies on a clock if every look at it tells the time, a sleep takes as
long as was asked for, and no other call turns it back. On such a clock a wait makes its polls in
time: none starts after the deadline, so there are only as many as the interval has room for, and
the bound that the definition sets on them never decides anything. -/
namespace PageFlow
namespace Engine

open Prog (Exec)

/-- The call can begin at one moment and end at the other. -/
def Exchange.Takes : Exchange → Nat → Nat → Prop
  | ⟨.now, seen⟩, t, t' => seen = t ∧ t' = t
  | ⟨.sleep d, _⟩, t, t' => t' = t + d.toNanos
  | _, t, t' => t ≤ t'

/-- The calls of the log lie on a clock that shows `time k` before call number `k`. -/
def Clocked (time : Nat → Nat) (log : Log) : Prop :=
  ∀ (k : Nat) (x : Exchange), log[k]? = some x → x.Takes (time k) (time (k + 1))

/-- Nothing but sleeping takes time. -/
def Swift (time : Nat → Nat) (log : Log) : Prop :=
  ∀ (k : Nat) (x : Exchange), log[k]? = some x → (∀ d, x.op ≠ .sleep d) → time (k + 1) = time k

section Clocks

variable {time : Nat → Nat} {first second log : Log} {x : Exchange}

theorem Exchange.Takes.le {t t' : Nat} (h : x.Takes t t') : t ≤ t' := by
  obtain ⟨op, r⟩ := x
  cases op with
  | now => exact Nat.le_of_eq h.2.symm
  | sleep d => exact h ▸ Nat.le_add_right _ _
  | _ => exact h

theorem clocked_append_iff : Clocked time (first ++ second) ↔
    Clocked time first ∧ Clocked (fun k => time (first.length + k)) second := by
  constructor
  · intro h
    constructor
    · intro k x hx
      have hk : k < first.length := (List.getElem?_eq_some_iff.mp hx).1
      exact h k x (by rw [List.getElem?_append_left hk]; exact hx)
    · intro k x hx
      exact h (first.length + k) x (by rw [List.getElem?_append_right (by omega)]; simpa using hx)
  · rintro ⟨hf, hs⟩ k x hx
    by_cases hk : k < first.length
    · rw [List.getElem?_append_left hk] at hx
      exact hf k x hx
    · have hn : first.length + (k - first.length) = k := by omega
      rw [List.getElem?_append_right (by omega)] at hx
      have h := hs (k - first.length) x hx
      simpa only [← Nat.add_assoc, hn] using h

theorem clocked_nil : Clocked time [] := by
  intro k x hx
  simp at hx

theorem clocked_cons_iff : Clocked time (x :: log) ↔
    x.Takes (time 0) (time 1) ∧ Clocked (fun k => time (k + 1)) log := by
  constructor
  · intro h
    exact ⟨h 0 x rfl, fun k y hy => h (k + 1) y hy⟩
  · rintro ⟨hx, hl⟩ k y hy
    cases k with
    | zero =>
      obtain rfl := Option.some.inj hy
      exact hx
    | succ k => exact hl k y hy

theorem clocked_singleton_iff : Clocked time [x] ↔ x.Takes (time 0) (time 1) :=
  clocked_cons_iff.trans (and_iff_left clocked_nil)

theorem Clocked.le (h : Clocked time log) : time 0 ≤ time log.length := by
  induction log generalizing time with
  | nil => exact Nat.le_refl _
  | cons x log ih =>
    obtain ⟨hx, hl⟩ := clocked_cons_iff.mp h
    exact Nat.le_trans hx.le (ih hl)

theorem swift_append (h : Swift time (first ++ second)) :
    Swift time first ∧ Swift (fun k => time (first.length + k)) second := by
  constructor
  · intro k x hx
    have hk : k < first.length := (List.getElem?_eq_some_iff.mp hx).1
    exact h k x (by rw [List.getElem?_append_left hk]; exact hx)
  · intro k x hx
    exact h (first.length + k) x (by rw [List.getElem?_append_right (by omega)]; simpa using hx)

theorem swift_nil : Swift time [] := by
  intro k x hx
  simp at hx

theorem swift_cons (hx : (∀ d, x.op ≠ .sleep d) → time 1 = time 0)
    (hl : Swift (fun k => time (k + 1)) log) : Swift time (x :: log) := by
  intro k y hy hn
  cases k with
  | zero =>
    obtain rfl := Option.some.inj hy
    exact hx hn
  | succ k => exact hl k y hy hn

theorem Swift.eq (h : Swift time log) (hn : ∀ x ∈ log, ∀ d, x.op ≠ .sleep d) :
    time log.length = time 0 := by
  induction log generalizing time with
  | nil => rfl
  | cons x log ih =>
    have hsplit : Swift time ([x] ++ log) := h
    obtain ⟨hx, hl⟩ := swift_append hsplit
    obtain ⟨hn, hr⟩ := List.forall_mem_cons.mp hn
    have hl : time (1 + log.length) = time 1 := ih hl hr
    have hx : time 1 = time 0 := hx 0 x rfl hn
    rw [List.length_cons, Nat.add_comm, hl, hx]

end Clocks

/-- What answers calls on a clock: its answers, and how long each takes, may depend on the moment
and on all earlier calls. -/
structure Driver where
  answer : Nat → Log → (op : Op) → Reply op
  spends : Nat → Log → Op → Nat

namespace Driver

variable (d : Driver)

def reply (t : Nat) (past : Log) : (op : Op) → Reply op
  | .now => t
  | op => d.answer t past op

def lasts (t : Nat) (past : Log) : Op → Nat
  | .now => 0
  | .sleep s => s.toNanos
  | op => d.spends t past op

/-- The log is what comes of calls that this driver answers, on a clock that shows these times. -/
def Drives (time : Nat → Nat) (past log : Log) : Prop :=
  ∀ (k : Nat) (x : Exchange), log[k]? = some x →
    x.reply = d.reply (time k) (past ++ log.take k) x.op ∧
    time (k + 1) = time k + d.lasts (time k) (past ++ log.take k) x.op

variable {d} {time : Nat → Nat} {past log : Log}

theorem Drives.clocked (h : d.Drives time past log) : Clocked time log := by
  intro k x hx
  obtain ⟨hr, ht⟩ := h k x hx
  obtain ⟨op, r⟩ := x
  cases op with
  | now => exact ⟨hr, ht⟩
  | sleep s => exact ht
  | _ => exact ht ▸ Nat.le_add_right _ _

theorem drives_nil : d.Drives time past [] := by
  intro k x hx
  simp at hx

theorem drives_cons_iff {x : Exchange} : d.Drives time past (x :: log) ↔
    (x.reply = d.reply (time 0) past x.op ∧ time 1 = time 0 + d.lasts (time 0) past x.op) ∧
      d.Drives (fun k => time (k + 1)) (past ++ [x]) log := by
  constructor
  · intro h
    refine ⟨by simpa using h 0 x rfl, fun k y hy => ?_⟩
    simpa using h (k + 1) y hy
  · rintro ⟨hx, hl⟩ k y hy
    cases k with
    | zero =>
      obtain rfl := Option.some.inj hy
      simpa using hx
    | succ k => simpa using hl k y hy

def clockFrom (start : Nat) (time : Nat → Nat) (k : Nat) : Nat :=
  if k = 0 then start else time (k - 1)

theorem exists_exec (d : Driver) (p : Job α) (start : Nat) (past : Log) :
    ∃ time log a, Exec p log a ∧ time 0 = start ∧ d.Drives time past log := by
  induction p generalizing start past with
  | done a => exact ⟨fun _ => start, [], a, .done a, rfl, drives_nil⟩
  | ask op next ih =>
    obtain ⟨time, log, a, he, h0, hd⟩ := ih (d.reply start past op)
      (start + d.lasts start past op) (past ++ [⟨op, d.reply start past op⟩])
    refine ⟨clockFrom start time, ⟨op, d.reply start past op⟩ :: log, a, .ask _ he, rfl, ?_⟩
    exact drives_cons_iff.mpr ⟨⟨rfl, h0⟩, hd⟩

/-- An attempt comes to its end with every driver. -/
theorem exists_ends (d : Driver) (a : Attempt τ) (start : Nat) : ∃ time log r,
    Ends a log r ∧ time 0 = start ∧ d.Drives time [] log := d.exists_exec a.run start []

theorem Drives.unique {p : Job α} {first second : Log} {a b : α} {time' : Nat → Nat}
    (hp : Exec p first a) (hq : Exec p second b) (hd : d.Drives time past first)
    (hd' : d.Drives time' past second) (h0 : time 0 = time' 0) :
    first = second ∧ a = b ∧ time first.length = time' second.length := by
  induction hp generalizing second past time time' with
  | done a =>
    obtain ⟨rfl, rfl⟩ := (Prog.exec_done_iff _ _).mp hq
    exact ⟨rfl, rfl, h0⟩
  | ask r _ ih =>
    obtain ⟨r', rest, rfl, hrest⟩ := (Prog.exec_ask_iff _ _ _).mp hq
    obtain ⟨⟨hr, ht⟩, hd⟩ := drives_cons_iff.mp hd
    obtain ⟨⟨hr', ht'⟩, hd'⟩ := drives_cons_iff.mp hd'
    rw [← h0] at hr' ht'
    have heq : r = r' := hr.trans hr'.symm
    subst heq
    obtain ⟨rfl, rfl, hl⟩ := ih hrest hd hd' (ht.trans ht'.symm)
    exact ⟨rfl, rfl, hl⟩

/-- The driver brings the attempt to this end, from one moment to the other and after calls that
were made before. -/
def Brings (d : Driver) (start : Nat) (past : Log) (a : Attempt τ) (log : Log) (stop : Nat)
    (r : Except FlowError τ) : Prop :=
  ∃ time, Ends a log r ∧ d.Drives time past log ∧ time 0 = start ∧ time log.length = stop

theorem exists_brings (d : Driver) (start : Nat) (past : Log) (a : Attempt τ) :
    ∃ log stop r, d.Brings start past a log stop r := by
  obtain ⟨time, log, r, he, h0, hd⟩ := d.exists_exec a.run start past
  exact ⟨log, _, r, time, he, hd, h0, rfl⟩

theorem Brings.unique {a : Attempt τ} {start stop stop' : Nat} {log' : Log}
    {r r' : Except FlowError τ} (h : d.Brings start past a log stop r)
    (h' : d.Brings start past a log' stop' r') : log = log' ∧ stop = stop' ∧ r = r' := by
  obtain ⟨time, he, hd, rfl, rfl⟩ := h
  obtain ⟨time', he', hd', h0, rfl⟩ := h'
  obtain ⟨hlog, hr, hstop⟩ := Drives.unique he he' hd hd' h0.symm
  exact ⟨hlog, hstop, hr⟩

end Driver
end Engine

namespace Locator

open Engine

/-- A poll that was not ready, and what the clock then showed. -/
structure Miss where
  log : Log
  stop : Nat

def Miss.calls (deadline : Nat) (m : Miss) : Log :=
  m.log ++ [⟨.now, m.stop⟩, ⟨.sleep (.ofNanos (min interval (deadline - m.stop))), ()⟩]

/-- The poll was not ready, and there was time for another. -/
def Miss.Goes (check : Attempt (Option τ)) (deadline : Nat) (m : Miss) : Prop :=
  Ends check m.log (.ok none) ∧ m.stop < deadline

def opening (start deadline : Nat) (misses : List Miss) : Log :=
  ⟨.now, start⟩ :: misses.flatMap (Miss.calls deadline)

section Waits

variable {check : Attempt (Option τ)} {deadline : Nat} {left : Nat} {log : Log}
  {r : Except FlowError (Option τ)}

/-- How polling goes on any clock: some polls are not ready, and the last one decides, or comes too
late for another, or is the last that the bound allows. -/
theorem ends_pollUntil (h : Ends (pollUntil check deadline left) log r) :
    ∃ (misses : List Miss) (last : Log), (∀ m ∈ misses, m.Goes check deadline) ∧
      Ends check last r ∧
      ((log = misses.flatMap (Miss.calls deadline) ++ last ∧
          (r = .ok none → misses.length = left)) ∨
        ∃ t, log = misses.flatMap (Miss.calls deadline) ++ last ++ [⟨.now, t⟩] ∧
          r = .ok none ∧ deadline ≤ t) := by
  induction left generalizing log with
  | zero => exact ⟨[], log, by simp, h, Or.inl ⟨rfl, fun _ => rfl⟩⟩
  | succ left ih =>
    rcases (ends_bind_iff check _ _).mp h with ⟨e, rfl, he⟩ | ⟨first, v, rest, rfl, hv, hr⟩
    · exact ⟨[], log, by simp, he, Or.inl ⟨rfl, nofun⟩⟩
    cases v with
    | some v =>
      obtain ⟨rfl, rfl⟩ := (ends_pure_iff _ _).mp hr
      exact ⟨[], first, by simp, hv, Or.inl ⟨by simp, nofun⟩⟩
    | none =>
      obtain ⟨t, _, rfl, ht⟩ := (ends_call_bind_iff .now _ _).mp hr
      by_cases hd : deadline ≤ t
      · rw [if_pos hd] at ht
        obtain ⟨rfl, rfl⟩ := (ends_pure_iff _ _).mp ht
        exact ⟨[], first, by simp, hv, Or.inr ⟨t, by simp, rfl, hd⟩⟩
      · rw [if_neg hd] at ht
        obtain ⟨⟨⟩, more, rfl, hm⟩ := (ends_call_bind_iff (.sleep _) _ _).mp ht
        obtain ⟨misses, last, hg, hlast, hlog⟩ := ih hm
        have hfirst : Miss.Goes check deadline ⟨first, t⟩ := ⟨hv, Nat.lt_of_not_le hd⟩
        refine ⟨⟨first, t⟩ :: misses, last, List.forall_mem_cons.mpr ⟨hfirst, hg⟩, hlast, ?_⟩
        rcases hlog with ⟨rfl, hn⟩ | ⟨t', rfl, hn, hd⟩
        · exact Or.inl ⟨by simp [Miss.calls], fun hr => congrArg Nat.succ (hn hr)⟩
        · exact Or.inr ⟨t', by simp [Miss.calls], hn, hd⟩

theorem waitFor_polls {timeout : Duration} (h : Ends (waitFor check timeout) log r) :
    ∃ (start : Nat) (misses : List Miss) (last : Log),
      (∀ m ∈ misses, m.Goes check (start + timeout.toNanos)) ∧ Ends check last r ∧
      ((log = opening start (start + timeout.toNanos) misses ++ last ∧
          (r = .ok none → misses.length = pollBound timeout)) ∨
        ∃ t, log = opening start (start + timeout.toNanos) misses ++ last ++ [⟨.now, t⟩] ∧
          r = .ok none ∧ start + timeout.toNanos ≤ t) := by
  obtain ⟨start, rest, rfl, hrest⟩ := (ends_call_bind_iff .now _ _).mp h
  obtain ⟨misses, last, hg, hlast, ⟨rfl, hn⟩ | ⟨t, rfl, hr, ht⟩⟩ := ends_pollUntil hrest
  · exact ⟨start, misses, last, hg, hlast, Or.inl ⟨rfl, hn⟩⟩
  · exact ⟨start, misses, last, hg, hlast, Or.inr ⟨t, rfl, hr, ht⟩⟩

theorem waitFor_last {timeout : Duration} (h : Ends (waitFor check timeout) log r) :
    ∃ before last after, log = before ++ last ++ after ∧ Ends check last r ∧
      (r ≠ .ok none → after = []) := by
  obtain ⟨start, misses, last, -, hlast, ⟨rfl, -⟩ | ⟨t, rfl, hr, -⟩⟩ := waitFor_polls h
  · exact ⟨_, last, [], (List.append_nil _).symm, hlast, fun _ => rfl⟩
  · exact ⟨_, last, [⟨.now, t⟩], rfl, hlast, fun hn => absurd hr hn⟩

end Waits

section Times

variable {time : Nat → Nat} {deadline timeout : Nat} {m : Miss} {misses : List Miss}

theorem Miss.next_start (hc : Clocked time (m.calls deadline)) :
    Clocked time m.log ∧ time m.log.length = m.stop ∧
      time (m.calls deadline).length = m.stop + min interval (deadline - m.stop) := by
  have hlength : (m.calls deadline).length = m.log.length + 2 := by simp [calls]
  have hsmall : min interval (deadline - m.stop) < 2 ^ 64 * 10 ^ 9 := by
    have hi : interval < 2 ^ 64 * 10 ^ 9 := by decide
    omega
  obtain ⟨hl, hn⟩ := clocked_append_iff.mp hc
  have hnow : m.stop = time m.log.length ∧ time (m.log.length + 1) = time m.log.length := hn 0 _ rfl
  have hsleep : time (m.log.length + 2) = time (m.log.length + 1) + Duration.toNanos _ := hn 1 _ rfl
  obtain ⟨hseen, hstop⟩ := hnow
  rw [hstop, ← hseen, Duration.toNanos_ofNanos hsmall] at hsleep
  exact ⟨hl, hseen.symm, by rw [hlength, hsleep]⟩

/-- No poll starts after the deadline, and before it they lie an interval or more apart. So there is
an end to polls that are not ready. -/
theorem start_bounds (hg : ∀ m ∈ misses, m.stop < deadline)
    (hc : Clocked time (misses.flatMap (Miss.calls deadline))) (h0 : time 0 ≤ deadline) :
    time (misses.flatMap (Miss.calls deadline)).length ≤ deadline ∧
      min (time 0 + misses.length * interval) deadline ≤
        time (misses.flatMap (Miss.calls deadline)).length ∧
      time 0 + misses.length * interval < deadline + interval := by
  have hi : 0 < interval := by decide
  induction misses generalizing time with
  | nil =>
    simpa using And.intro h0 (Nat.lt_of_le_of_lt h0 (Nat.lt_add_of_pos_right hi))
  | cons m rest ih =>
    obtain ⟨hlt, hrest⟩ := List.forall_mem_cons.mp hg
    obtain ⟨hfirst, hcrest⟩ := clocked_append_iff.mp hc
    obtain ⟨hl, hstop, hnext⟩ := Miss.next_start hfirst
    have hle : time 0 ≤ m.stop := hstop ▸ hl.le
    have hin : time (m.calls deadline).length ≤ deadline := by omega
    have h := ih hrest hcrest hin
    simp only [Nat.add_zero] at h
    have hp : rest.length * interval = 0 ∨ interval ≤ rest.length * interval := by
      cases rest with
      | nil => exact Or.inl (Nat.zero_mul _)
      | cons => exact Or.inr (Nat.le_mul_of_pos_left _ (Nat.succ_pos _))
    rw [List.flatMap_cons, List.length_append, List.length_cons, Nat.succ_mul]
    generalize time (m.calls deadline).length = next at *
    generalize rest.length * interval = passed at *
    generalize interval = i at *
    omega

theorem start_eq (hg : ∀ m ∈ misses, m.stop < deadline)
    (hs : ∀ m ∈ misses, ∀ x ∈ m.log, ∀ d, x.op ≠ .sleep d)
    (hc : Clocked time (misses.flatMap (Miss.calls deadline)))
    (hw : Swift time (misses.flatMap (Miss.calls deadline))) (h0 : time 0 ≤ deadline) :
    time (misses.flatMap (Miss.calls deadline)).length =
      min (time 0 + misses.length * interval) deadline := by
  induction misses generalizing time with
  | nil => simp [h0]
  | cons m rest ih =>
    obtain ⟨hlt, hrest⟩ := List.forall_mem_cons.mp hg
    obtain ⟨hm, hsrest⟩ := List.forall_mem_cons.mp hs
    obtain ⟨hfirst, hcrest⟩ := clocked_append_iff.mp hc
    obtain ⟨hwfirst, hwrest⟩ := swift_append hw
    obtain ⟨hl, hstop, hnext⟩ := Miss.next_start hfirst
    have heq : time m.log.length = time 0 := (swift_append hwfirst).1.eq hm
    have hin : time (m.calls deadline).length ≤ deadline := by omega
    have h := ih hrest hsrest hcrest hwrest hin
    simp only [Nat.add_zero] at h
    rw [List.flatMap_cons, List.length_append, List.length_cons, Nat.succ_mul, h]
    generalize time (m.calls deadline).length = next at *
    generalize rest.length * interval = passed
    generalize interval = i at *
    omega

theorem opening_take (start : Nat) (misses : List Miss) (k : Nat) :
    opening start deadline misses = opening start deadline (misses.take k) ++
      (misses.drop k).flatMap (Miss.calls deadline) := by
  have hall : misses.flatMap (Miss.calls deadline) =
      (misses.take k).flatMap (Miss.calls deadline) ++
        (misses.drop k).flatMap (Miss.calls deadline) := by
    rw [← List.flatMap_append, List.take_append_drop]
  rw [opening, hall]
  rfl

theorem clocked_opening {start : Nat} (hc : Clocked time (opening start deadline misses)) :
    start = time 0 ∧ time (0 + 1) = time 0 ∧
      Clocked (fun k => time (k + 1)) (misses.flatMap (Miss.calls deadline)) := by
  obtain ⟨hnow, hrest⟩ := clocked_cons_iff.mp hc
  exact ⟨hnow.1, hnow.2, hrest⟩

theorem opening_bounds (hg : ∀ m ∈ misses, m.stop < time 0 + timeout)
    (hc : Clocked time (opening (time 0) (time 0 + timeout) misses)) :
    time (opening (time 0) (time 0 + timeout) misses).length ≤ time 0 + timeout ∧
      time 0 + min (misses.length * interval) timeout ≤
        time (opening (time 0) (time 0 + timeout) misses).length ∧
      misses.length * interval < timeout + interval := by
  obtain ⟨-, h0, hpolls⟩ := clocked_opening hc
  have hle : time (0 + 1) ≤ time 0 + timeout := h0 ▸ Nat.le_add_right _ _
  obtain ⟨hin, hmin, hroom⟩ := start_bounds hg hpolls hle
  rw [h0] at hmin hroom
  refine ⟨hin, ?_, by omega⟩
  rw [← Nat.add_min_add_left]
  exact hmin

theorem opening_eq (hg : ∀ m ∈ misses, m.stop < time 0 + timeout)
    (hs : ∀ m ∈ misses, ∀ x ∈ m.log, ∀ d, x.op ≠ .sleep d)
    (hc : Clocked time (opening (time 0) (time 0 + timeout) misses))
    (hw : Swift time (opening (time 0) (time 0 + timeout) misses)) :
    time (opening (time 0) (time 0 + timeout) misses).length =
      time 0 + min (misses.length * interval) timeout := by
  obtain ⟨-, h0, hpolls⟩ := clocked_opening hc
  have hle : time (0 + 1) ≤ time 0 + timeout := h0 ▸ Nat.le_add_right _ _
  have hswift : Swift (fun k => time (k + 1)) (misses.flatMap _) := fun k x hx => hw (k + 1) x hx
  have hstart := start_eq hg hs hpolls hswift hle
  rw [h0, Nat.add_min_add_left] at hstart
  exact hstart

/-- When the polls of a wait start, those that were not ready and the one after them. -/
structure Timed (time : Nat → Nat) (timeout : Nat) (misses : List Miss) : Prop where
  bounded : misses.length ≤ timeout ⌈/⌉ interval
  inTime : ∀ k ≤ misses.length,
    time (opening (time 0) (time 0 + timeout) (misses.take k)).length ≤ time 0 + timeout
  full : misses.length = timeout ⌈/⌉ interval →
    time (opening (time 0) (time 0 + timeout) misses).length = time 0 + timeout
  swift : Swift time (opening (time 0) (time 0 + timeout) misses) → ∀ k ≤ misses.length,
    time (opening (time 0) (time 0 + timeout) (misses.take k)).length =
      time 0 + min (k * interval) timeout

/-- Polls that are not ready keep to these times on any clock, without a bound on their number. -/
theorem timed (hg : ∀ m ∈ misses, m.stop < time 0 + timeout)
    (hs : ∀ m ∈ misses, ∀ x ∈ m.log, ∀ d, x.op ≠ .sleep d)
    (hc : Clocked time (opening (time 0) (time 0 + timeout) misses)) :
    Timed time timeout misses := by
  have hi : 0 < interval := by decide
  obtain ⟨hin, hmin, hroom⟩ := opening_bounds hg hc
  have hfirst (k : Nat) : ∀ m ∈ misses.take k, m ∈ misses := fun m => List.mem_of_mem_take
  have hclock (k : Nat) : Clocked time (opening (time 0) (time 0 + timeout) (misses.take k)) := by
    rw [opening_take (time 0) misses k] at hc
    exact (clocked_append_iff.mp hc).1
  constructor
  case bounded =>
    refine (Nat.le_div_iff_mul_le hi).mpr ?_
    generalize misses.length * interval = passed at *
    generalize interval = i at *
    omega
  case inTime =>
    intro k _
    exact (opening_bounds (fun m hm => hg m (hfirst k m hm)) (hclock k)).1
  case full =>
    intro hn
    have hlong : timeout ≤ misses.length * interval := by
      rw [Nat.mul_comm]
      exact (ceilDiv_le_iff_le_mul hi).mp (Nat.le_of_eq hn.symm)
    rw [Nat.min_eq_right hlong] at hmin
    exact Nat.le_antisymm hin hmin
  case swift =>
    intro hw k hk
    rw [opening_take (time 0) misses k] at hw
    have heq := opening_eq (fun m hm => hg m (hfirst k m hm)) (fun m hm => hs m (hfirst k m hm))
      (hclock k) (swift_append hw).1
    rwa [List.length_take_of_le hk] at heq

theorem Timed.length_eq (h : Timed time timeout misses)
    (hd : timeout ≤ misses.length * interval) : misses.length = timeout ⌈/⌉ interval := by
  rw [Nat.mul_comm] at hd
  exact Nat.le_antisymm h.bounded ((ceilDiv_le_iff_le_mul (by decide)).mpr hd)

/-- How a wait goes on a clock: a check that yields something ends it, as an error does, and without
one it ends when the deadline has come, never because of the bound on repetitions. -/
theorem ends_waitFor {check : Attempt (Option τ)} {timeout : Duration} {log : Log}
    {r : Except FlowError (Option τ)} (h : Ends (waitFor check timeout) log r)
    (hs : AsksOnly (fun op => ∀ d, op ≠ .sleep d) check) (hc : Clocked time log) :
    ∃ misses last, (∀ m ∈ misses, m.Goes check (time 0 + timeout.toNanos)) ∧
      Timed time timeout.toNanos misses ∧ Ends check last r ∧
      ((r ≠ .ok none ∧ log = opening (time 0) (time 0 + timeout.toNanos) misses ++ last) ∨
        (r = .ok none ∧ ∃ looks : Log, (∀ x ∈ looks, x.op = .now) ∧
          log = opening (time 0) (time 0 + timeout.toNanos) misses ++ last ++ looks ∧
          time 0 + timeout.toNanos ≤ time log.length ∧
          (Swift time log → misses.length = timeout.toNanos ⌈/⌉ interval))) := by
  obtain ⟨start, misses, last, hg, hlast, hlog⟩ := waitFor_polls h
  have hquiet : ∀ m ∈ misses, ∀ x ∈ m.log, ∀ d, x.op ≠ .sleep d :=
    fun m hm => (hs _ _ (hg m hm).1).1
  have hopened (hopen : Clocked time (opening start (start + timeout.toNanos) misses)) :
      start = time 0 ∧ Timed time timeout.toNanos misses := by
    obtain rfl := (clocked_opening hopen).1
    exact ⟨rfl, timed (fun m hm => (hg m hm).2) hquiet hopen⟩
  rcases hlog with ⟨rfl, hn⟩ | ⟨t, rfl, hr, ht⟩
  · obtain ⟨hopen, hpoll⟩ := clocked_append_iff.mp hc
    obtain ⟨rfl, htimed⟩ := hopened hopen
    refine ⟨misses, last, hg, htimed, hlast, ?_⟩
    by_cases hr : r = .ok none
    · have hd := hpoll.le
      rw [Nat.add_zero, htimed.full (hn hr), ← List.length_append] at hd
      exact Or.inr ⟨hr, [], List.forall_mem_nil _, (List.append_nil _).symm, hd, fun _ => hn hr⟩
    · exact Or.inl ⟨hr, rfl⟩
  · obtain ⟨hfirst, hlook⟩ := clocked_append_iff.mp hc
    obtain ⟨hopen, -⟩ := clocked_append_iff.mp hfirst
    obtain ⟨rfl, htimed⟩ := hopened hopen
    obtain ⟨hseen, hstill⟩ := clocked_singleton_iff.mp hlook
    have hd : time 0 + timeout.toNanos ≤
        time (opening (time 0) (time 0 + timeout.toNanos) misses ++ last).length := hseen ▸ ht
    refine ⟨misses, last, hg, htimed, hlast, Or.inr ⟨hr, [⟨.now, t⟩], by simp, rfl, ?_, ?_⟩⟩
    · rw [List.length_append, List.length_singleton, hstill]
      exact hd
    · intro hswift
      obtain ⟨hopen', hpoll'⟩ := swift_append (swift_append hswift).1
      have hstart := htimed.swift hopen' misses.length (Nat.le_refl _)
      have hquick := hpoll'.eq (hs last r hlast).1
      rw [List.take_length] at hstart
      rw [List.length_append, hquick, Nat.add_zero, hstart] at hd
      refine htimed.length_eq ?_
      generalize misses.length * interval = passed at *
      omega

end Times

/-- A call of a wait: a look at the clock, a sleep, or a query that is answered so. -/
inductive Waits (root : Root) (kind : SelectorKind) (selector : String)
    (answered : Answer (List Element) → Prop) : Exchange → Prop
  | now (t) : Waits root kind selector answered ⟨.now, t⟩
  | sleep (d) : Waits root kind selector answered ⟨.sleep d, ()⟩
  | query {answer} : answered answer →
      Waits root kind selector answered ⟨.query root kind selector, answer⟩

/-- The check is one query, of which the answer tells what it yields. -/
def Peeks (check : Attempt (Option τ)) (root : Root) (kind : SelectorKind) (selector : String)
    (judge : Answer (List Element) → Option τ) : Prop :=
  ∀ log r, Ends check log r →
    ∃ answer, log = [⟨.query root kind selector, answer⟩] ∧ r = .ok (judge answer)

/-- How a wait for such a check goes: up to the first query that yields something, or without any
that does. -/
inductive Decided (root : Root) (kind : SelectorKind) (selector : String)
    (judge : Answer (List Element) → Option τ) : Log → Option τ → Prop
  | yields {before answer v} :
      (∀ x ∈ before, Waits root kind selector (judge · = none) x) → judge answer = some v →
      Decided root kind selector judge (before ++ [⟨.query root kind selector, answer⟩]) (some v)
  | nothing {log answer} : (∀ x ∈ log, Waits root kind selector (judge · = none) x) →
      (⟨.query root kind selector, answer⟩ : Exchange) ∈ log →
      Decided root kind selector judge log none

section Queries

variable {check : Attempt (Option τ)} {root : Root} {kind : SelectorKind} {selector : String}
  {judge : Answer (List Element) → Option τ} {log : Log} {deadline : Nat}

theorem Peeks.no_sleep (hp : Peeks check root kind selector judge) :
    AsksOnly (fun op => ∀ d, op ≠ .sleep d) check := by
  intro log r h
  obtain ⟨answer, rfl, -⟩ := hp _ _ h
  exact ⟨by simp, fun _ _ => trivial⟩

theorem Peeks.miss (hp : Peeks check root kind selector judge) {m : Miss}
    (h : m.Goes check deadline) :
    ∃ answer, m.log = [⟨.query root kind selector, answer⟩] ∧ judge answer = none := by
  obtain ⟨answer, hlog, hr⟩ := hp _ _ h.1
  exact ⟨answer, hlog, (Except.ok.inj hr).symm⟩

theorem Peeks.waits_opening (hp : Peeks check root kind selector judge) (start : Nat)
    {misses : List Miss} (hg : ∀ m ∈ misses, m.Goes check deadline) :
    ∀ x ∈ opening start deadline misses, Waits root kind selector (judge · = none) x := by
  refine List.forall_mem_cons.mpr ⟨.now start, fun x hx => ?_⟩
  obtain ⟨m, hm, hx⟩ := List.mem_flatMap.mp hx
  obtain ⟨answer, hlog, hnone⟩ := hp.miss (hg m hm)
  simp only [Miss.calls, hlog, List.cons_append, List.nil_append, List.mem_cons,
    List.not_mem_nil, or_false] at hx
  rcases hx with rfl | rfl | rfl
  · exact .query hnone
  · exact .now _
  · exact .sleep _

/-- The first query that yields something decides a wait, and without one it yields nothing. -/
theorem Peeks.decided (hp : Peeks check root kind selector judge) {timeout : Duration}
    {r : Except FlowError (Option τ)} (h : Ends (waitFor check timeout) log r) :
    ∃ o, r = .ok o ∧ Decided root kind selector judge log o := by
  obtain ⟨start, misses, last, hg, hlast, hlog⟩ := waitFor_polls h
  obtain ⟨answer, rfl, rfl⟩ := hp _ _ hlast
  refine ⟨_, rfl, ?_⟩
  have hopen := hp.waits_opening start hg
  cases hjudge : judge answer with
  | some v =>
    rcases hlog with ⟨rfl, -⟩ | ⟨t, -, hr, -⟩
    · exact .yields hopen hjudge
    · rw [hjudge] at hr
      cases hr
  | none =>
    have hfront : ∀ x ∈ opening start (start + timeout.toNanos) misses ++
        [⟨.query root kind selector, answer⟩], Waits root kind selector (judge · = none) x :=
      List.forall_mem_append.mpr ⟨hopen, List.forall_mem_singleton.mpr (.query hjudge)⟩
    have hmem := List.mem_append_right (opening start (start + timeout.toNanos) misses)
      (List.mem_singleton_self (⟨.query root kind selector, answer⟩ : Exchange))
    rcases hlog with ⟨rfl, -⟩ | ⟨t, rfl, -, -⟩
    · exact .nothing hfront hmem
    · exact .nothing (List.forall_mem_append.mpr
        ⟨hfront, List.forall_mem_singleton.mpr (.now t)⟩) (List.mem_append_left _ hmem)

end Queries
end Locator
end PageFlow
