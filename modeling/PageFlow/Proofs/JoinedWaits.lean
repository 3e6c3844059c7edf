import Mathlib.Data.Fin.VecNotation
import PageFlow.Proofs.LoadWaits

/-! Waits for a load side by side. Their calls are woven into one log: each probe is that of one
wait, but several may read the clock or pause at once. What the log holds of a wait is how it goes
alone, and after the end of the last wait there is nothing left. -/
namespace PageFlow
namespace Chromium

open DevTools
open Prog (Exec)

/-- The call reads the clock or lets time pass. -/
def Op.isOfClock : Op → Bool
  | .now | .sleep _ => true
  | _ => false

/-- The log is made of the parts: every call of it is the next one of a part, and of that part only,
unless it is a call to the clock. -/
inductive Weaves {ι : Type} : Log → (ι → Log) → Prop
  | nil : Weaves [] fun _ => []
  | cons {whole parts i} (x : Exchange) (who : ι → Bool) : who i = true →
      (x.op.isOfClock = true ∨ ∀ j, who j = true → j = i) → Weaves whole parts →
      Weaves (x :: whole) fun j => if who j then x :: parts j else parts j

namespace Weaves

variable {ι : Type} {whole more : Log} {parts others : ι → Log}

theorem append (h : Weaves whole parts) (ho : Weaves more others) :
    Weaves (whole ++ more) fun i => parts i ++ others i := by
  induction h with
  | nil => exact ho
  | @cons whole parts i x who hi hone _ ih =>
    have hparts : (fun j => (if who j then x :: parts j else parts j) ++ others j) =
        fun j => if who j then x :: (parts j ++ others j) else parts j ++ others j := by
      funext j
      split <;> rfl
    rw [hparts]
    exact .cons x who hi hone ih

theorem block {i : ι} {log : Log} (who : ι → Bool) (hi : who i = true)
    (h : ∀ x ∈ log, x.op.isOfClock = true ∨ ∀ j, who j = true → j = i) :
    Weaves log fun j => if who j then log else [] := by
  induction log with
  | nil => simpa using Weaves.nil (ι := ι)
  | cons x rest ih =>
    obtain ⟨hx, hrest⟩ := List.forall_mem_cons.mp h
    have hparts : (fun j => if who j then x :: rest else []) = fun j =>
        if who j then x :: (if who j then rest else []) else if who j then rest else [] := by
      funext j
      split <;> rfl
    rw [hparts]
    exact .cons x who hi hx (ih hrest)

theorem inTurn (parts : Fin 3 → Log) : Weaves (parts 0 ++ (parts 1 ++ parts 2)) parts := by
  have hone (i : Fin 3) : Weaves (parts i) fun j => if decide (j = i) then parts i else [] :=
    block (· = i) (decide_eq_true rfl) fun _ _ => Or.inr fun _ hj => of_decide_eq_true hj
  have hall := (hone 0).append ((hone 1).append (hone 2))
  convert hall using 1
  funext i
  match i with
  | 0 | 1 | 2 => simp

theorem sublist (h : Weaves whole parts) (i : ι) : (parts i).Sublist whole := by
  induction h with
  | nil => exact .slnil
  | cons x who _ _ _ ih =>
    dsimp only
    split
    · exact ih.cons_cons x
    · exact ih.cons x

end Weaves

section Clock

variable {t t' : Nat} {x : Exchange} {sub log : Log}

theorem Ticks.of_le (h : Ticks t' log) (ht : t ≤ t') : Ticks t log := by
  induction log generalizing t t' with
  | nil => trivial
  | cons x rest ih =>
    obtain ⟨op, reply⟩ := x
    cases op with
    | now => exact ⟨ht.trans h.1, h.2⟩
    | sleep d => exact ih h (Nat.add_le_add_right ht _)
    | _ => exact ih h ht

theorem Ticks.tail (h : Ticks t (x :: log)) : Ticks t log := by
  obtain ⟨op, reply⟩ := x
  cases op with
  | now => exact Ticks.of_le h.2 h.1
  | sleep d => exact Ticks.of_le h (Nat.le_add_right _ _)
  | _ => exact h

theorem Ticks.sublist (h : Ticks t log) (hs : sub.Sublist log) : Ticks t sub := by
  induction hs generalizing t with
  | slnil => trivial
  | cons x _ ih => exact ih h.tail
  | cons_cons x _ ih =>
    obtain ⟨op, reply⟩ := x
    cases op with
    | now => exact ⟨h.1, ih h.2⟩
    | sleep d => exact ih (t := t + d.toNanos) h
    | _ => exact ih (t := t) h

end Clock

section Joined

variable {p : Page} {state : LoadState} {deadline left : Nat} {paused tail log : Log} {w : Watch}
  {again : Bool} {answer : Engine.Answer Unit}

theorem exec_carryOn_again (hp : w.isLooking = true → Exec (pause deadline) paused true)
    (ht : Exec (watchLoad p state deadline (left + 1) w) tail answer) :
    Exec (carryOn p state deadline (left + 1) w) ((if w.isLooking then paused else []) ++ tail)
      answer := by
  cases w with
  | looking q => exact (hp rfl).bind ht
  | stuck stop r => exact ht
  | ended r => exact ht

theorem exec_carryOn_finish {again : Bool}
    (hp : w.isLooking = true → Exec (pause deadline) paused again) (hlast : again = true → left = 0)
    (ht : Exec (w.finish state) tail answer) :
    Exec (carryOn p state deadline left w) ((if w.isLooking then paused else []) ++ tail)
      answer := by
  cases w with
  | looking q =>
    refine (hp rfl).bind ?_
    cases again with
    | false => exact ht
    | true =>
      rw [hlast rfl]
      exact ht
  | stuck stop r => exact ht
  | ended r => exact ht

theorem isOfClock_of_pause {again : Bool} {x : Exchange} (h : Exec (pause deadline) paused again)
    (hx : x ∈ paused) : x.op.isOfClock = true := by
  obtain ⟨t, ⟨-, rfl, -⟩ | ⟨-, rfl, -⟩⟩ := exec_pause_iff.mp h
  all_goals
    simp only [List.mem_cons, List.not_mem_nil, or_false] at hx
    rcases hx with rfl | rfl <;> rfl

variable {s : Fin 3 → LoadState} {w : Fin 3 → Watch} {r : Fin 3 → Engine.Answer Unit}

/-- A round is a probe of each wait that looks, and a pause that those have in common that go on
looking. -/
theorem exec_probeAll {o : Bool × Watch × Watch × Watch}
    (h : Exec (probeAll p (s 0) (s 1) (s 2) deadline (w 0) (w 1) (w 2)) log o) :
    ∃ (w' : Fin 3 → Watch) (probes : Fin 3 → Log) (paused : Log), o.2 = (w' 0, w' 1, w' 2) ∧
      Weaves log (fun i => probes i ++ if (w' i).isLooking then paused else []) ∧
      (∀ i, Exec ((w i).advance p (s i) deadline) (probes i) (w' i)) ∧
      ∀ i, (w' i).isLooking = true → Exec (pause deadline) paused o.1 := by
  simp only [probeAll, Prog.exec_bind_iff] at h
  obtain ⟨first, a, _, rfl, ha, second, b, _, rfl, hb, third, c, _, rfl, hc, paused, again, _, rfl,
    hp, hend⟩ := h
  obtain ⟨rfl, rfl⟩ := (Prog.exec_done_iff _ _).mp hend
  have hprobes := Weaves.inTurn ![first, second, third]
  have hadvance (i : Fin 3) : Exec ((w i).advance p (s i) deadline) (![first, second, third] i)
      (![a, b, c] i) := by
    match i with
    | 0 => exact ha
    | 1 => exact hb
    | 2 => exact hc
  have hlog : first ++ (second ++ (third ++ (paused ++ []))) =
      first ++ (second ++ third) ++ paused := by simp
  have hlooking : (a.isLooking || b.isLooking || c.isLooking) = true ↔
      ∃ i, (![a, b, c] i).isLooking = true := by
    simp [Fin.exists_fin_succ, or_assoc]
  rw [hlog]
  split at hp
  case isTrue hlook =>
    obtain ⟨i, hi⟩ := hlooking.mp hlook
    have hpaused : Weaves paused fun j => if (![a, b, c] j).isLooking then paused else [] :=
      .block (fun j => (![a, b, c] j).isLooking) hi fun x hx => Or.inl (isOfClock_of_pause hp hx)
    exact ⟨![a, b, c], _, paused, rfl, hprobes.append hpaused, hadvance, fun _ _ => hp⟩
  case isFalse hlook =>
    obtain ⟨rfl, rfl⟩ := (Prog.exec_done_iff _ _).mp hp
    have hnone (i : Fin 3) : ¬ (![a, b, c] i).isLooking = true := fun hi =>
      hlook (hlooking.mpr ⟨i, hi⟩)
    refine ⟨![a, b, c], ![first, second, third], [], rfl, ?_, hadvance,
      fun i hi => absurd hi (hnone i)⟩
    simpa [hnone] using hprobes

theorem exec_finishAll
    (h : Exec (finishAll (s 0) (s 1) (s 2) (w 0) (w 1) (w 2)) log (r 0, r 1, r 2)) :
    ∃ parts, Weaves log parts ∧ ∀ i, Exec ((w i).finish (s i)) (parts i) (r i) := by
  simp only [finishAll, Prog.exec_bind_iff] at h
  obtain ⟨first, a, _, rfl, ha, second, b, _, rfl, hb, third, c, _, rfl, hc, hend⟩ := h
  obtain ⟨rfl, hr⟩ := (Prog.exec_done_iff _ _).mp hend
  simp only [Prod.mk.injEq] at hr
  obtain ⟨rfl, rfl, rfl⟩ := hr
  rw [List.append_nil]
  refine ⟨_, .inTurn ![first, second, third], fun i => ?_⟩
  match i with
  | 0 => exact ha
  | 1 => exact hb
  | 2 => exact hc

/-- A round, and what becomes of the waits after it. -/
theorem exec_round {w' : Fin 3 → Watch} {round rest : Log} {probes tails : Fin 3 → Log}
    (hround : Weaves round fun i => probes i ++ if (w' i).isLooking then paused else [])
    (hprobes : ∀ i, Exec ((w i).advance p (s i) deadline) (probes i) (w' i))
    (hrest : Weaves rest tails)
    (htails : ∀ i, Exec (carryOn p (s i) deadline left (w' i))
      ((if (w' i).isLooking then paused else []) ++ tails i) (r i)) :
    ∃ parts, Weaves (round ++ rest) parts ∧
      ∀ i, Exec (watchLoad p (s i) deadline (left + 1) (w i)) (parts i) (r i) := by
  refine ⟨_, hround.append hrest, fun i => ?_⟩
  rw [watchLoad_advance, List.append_assoc]
  exact (hprobes i).bind (htails i)

theorem exec_watchAll
    (h : Exec (watchAll p (s 0) (s 1) (s 2) deadline left (w 0) (w 1) (w 2)) log (r 0, r 1, r 2)) :
    ∃ parts, Weaves log parts ∧
      ∀ i, Exec (watchLoad p (s i) deadline (left + 1) (w i)) (parts i) (r i) := by
  -- A round leaves other waits than it starts from, so these must vary.
  induction left generalizing w log with
  | zero =>
    rw [watchAll, Prog.exec_bind_iff] at h
    obtain ⟨_, ⟨again, _⟩, _, rfl, hround, hrest⟩ := h
    obtain ⟨w', probes, paused, rfl, hweaves, hprobes, hpause⟩ := exec_probeAll hround
    obtain ⟨tails, hwoven, htails⟩ := exec_finishAll hrest
    exact exec_round hweaves hprobes hwoven fun i =>
      exec_carryOn_finish (hpause i) (fun _ => rfl) (htails i)
  | succ left ih =>
    rw [watchAll, Prog.exec_bind_iff] at h
    obtain ⟨_, ⟨again, _⟩, _, rfl, hround, hrest⟩ := h
    obtain ⟨w', probes, paused, rfl, hweaves, hprobes, hpause⟩ := exec_probeAll hround
    cases again with
    | true =>
      obtain ⟨tails, hwoven, htails⟩ := ih hrest
      exact exec_round hweaves hprobes hwoven fun i => exec_carryOn_again (hpause i) (htails i)
    | false =>
      obtain ⟨tails, hwoven, htails⟩ := exec_finishAll hrest
      exact exec_round hweaves hprobes hwoven fun i =>
        exec_carryOn_finish (hpause i) nofun (htails i)

/-- Waits side by side are single waits, woven together. -/
theorem exec_loads {timeout : Duration}
    (h : Exec (loads p (s 0) (s 1) (s 2) timeout) log (r 0, r 1, r 2)) :
    ∃ parts, Weaves log parts ∧ ∀ i, Exec (load p (s i) timeout) (parts i) (r i) := by
  obtain ⟨asked, _, rfl, hasked⟩ := exec_now_bind_iff.mp h
  obtain ⟨start, rest, rfl, hstart⟩ := exec_now_bind_iff.mp hasked
  obtain ⟨parts, hweaves, hparts⟩ := exec_watchAll (w := fun _ => .start start) hstart
  have hall (t : Nat) {whole : Log} {parts : Fin 3 → Log} (hw : Weaves whole parts) :
      Weaves (⟨.now, t⟩ :: whole) fun i => ⟨.now, t⟩ :: parts i :=
    .cons (i := 0) _ (fun _ => true) rfl (Or.inl rfl) hw
  refine ⟨_, hall _ (hall _ hweaves), fun i => ?_⟩
  exact exec_now_bind_iff.mpr ⟨asked, _, rfl, exec_now_bind_iff.mpr ⟨start, _, rfl, hparts i⟩⟩

/-- On a clock every wait makes looks of its own that do not show its milestone, and then ends by
itself: with a look that does, with a probe that fails, or with the deadline. No call follows the end
of the last wait, as every call is that of a wait. -/
theorem joined_waits_course {timeout : Duration} (hc : Ticks 0 log)
    (h : Exec (loads p (s 0) (s 1) (s 2) timeout) log (r 0, r 1, r 2)) :
    ∃ parts, Weaves log parts ∧ ∀ i, ∃ (asked start : Nat) (looks : Nat → Look) (n : Nat)
      (tail : Log), parts i = ⟨.now, asked⟩ :: ⟨.now, start⟩ :: rounds p looks n ++ tail ∧
        (∀ k < n, (looks k).asked < asked + timeout.toNanos ∧
          (looks k).paused + probeInterval ≤ asked + timeout.toNanos ∧
            ¬ Milestone looks k (s i)) ∧
        Closes p (s i) (asked + timeout.toNanos) (looks n) (Milestone looks n (s i)) tail
          (r i) := by
  obtain ⟨parts, hweaves, hparts⟩ := exec_loads h
  refine ⟨parts, hweaves, fun i => ?_⟩
  have hci : Ticks 0 (parts i) := hc.sublist (hweaves.sublist i)
  obtain ⟨asked, rest, hrest, hwait⟩ := exec_now_bind_iff.mp (hparts i)
  rw [hrest] at hci
  obtain ⟨start, looks, n, tail, rfl, hlooks, hcloses⟩ :=
    (exec_awaitLoad_iff hci.tail).mp hwait
  exact ⟨asked, start, looks, n, tail, hrest, hlooks, hcloses⟩

end Joined

end Chromium
end PageFlow
