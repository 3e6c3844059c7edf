import PageFlow.Proofs.Looks

/-! Waits for a milestone of a load. A wait looks at the page again and again, and ends with the
first look that shows the milestone, unless a probe fails before or there is no time for another. -/
namespace PageFlow
namespace Chromium

open DevTools
open Prog (Exec)

/-- What a probe makes of a wait: it hangs up to the deadline or until the patience ends, it fails
or is too late, or it is answered. That the connection is closed is noticed even when it is too
late. -/
inductive Probes (p : Page) (state : LoadState) (deadline : Nat) (q : Quiet) : Log → Watch → Prop
  | hung {asked} : deadline ≤ asked + patience →
      Probes p state deadline q (probing p asked none) (.stuck deadline (late state))
  | unanswered {asked} : asked + patience < deadline →
      Probes p state deadline q (probing p asked none)
        (.stuck (asked + patience) (.error (.script Fault.timedOut.text)))
  | failed {asked answer e} : evaluated answer = .error e →
      (asked < deadline ∨ answer = .error .gone) →
      Probes p state deadline q (probing p asked (some answer)) (.ended (.error e))
  | tooLate {asked answer} : deadline ≤ asked → answer ≠ .error .gone →
      Probes p state deadline q (probing p asked (some answer)) (.ended (late state))
  | answered {l : Look} : l.asked < deadline →
      Probes p state deadline q (l.calls p) (.observe state q l.probe l.seen)

/-- How a wait ends at a look: by the look itself, by a probe without an answer that counts, or
because there is no time for another one. A probe whose answer is not there when the deadline is
reached has hung, so a look that was asked for before the deadline counts whenever it is seen. -/
inductive Closes (p : Page) (state : LoadState) (deadline : Nat) (l : Look) (done : Prop) :
    Log → Engine.Answer Unit → Prop
  | reached : l.asked < deadline → done → Closes p state deadline l done (l.calls p) (.ok ())
  | failed {asked answer e} : evaluated answer = .error e →
      (asked < deadline ∨ answer = .error .gone) →
      Closes p state deadline l done (probing p asked (some answer)) (.error e)
  | tooLate {asked answer} : deadline ≤ asked → answer ≠ .error .gone →
      Closes p state deadline l done (probing p asked (some answer)) (late state)
  | hung {asked} {t : Nat} : deadline ≤ asked + patience →
      Closes p state deadline l done
        (probing p asked none ++ [⟨.now, t⟩, ⟨.sleep (.ofNanos (deadline - t)), ()⟩]) (late state)
  | unanswered {asked} {t : Nat} : asked + patience < deadline →
      Closes p state deadline l done
        (probing p asked none ++ [⟨.now, t⟩, ⟨.sleep (.ofNanos (asked + patience - t)), ()⟩])
        (.error (.script Fault.timedOut.text))
  | noTime : l.asked < deadline → ¬ done → deadline < l.paused + probeInterval →
      Closes p state deadline l done
        (l.calls p ++ [⟨.now, l.paused⟩, ⟨.sleep (.ofNanos (deadline - l.paused)), ()⟩])
        (late state)

def carryOn (p : Page) (state : LoadState) (deadline : Instant) (left : Nat) :
    Watch → Remote (Engine.Answer Unit)
  | .ended r => pure r
  | .stuck stop r => do
    sleepUntil stop
    pure r
  | .looking q => do
    if ← pause deadline then watchLoad p state deadline left (.looking q) else pure (late state)

section Waits

variable {p : Page} {state : LoadState} {deadline left : Nat} {q : Quiet} {log rest : Log}
  {w : Watch} {r : Engine.Answer Unit} {l : Look} {looks : Nat → Look} {n : Nat}

theorem watchLoad_advance : watchLoad p state deadline (left + 1) w =
    w.advance p state deadline >>= carryOn p state deadline left := by
  rw [watchLoad]
  rfl

theorem watchLoad_succ : watchLoad p state deadline (left + 1) (.looking q) =
    probe p state deadline q >>= carryOn p state deadline left := watchLoad_advance

theorem exec_probing_iff {asked : Nat} {answer : Except Fault Returned}
    (hgone : answer ≠ .error .gone) :
    Exec (probe p state deadline q) (probing p asked (some answer) ++ rest) w ↔
      Exec (if deadline ≤ asked then pure (.ended (late state)) else
        match evaluated answer with
        | .error e => pure (.ended (.error e))
        | .ok j => now >>= fun t => pure (.observe state q (.ofJson j) t)) rest w := by
  refine Prog.exec_ask_cons_iff.trans (Prog.exec_ask_cons_iff.trans ?_)
  rcases answer with (_ | _ | _) | v
  case error.gone => exact absurd rfl hgone
  all_goals exact Iff.rfl

theorem exec_probe_iff :
    Exec (probe p state deadline q) log w ↔ Probes p state deadline q log w := by
  constructor
  · intro h
    obtain ⟨(asked : Nat), _, rfl, hsent⟩ := (Prog.exec_ask_iff _ _ _).mp h
    obtain ⟨answer, rest, rfl, hanswer⟩ := (Prog.exec_ask_iff _ _ _).mp hsent
    rcases answer with _ | answer
    · obtain ⟨rfl, rfl⟩ := (Prog.exec_done_iff _ _).mp hanswer
      split
      case isTrue hd => exact .hung hd
      case isFalse hd => exact .unanswered (Nat.lt_of_not_le hd)
    by_cases hgone : answer = .error .gone
    · subst hgone
      obtain ⟨rfl, rfl⟩ := (Prog.exec_done_iff _ _).mp hanswer
      exact .failed rfl (Or.inr rfl)
    have hcounts := (exec_probing_iff hgone).mp h
    split at hcounts
    case isTrue hd =>
      obtain ⟨rfl, rfl⟩ := (Prog.exec_done_iff _ _).mp hcounts
      exact .tooLate hd hgone
    case isFalse hd =>
      have hd := Nat.lt_of_not_le hd
      split at hcounts
      case h_1 e he =>
        obtain ⟨rfl, rfl⟩ := (Prog.exec_done_iff _ _).mp hcounts
        exact .failed he (Or.inl hd)
      case h_2 j hj =>
        obtain ⟨(seen : Nat), _, rfl, hdone⟩ := (Prog.exec_ask_iff _ _ _).mp hcounts
        obtain ⟨rfl, rfl⟩ := (Prog.exec_done_iff _ _).mp hdone
        rcases answer with f | v
        · cases hj
        · obtain ⟨told, rfl, hprobe⟩ := Look.exists_answer hj asked seen 0
          rw [← hprobe]
          exact .answered (l := ⟨asked, told, seen, 0⟩) hd
  · intro h
    cases h with
    | hung hd => exact .ask _ (.ask _ ((Prog.exec_done_iff _ _).mpr ⟨rfl, (if_pos hd).symm⟩))
    | unanswered hd =>
      have hd := Nat.not_le_of_lt hd
      exact .ask _ (.ask _ ((Prog.exec_done_iff _ _).mpr ⟨rfl, (if_neg hd).symm⟩))
    | @failed asked answer e he hd =>
      by_cases hgone : answer = .error .gone
      · subst hgone
        cases he
        exact .ask _ (.ask _ (.done _))
      · have hd := Nat.not_le_of_lt (hd.resolve_right hgone)
        rw [← List.append_nil (probing p asked _), exec_probing_iff hgone, if_neg hd, he]
        exact .done _
    | @tooLate asked answer hd hgone =>
      rw [← List.append_nil (probing p asked _), exec_probing_iff hgone, if_pos hd]
      exact .done _
    | @answered l hd =>
      have hgone : (.ok l.answer : Except Fault Returned) ≠ .error .gone := nofun
      rw [Look.calls, exec_probing_iff hgone, if_neg (Nat.not_le_of_lt hd), l.evaluated_answer]
      exact .ask _ (.done _)

theorem exec_pause_iff {again : Bool} : Exec (pause deadline) log again ↔ ∃ t : Nat,
    (t + probeInterval ≤ deadline ∧ log = [⟨.now, t⟩, ⟨.sleep (.ofNanos probeInterval), ()⟩] ∧
      again = true) ∨
    (deadline < t + probeInterval ∧ log = [⟨.now, t⟩, ⟨.sleep (.ofNanos (deadline - t)), ()⟩] ∧
      again = false) := by
  rw [pause, exec_now_bind_iff]
  refine exists_congr fun t => ?_
  by_cases hd : deadline < t + probeInterval
  · simp only [if_pos hd, exec_sleep_then_iff]
    simp only [hd, Nat.not_le_of_lt hd, false_and, true_and, false_or]
    constructor
    · rintro ⟨_, rfl, rfl, rfl⟩
      exact ⟨rfl, rfl⟩
    · rintro ⟨rfl, rfl⟩
      exact ⟨_, rfl, rfl, rfl⟩
  · simp only [if_neg hd, exec_sleep_then_iff]
    simp only [hd, Nat.le_of_not_lt hd, false_and, true_and, or_false]
    constructor
    · rintro ⟨_, rfl, rfl, rfl⟩
      exact ⟨rfl, rfl⟩
    · rintro ⟨rfl, rfl⟩
      exact ⟨_, rfl, rfl, rfl⟩

theorem observe_of_meets (h : q.Meets state l) :
    Watch.observe state q l.probe l.seen = .ended (.ok ()) := if_pos h

theorem observe_of_not_meets (h : ¬ q.Meets state l) :
    Watch.observe state q l.probe l.seen = .looking (q.after l) := if_neg h

theorem exec_watchLoad_round_iff (hask : l.asked < deadline)
    (hpause : l.paused + probeInterval ≤ deadline) :
    Exec (watchLoad p state deadline (left + 1) (.looking q)) (l.round p ++ rest) r ↔
      ¬ q.Meets state l ∧ Exec (watchLoad p state deadline left (.looking (q.after l))) rest r := by
  have hlook : Exec (probe p state deadline q) (l.calls p) _ := exec_probe_iff.mpr (.answered hask)
  rw [watchLoad_succ, Look.round, List.append_assoc, hlook.bind_iff]
  by_cases hmeets : q.Meets state l
  · rw [observe_of_meets hmeets]
    refine iff_of_false (fun h => ?_) fun h => h.1 hmeets
    cases ((Prog.exec_done_iff _ _).mp h).1
  · have hagain : Exec (pause deadline) _ true :=
      exec_pause_iff.mpr ⟨l.paused, Or.inl ⟨hpause, rfl, rfl⟩⟩
    rw [observe_of_not_meets hmeets, and_iff_right hmeets]
    exact hagain.bind_iff

theorem exec_watchLoad_rounds_iff
    (hin : ∀ k < n, (looks k).asked < deadline ∧ (looks k).paused + probeInterval ≤ deadline)
    (hn : n ≤ left) :
    Exec (watchLoad p state deadline left (.looking q)) (rounds p looks n ++ rest) r ↔
      (∀ k < n, ¬ (kept q looks k).Meets state (looks k)) ∧
        Exec (watchLoad p state deadline (left - n) (.looking (kept q looks n))) rest r := by
  induction n generalizing rest with
  | zero => exact (and_iff_right nofun).symm
  | succ n ih =>
    obtain ⟨hin, hask, hpause⟩ := Nat.forall_lt_succ_right.mp hin
    have hleft : left - n = left - (n + 1) + 1 := by omega
    rw [rounds_succ, List.append_assoc, ih hin (by omega), hleft,
      exec_watchLoad_round_iff hask hpause, Nat.forall_lt_succ_right, and_assoc, kept_succ]

/-- The wait ends with a look that meets the milestone, and goes on after any other. -/
theorem exec_watchLoad_cases (h : Exec (watchLoad p state deadline (left + 1) (.looking q)) log r) :
    (∃ (l : Look) (rest : Log), l.asked < deadline ∧ l.paused + probeInterval ≤ deadline ∧
      log = l.round p ++ rest) ∨
    ∃ l, Closes p state deadline l (q.Meets state l) log r := by
  rw [watchLoad_succ, Prog.exec_bind_iff] at h
  simp only [exec_probe_iff] at h
  obtain ⟨first, w, rest, rfl, hprobe, hrest⟩ := h
  cases hprobe with
  | hung hd =>
    obtain ⟨t, rfl, rfl⟩ := exec_sleepUntil_then_iff.mp hrest
    exact Or.inr ⟨default, .hung hd⟩
  | unanswered hd =>
    obtain ⟨t, rfl, rfl⟩ := exec_sleepUntil_then_iff.mp hrest
    exact Or.inr ⟨default, .unanswered hd⟩
  | failed he hd =>
    obtain ⟨rfl, rfl⟩ := (Prog.exec_done_iff _ _).mp hrest
    rw [List.append_nil]
    exact Or.inr ⟨default, .failed he hd⟩
  | tooLate hd hgone =>
    obtain ⟨rfl, rfl⟩ := (Prog.exec_done_iff _ _).mp hrest
    rw [List.append_nil]
    exact Or.inr ⟨default, .tooLate hd hgone⟩
  | @answered l hask =>
    by_cases hmeets : q.Meets state l
    · rw [observe_of_meets hmeets] at hrest
      obtain ⟨rfl, rfl⟩ := (Prog.exec_done_iff _ _).mp hrest
      rw [List.append_nil]
      exact Or.inr ⟨l, .reached hask hmeets⟩
    · rw [observe_of_not_meets hmeets, carryOn, Prog.exec_bind_iff] at hrest
      simp only [exec_pause_iff] at hrest
      obtain ⟨_, _, more, rfl, ⟨t, ⟨hd, rfl, rfl⟩ | ⟨hd, rfl, rfl⟩⟩, hmore⟩ := hrest
      · refine Or.inl ⟨{ l with paused := t }, more, hask, hd, ?_⟩
        rw [← List.append_assoc]
        rfl
      · obtain ⟨rfl, rfl⟩ := (Prog.exec_done_iff _ _).mp hmore
        rw [List.append_nil]
        exact Or.inr ⟨{ l with paused := t }, .noTime hask hmeets hd⟩

theorem Closes.exec (h : Closes p state deadline l (q.Meets state l) log r) :
    Exec (watchLoad p state deadline (left + 1) (.looking q)) log r := by
  have hends {first last : Log} {w : Watch} (hprobe : Probes p state deadline q first w)
      (hlast : Exec (carryOn p state deadline left w) last r) :
      Exec (watchLoad p state deadline (left + 1) (.looking q)) (first ++ last) r := by
    rw [watchLoad_succ]
    exact (exec_probe_iff.mpr hprobe).bind hlast
  have hended {first : Log} (hprobe : Probes p state deadline q first (.ended r)) :
      Exec (watchLoad p state deadline (left + 1) (.looking q)) first r := by
    rw [← List.append_nil first]
    exact hends hprobe (.done _)
  cases h with
  | reached hask hmeets => exact hended (observe_of_meets hmeets ▸ .answered hask)
  | failed he hd => exact hended (.failed he hd)
  | tooLate hd hgone => exact hended (.tooLate hd hgone)
  | hung hd => exact hends (.hung hd) (exec_sleepUntil_then_iff.mpr ⟨_, rfl, rfl⟩)
  | unanswered hd => exact hends (.unanswered hd) (exec_sleepUntil_then_iff.mpr ⟨_, rfl, rfl⟩)
  | noTime hask hmeets hd =>
    have hpause : Exec (pause deadline) _ false :=
      exec_pause_iff.mpr ⟨l.paused, Or.inr ⟨hd, rfl, rfl⟩⟩
    have hlate : Exec (carryOn p state deadline left (.looking (q.after l))) _ (late state) :=
      (Prog.exec_bind_iff _ _ _).mpr ⟨_, false, [], (List.append_nil _).symm, hpause, .done _⟩
    exact hends (observe_of_not_meets hmeets ▸ .answered hask) hlate

theorem exec_watchLoad_calls_iff (hask : l.asked < deadline) :
    Exec (watchLoad p state deadline (left + 1) (.looking q)) (l.calls p) (.ok ()) ↔
      q.Meets state l := by
  have hlook : Exec (probe p state deadline q) (l.calls p) _ := exec_probe_iff.mpr (.answered hask)
  rw [← List.append_nil (l.calls p), watchLoad_succ, hlook.bind_iff]
  by_cases hmeets : q.Meets state l
  · rw [observe_of_meets hmeets]
    exact iff_of_true (.done _) hmeets
  · rw [observe_of_not_meets hmeets]
    refine iff_of_false (fun h => ?_) hmeets
    obtain ⟨first, again, rest, hnil, hpause, -⟩ := (Prog.exec_bind_iff (pause deadline) _ _).mp h
    obtain ⟨t, ⟨-, rfl, -⟩ | ⟨-, rfl, -⟩⟩ := exec_pause_iff.mp hpause <;> cases hnil

def prepend (l : Look) (looks : Nat → Look) : Nat → Look
  | 0 => l
  | k + 1 => looks k

/-- A wait makes looks in vain, until it ends at one or has no looks left. -/
theorem exec_watchLoad_looks (h : Exec (watchLoad p state deadline left (.looking q)) log r) :
    ∃ looks n tail, log = rounds p looks n ++ tail ∧ n ≤ left ∧
      (∀ k < n, (looks k).asked < deadline ∧ (looks k).paused + probeInterval ≤ deadline) ∧
      (∀ k < n, ¬ (kept q looks k).Meets state (looks k)) ∧
      (n = left ∨
        Closes p state deadline (looks n) ((kept q looks n).Meets state (looks n)) tail r) := by
  induction left generalizing q log with
  | zero => exact ⟨default, 0, log, rfl, Nat.le_refl 0, nofun, nofun, Or.inl rfl⟩
  | succ left ih =>
    rcases exec_watchLoad_cases h with ⟨l, rest, hask, hpause, rfl⟩ | ⟨l, hcloses⟩
    · obtain ⟨hmeets, hrest⟩ := (exec_watchLoad_round_iff hask hpause).mp h
      obtain ⟨looks, n, tail, rfl, hn, hin, hvain, hend⟩ := ih hrest
      refine ⟨prepend l looks, n + 1, tail, ?_, Nat.succ_le_succ hn,
        Nat.forall_lt_succ_left.mpr ⟨⟨hask, hpause⟩, hin⟩,
        Nat.forall_lt_succ_left.mpr ⟨hmeets, fun k hk => ?_⟩,
        hend.imp (congrArg Nat.succ) fun hcloses => ?_⟩
      · rw [rounds_succ_front, List.append_assoc]
        rfl
      · rw [kept_succ_front]
        exact hvain k hk
      · rw [kept_succ_front]
        exact hcloses
    · exact ⟨fun _ => l, 0, log, rfl, Nat.zero_le _, nofun, nofun, Or.inr hcloses⟩

end Waits

section Milestones

variable {p : Page} {state : LoadState} {deadline start t n : Nat} {log tail : Log}
  {r : Engine.Answer Unit} {l : Look} {looks : Nat → Look}

theorem Closes.imp {done done' : Prop} (h : Closes p state deadline l done tail r)
    (hc : Ticks t tail) (hdone : t ≤ l.asked → l.asked ≤ l.seen → (done ↔ done')) :
    Closes p state deadline l done' tail r := by
  cases h with
  | reached hask hd =>
    obtain ⟨ha, hs, -⟩ := hc
    exact .reached hask ((hdone ha hs).mp hd)
  | failed he hd => exact .failed he hd
  | tooLate hd hgone => exact .tooLate hd hgone
  | hung hd => exact .hung hd
  | unanswered hd => exact .unanswered hd
  | noTime hask hd hlate =>
    obtain ⟨ha, hs, -⟩ := hc
    exact .noTime hask ((not_congr (hdone ha hs)).mp hd) hlate

/-- How a wait goes on a clock: it makes looks that do not show the milestone, and ends at the next.
The bound on their number never decides. -/
theorem exec_awaitLoad_iff (hc : Ticks 0 log) : Exec (awaitLoad p state deadline) log r ↔
    ∃ (start : Nat) (looks : Nat → Look) (n : Nat) (tail : Log),
      log = ⟨.now, start⟩ :: rounds p looks n ++ tail ∧
      (∀ k < n, (looks k).asked < deadline ∧ (looks k).paused + probeInterval ≤ deadline ∧
        ¬ Milestone looks k state) ∧
      Closes p state deadline (looks n) (Milestone looks n state) tail r := by
  -- The looks of a log on a clock are spaced, so what is kept of them tells of the milestone.
  have hspaced {start n : Nat} {looks : Nat → Look} {tail : Log}
      (hc : Ticks 0 (⟨.now, start⟩ :: rounds p looks n ++ tail)) :
      Spaced start looks n ∧ Ticks (earliest start looks n) tail ∧
        ∀ k < n, ((kept ⟨none, start⟩ looks k).Meets state (looks k) ↔
          Milestone looks k state) := by
    obtain ⟨hsp, htail⟩ := ticks_rounds_iff.mp hc.2
    exact ⟨hsp, htail, fun k hk =>
      (hsp.of_le (Nat.le_of_lt hk)).meets_kept_iff (hsp.asked k hk) (hsp.seen k hk)⟩
  rw [awaitLoad, exec_now_bind_iff]
  constructor
  · rintro ⟨start, _, rfl, h⟩
    obtain ⟨looks, n, tail, rfl, hn, hin, hvain, hend⟩ := exec_watchLoad_looks h
    obtain ⟨hsp, htail, hmeets⟩ := hspaced hc
    have hroom := hsp.le_probeBound fun k hk => (hin k hk).2
    have hcloses := hend.resolve_left (by omega)
    exact ⟨start, looks, n, tail, rfl, fun k hk => ⟨(hin k hk).1, (hin k hk).2,
      (not_congr (hmeets k hk)).mp (hvain k hk)⟩, hcloses.imp htail hsp.meets_kept_iff⟩
  · rintro ⟨start, looks, n, tail, rfl, hin, hcloses⟩
    obtain ⟨hsp, htail, hmeets⟩ := hspaced hc
    have hroom := hsp.le_probeBound fun k hk => (hin k hk).2.1
    have hleft : probeBound deadline start + 1 - n = probeBound deadline start - n + 1 := by omega
    refine ⟨start, _, rfl, (exec_watchLoad_rounds_iff
      (fun k hk => ⟨(hin k hk).1, (hin k hk).2.1⟩) (by omega)).mpr ⟨fun k hk => ?_, ?_⟩⟩
    · exact (not_congr (hmeets k hk)).mpr (hin k hk).2.2
    · rw [hleft]
      exact (hcloses.imp htail fun ha hs => (hsp.meets_kept_iff ha hs).symm).exec

theorem exec_awaitLoad_ok_iff (h : ∀ n, Spaced start looks n) (hask : (looks n).asked < deadline) :
    Exec (awaitLoad p state deadline) (⟨.now, start⟩ :: rounds p looks n ++ (looks n).calls p)
      (.ok ()) ↔ IsLeast {k | Milestone looks k state} n := by
  have hlook (k : Nat) :
      earliest start looks k ≤ (looks k).asked ∧ (looks k).asked ≤ (looks k).seen :=
    ⟨(h (k + 1)).asked k (Nat.lt_succ_self k), (h (k + 1)).seen k (Nat.lt_succ_self k)⟩
  have hmeets (k : Nat) :
      (kept ⟨none, start⟩ looks k).Meets state (looks k) ↔ Milestone looks k state :=
    (h k).meets_kept_iff (hlook k).1 (hlook k).2
  have hin : ∀ k < n, (looks k).asked < deadline ∧ (looks k).paused + probeInterval ≤ deadline := by
    intro k hk
    have hnext := (h n).paused_add_le hk
    have hseen := (h n).seen k hk
    have hpaused := (h n).paused k hk
    have hlast := (hlook n).1
    omega
  have hroom := (h n).le_probeBound fun k hk => (hin k hk).2
  have hleft : probeBound deadline start + 1 - n = probeBound deadline start - n + 1 := by omega
  refine Prog.exec_ask_cons_iff.trans ?_
  refine (exec_watchLoad_rounds_iff hin (by omega)).trans ?_
  rw [hleft, exec_watchLoad_calls_iff hask, hmeets]
  simp only [hmeets]
  constructor
  · rintro ⟨hbefore, hn⟩
    exact ⟨hn, fun k hk => Nat.le_of_not_lt fun hkn => hbefore k hkn hk⟩
  · rintro ⟨hn, hleast⟩
    exact ⟨fun k hk hm => Nat.not_le_of_lt hk (hleast hm), hn⟩

end Milestones

/-- Waits for a milestone of a load, with any answers of the browser. Along any sequence of looks
that follow each other on a clock, a wait ends well exactly at the first that shows the milestone,
if it gets there before the deadline. An idle network shows in a complete document with the same
number of resources as 500 ms before and ever since, so not before 500 ms have passed since the
first look and since every change of the number. However the browser answers, a wait on a clock
makes looks that do not show the milestone and then ends: with a look that does, at once with a
probe that fails, or with the deadline. No probe follows the end. -/
theorem load_wait_course (p : Page) (state : LoadState) (deadline : Nat) :
    (∀ (start : Nat) (looks : Nat → Look), (∀ n, Spaced start looks n) →
      ∀ n, (looks n).asked < deadline →
        (Exec (awaitLoad p state deadline)
          (⟨.now, start⟩ :: rounds p looks n ++ (looks n).calls p) (.ok ()) ↔
            IsLeast {k | Milestone looks k state} n)) ∧
    (∀ (start : Nat) (looks : Nat → Look), (∀ n, Spaced start looks n) →
      ∀ k, Milestone looks k .networkIdle → (looks 0).seen + quietTime ≤ (looks k).seen ∧
        ∀ i < k, (looks i).probe.resources ≠ (looks (i + 1)).probe.resources →
          (looks (i + 1)).seen + quietTime ≤ (looks k).seen) ∧
    ∀ log r, Ticks 0 log → (Exec (awaitLoad p state deadline) log r ↔
      ∃ (start : Nat) (looks : Nat → Look) (n : Nat) (tail : Log),
        log = ⟨.now, start⟩ :: rounds p looks n ++ tail ∧
        (∀ k < n, (looks k).asked < deadline ∧ (looks k).paused + probeInterval ≤ deadline ∧
          ¬ Milestone looks k state) ∧
        Closes p state deadline (looks n) (Milestone looks n state) tail r) := by
  refine ⟨fun start looks hspaced n hask => ?_, fun start looks hspaced k hk => ?_,
    fun log r hc => ?_⟩
  · exact exec_awaitLoad_ok_iff hspaced hask
  · exact quiet_of_milestone hspaced hk
  · exact exec_awaitLoad_iff hc

def settling (k : Nat) : Look where
  asked := k * 10 ^ 8
  told := some (.arr [.str "complete", .int (if k < 2 then 3 else 4)])
  seen := k * 10 ^ 8
  paused := k * 10 ^ 8

/-- The network is idle at the eighth look, 500 ms after the third. -/
theorem load_wait_course_settling : (∀ n, Spaced 0 settling n) ∧
    IsLeast {k | Milestone settling k .networkIdle} 7 ∧ (settling 7).asked < 5 * 10 ^ 9 ∧
    Exec (awaitLoad ⟨0⟩ .networkIdle (5 * 10 ^ 9))
      (⟨.now, (0 : Nat)⟩ :: rounds ⟨0⟩ settling 7 ++ (settling 7).calls ⟨0⟩) (.ok ()) := by
  have hcourse := load_wait_course ⟨0⟩ .networkIdle (5 * 10 ^ 9)
  have hspaced (n : Nat) : Spaced 0 settling n := by
    refine ⟨fun k _ => ?_, fun _ _ => Nat.le_refl _, fun _ _ => Nat.le_refl _⟩
    cases k with
    | zero => exact Nat.le_refl 0
    | succ k => simp [earliest, settling, probeInterval, Nat.succ_mul]
  have hresources (k : Nat) : (settling k).probe.resources = if k < 2 then 3 else 4 := by
    by_cases hk : k < 2 <;> simp [settling, Look.probe, hk] <;> rfl
  have hleast : IsLeast {k | Milestone settling k .networkIdle} 7 := by
    constructor
    · refine ⟨rfl, 2, ⟨by decide, fun i hi _ => ?_⟩, by decide⟩
      rw [hresources, hresources, if_neg (Nat.not_lt_of_le hi)]
      rfl
    · intro k hk
      obtain ⟨hfirst, hchange⟩ := hcourse.2.1 0 settling hspaced k hk
      have hseen (i : Nat) : (settling i).seen = i * 10 ^ 8 := rfl
      have hquiet : quietTime = 5 * 10 ^ 8 := rfl
      rw [hseen, hseen, hquiet] at hfirst
      have hthird := hchange 1 (by omega) (by simp [hresources])
      rw [hseen, hseen, hquiet] at hthird
      omega
  have hask : (settling 7).asked < 5 * 10 ^ 9 := by decide
  exact ⟨hspaced, hleast, hask, (hcourse.1 0 settling hspaced 7 hask).mpr hleast⟩

end Chromium
end PageFlow
