import Mathlib.Order.Bounds.Basic
import PageFlow.Proofs.RemoteCalls

/-! Looks at a page that loads, one after the other on a clock. Of the looks so far a wait keeps
only two things: the number of resources, and the moment since which it is that. They tell where the
looks with that number began, and so how long the network has been quiet. -/
namespace PageFlow
namespace Chromium

open DevTools

/-- The clock of the log shows `t` at the earliest. It is never turned back, and what is slept has
passed afterwards. -/
def Ticks : Nat → Log → Prop
  | _, [] => True
  | t, ⟨.now, seen⟩ :: log => t ≤ seen ∧ Ticks seen log
  | t, ⟨.sleep d, _⟩ :: log => Ticks (t + d.toNanos) log
  | t, _ :: log => Ticks t log

/-- A look at the page: when it is asked, what its script returns, when the answer is seen, and when
the pause after it begins. -/
structure Look where
  asked : Nat
  told : Option Json
  seen : Nat
  paused : Nat
deriving Inhabited

def probing (p : Page) (asked : Nat) (answer : Option (Except Fault Returned)) : Log :=
  [⟨.now, asked⟩, ⟨.send (.page p) (.evaluate probeScript), answer⟩]

namespace Look

def answer (l : Look) : Returned :=
  match l.told with
  | some v => .value v
  | none => .undefined

def probe (l : Look) : Probe := .ofJson (l.told.getD .null)

def calls (p : Page) (l : Look) : Log := probing p l.asked (some (.ok l.answer)) ++ [⟨.now, l.seen⟩]

def round (p : Page) (l : Look) : Log :=
  l.calls p ++ [⟨.now, l.paused⟩, ⟨.sleep (.ofNanos probeInterval), ()⟩]

theorem evaluated_answer (l : Look) : evaluated (.ok l.answer) = .ok (l.told.getD .null) := by
  rw [answer]
  cases l.told <;> rfl

theorem exists_answer {v : Returned} {j : Json} (h : evaluated (.ok v) = .ok j)
    (asked seen paused : Nat) : ∃ told, (⟨asked, told, seen, paused⟩ : Look).answer = v ∧
      (⟨asked, told, seen, paused⟩ : Look).probe = .ofJson j := by
  cases v with
  | value v =>
    cases h
    exact ⟨some j, rfl, rfl⟩
  | undefined =>
    cases h
    exact ⟨none, rfl, rfl⟩
  | thrown text => cases h

end Look

def Quiet.after (q : Quiet) (l : Look) : Quiet := q.observe l.probe.resources l.seen

/-- The look ends a wait that has kept this. -/
def Quiet.Meets (q : Quiet) (state : LoadState) (l : Look) : Prop :=
  reached state l.probe (q.after l) l.seen = true

section Sequences

def rounds (p : Page) (looks : Nat → Look) (n : Nat) : Log :=
  (List.range n).flatMap fun k => (looks k).round p

def kept (q : Quiet) (looks : Nat → Look) (n : Nat) : Quiet :=
  (List.range n).foldl (fun q k => q.after (looks k)) q

/-- The number of resources is the same from look `j` to look `k`. -/
def Steady (looks : Nat → Look) (j k : Nat) : Prop :=
  j ≤ k ∧ ∀ i, j ≤ i → i ≤ k → (looks i).probe.resources = (looks k).probe.resources

/-- Look `k` shows the milestone. -/
def Milestone (looks : Nat → Look) (k : Nat) : LoadState → Prop
  | .domContentLoaded => (looks k).probe.ready ≠ "loading"
  | .load => (looks k).probe.ready = "complete"
  | .networkIdle => (looks k).probe.ready = "complete" ∧
      ∃ j, Steady looks j k ∧ (looks j).seen + quietTime ≤ (looks k).seen

def earliest (start : Nat) (looks : Nat → Look) : Nat → Nat
  | 0 => start
  | k + 1 => (looks k).paused + probeInterval

/-- The first `n` looks come one after the other. -/
structure Spaced (start : Nat) (looks : Nat → Look) (n : Nat) : Prop where
  asked : ∀ k < n, earliest start looks k ≤ (looks k).asked
  seen : ∀ k < n, (looks k).asked ≤ (looks k).seen
  paused : ∀ k < n, (looks k).seen ≤ (looks k).paused

variable {p : Page} {state : LoadState} {q : Quiet} {looks : Nat → Look} {start i j k n : Nat}

theorem rounds_succ : rounds p looks (n + 1) = rounds p looks n ++ (looks n).round p := by
  simp [rounds, List.range_succ]

theorem rounds_succ_front : rounds p looks (n + 1) =
    (looks 0).round p ++ rounds p (fun k => looks (k + 1)) n := by
  simp [rounds, List.range_succ_eq_map, List.flatMap_map]

theorem kept_succ : kept q looks (n + 1) = (kept q looks n).after (looks n) := by
  simp [kept, List.range_succ]

theorem kept_succ_front :
    kept q looks (n + 1) = kept (q.after (looks 0)) (fun k => looks (k + 1)) n := by
  simp [kept, List.range_succ_eq_map, List.foldl_map]

/-- What is kept tells the number of resources at the latest look, and when the first of the looks
was seen that have had this number since. -/
theorem kept_spec (start : Nat) (looks : Nat → Look) (k : Nat) :
    (kept ⟨none, start⟩ looks (k + 1)).count = some (looks k).probe.resources ∧
      ∃ j, IsLeast {j | Steady looks j k} j ∧
        (kept ⟨none, start⟩ looks (k + 1)).since = (looks j).seen := by
  induction k with
  | zero =>
    have hfirst : kept ⟨none, start⟩ looks 1 =
        ⟨some (looks 0).probe.resources, (looks 0).seen⟩ := rfl
    rw [hfirst]
    refine ⟨rfl, 0, ⟨⟨Nat.le_refl 0, fun i _ hi => ?_⟩, fun i _ => Nat.zero_le i⟩, rfl⟩
    rw [Nat.le_zero.mp hi]
  | succ k ih =>
    obtain ⟨hcount, j, ⟨⟨hjk, hsame⟩, hleast⟩, hsince⟩ := ih
    -- With the same number the looks go on from `j`; a new number is that of this look only.
    rw [kept_succ, Quiet.after, Quiet.observe, hcount]
    split
    case isTrue heq =>
      have heq : (looks k).probe.resources = (looks (k + 1)).probe.resources :=
        Option.some.inj heq
      refine ⟨hcount.trans (congrArg some heq), j, ⟨⟨by omega, fun i hj hi => ?_⟩, ?_⟩, hsince⟩
      · rcases Nat.le_succ_iff.mp hi with hi | rfl
        · exact (hsame i hj hi).trans heq
        · rfl
      · rintro i ⟨hi, hsteady⟩
        rcases Nat.le_succ_iff.mp hi with hi | rfl
        · exact hleast ⟨hi, fun m him hm => (hsteady m him (by omega)).trans heq.symm⟩
        · omega
    case isFalse hne =>
      refine ⟨rfl, k + 1, ⟨⟨Nat.le_refl _, fun i hk hi => ?_⟩, ?_⟩, rfl⟩
      · rw [Nat.le_antisymm hi hk]
      · rintro i ⟨hi, hsteady⟩
        rcases Nat.le_succ_iff.mp hi with hi | rfl
        · exact absurd (congrArg some (hsteady k hi (Nat.le_succ k))) hne
        · exact Nat.le_refl _

/-- The look that ends a wait is one that shows the milestone. -/
theorem meets_kept_iff (hseen : ∀ i j, i ≤ j → j ≤ k → (looks i).seen ≤ (looks j).seen) :
    (kept ⟨none, start⟩ looks k).Meets state (looks k) ↔ Milestone looks k state := by
  rw [Quiet.Meets, ← kept_succ]
  cases state with
  | domContentLoaded => simp [reached, Milestone]
  | load => simp [reached, Milestone]
  | networkIdle =>
    obtain ⟨-, j, ⟨hsteady, hleast⟩, hsince⟩ := kept_spec start looks k
    simp only [reached, Milestone, Bool.and_eq_true, decide_eq_true_eq, hsince]
    refine and_congr_right fun _ => ⟨fun h => ⟨j, hsteady, h⟩, ?_⟩
    rintro ⟨i, hi, hquiet⟩
    exact Nat.le_trans (Nat.add_le_add_right (hseen j i (hleast hi) hi.1) _) hquiet

end Sequences

section Clock

variable {p : Page} {state : LoadState} {l : Look} {looks : Nat → Look}
  {start t i k n deadline : Nat} {rest : Log}

theorem ticks_calls_iff : Ticks t (l.calls p ++ rest) ↔
    t ≤ l.asked ∧ l.asked ≤ l.seen ∧ Ticks l.seen rest := Iff.rfl

theorem ticks_round_iff : Ticks t (l.round p ++ rest) ↔
    t ≤ l.asked ∧ l.asked ≤ l.seen ∧ l.seen ≤ l.paused ∧
      Ticks (l.paused + probeInterval) rest := by
  have hsleep : (Duration.ofNanos probeInterval).toNanos = probeInterval :=
    Duration.toNanos_ofNanos (by decide)
  rw [Look.round, List.append_assoc, ticks_calls_iff, ← hsleep]
  exact Iff.rfl

theorem spaced_succ_iff : Spaced start looks (n + 1) ↔ Spaced start looks n ∧
    earliest start looks n ≤ (looks n).asked ∧ (looks n).asked ≤ (looks n).seen ∧
      (looks n).seen ≤ (looks n).paused := by
  constructor
  · rintro ⟨hasked, hseen, hpaused⟩
    exact ⟨⟨fun k hk => hasked k (by omega), fun k hk => hseen k (by omega),
      fun k hk => hpaused k (by omega)⟩, hasked n (by omega), hseen n (by omega),
      hpaused n (by omega)⟩
  · rintro ⟨⟨hasked, hseen, hpaused⟩, ha, hs, hp⟩
    exact ⟨Nat.forall_lt_succ_right.mpr ⟨hasked, ha⟩, Nat.forall_lt_succ_right.mpr ⟨hseen, hs⟩,
      Nat.forall_lt_succ_right.mpr ⟨hpaused, hp⟩⟩

theorem ticks_rounds_iff : Ticks start (rounds p looks n ++ rest) ↔
    Spaced start looks n ∧ Ticks (earliest start looks n) rest := by
  induction n generalizing rest with
  | zero => exact (and_iff_right ⟨nofun, nofun, nofun⟩).symm
  | succ n ih =>
    rw [rounds_succ, List.append_assoc, ih, ticks_round_iff, spaced_succ_iff]
    simp only [and_assoc]
    rfl

namespace Spaced

theorem of_le (h : Spaced start looks n) (hi : i ≤ n) : Spaced start looks i :=
  ⟨fun k hk => h.asked k (by omega), fun k hk => h.seen k (by omega),
    fun k hk => h.paused k (by omega)⟩

theorem start_add_le (h : Spaced start looks n) :
    start + n * probeInterval ≤ earliest start looks n := by
  induction n with
  | zero => simp [earliest]
  | succ n ih =>
    obtain ⟨hn, ha, hs, hp⟩ := spaced_succ_iff.mp h
    have hle := ih hn
    rw [earliest, Nat.succ_mul]
    omega

theorem paused_add_le (h : Spaced start looks n) (hi : i < n) :
    (looks i).paused + probeInterval ≤ earliest start looks n := by
  induction n with
  | zero => omega
  | succ n ih =>
    obtain ⟨hn, ha, hs, hp⟩ := spaced_succ_iff.mp h
    rw [earliest]
    rcases Nat.lt_succ_iff_lt_or_eq.mp hi with hi | rfl
    · have hle := ih hn hi
      omega
    · exact Nat.le_refl _

theorem seen_le (h : Spaced start looks n) (hi : i < n) :
    (looks i).seen ≤ earliest start looks n :=
  ((h.paused i hi).trans (Nat.le_add_right _ _)).trans (h.paused_add_le hi)

/-- The answers to the looks are seen in their order. -/
theorem seen_mono (h : Spaced start looks n) (ha : earliest start looks n ≤ (looks n).asked)
    (hs : (looks n).asked ≤ (looks n).seen) :
    ∀ i j, i ≤ j → j ≤ n → (looks i).seen ≤ (looks j).seen := by
  intro i j hij hj
  rcases Nat.lt_or_eq_of_le hij with hij | rfl
  · rcases Nat.lt_or_eq_of_le hj with hjn | rfl
    · exact (((h.of_le hj).seen_le hij).trans (h.asked j hjn)).trans (h.seen j hjn)
    · exact ((h.seen_le hij).trans ha).trans hs
  · exact Nat.le_refl _

theorem le_probeBound (h : Spaced start looks n)
    (hin : ∀ k < n, (looks k).paused + probeInterval ≤ deadline) :
    n ≤ probeBound deadline start := by
  cases n with
  | zero => exact Nat.zero_le _
  | succ n =>
    have hroom : (n + 1) * probeInterval ≤ deadline - start := by
      have hle := h.start_add_le
      have hlast := hin n (Nat.lt_succ_self n)
      rw [earliest] at hle
      omega
    exact Nat.le_succ_of_le ((Nat.le_div_iff_mul_le (by decide)).mpr hroom)

theorem meets_kept_iff (h : Spaced start looks n)
    (ha : earliest start looks n ≤ (looks n).asked) (hs : (looks n).asked ≤ (looks n).seen) :
    (kept ⟨none, start⟩ looks n).Meets state (looks n) ↔ Milestone looks n state :=
  Chromium.meets_kept_iff (h.seen_mono ha hs)

end Spaced

/-- The network is idle only after the time since the first look, and since every look at which the
number of resources has changed. -/
theorem quiet_of_milestone (h : ∀ n, Spaced start looks n) (hk : Milestone looks k .networkIdle) :
    (looks 0).seen + quietTime ≤ (looks k).seen ∧
      ∀ i < k, (looks i).probe.resources ≠ (looks (i + 1)).probe.resources →
        (looks (i + 1)).seen + quietTime ≤ (looks k).seen := by
  obtain ⟨-, j, ⟨hjk, hsame⟩, hquiet⟩ := hk
  have hmono := (h k).seen_mono ((h (k + 1)).asked k (Nat.lt_succ_self k))
    ((h (k + 1)).seen k (Nat.lt_succ_self k))
  have hsince {i : Nat} (hi : i ≤ j) : (looks i).seen + quietTime ≤ (looks k).seen :=
    (Nat.add_le_add_right (hmono i j hi hjk) _).trans hquiet
  refine ⟨hsince (Nat.zero_le j), fun i hi hchange => hsince (Nat.lt_of_not_le fun hji => ?_)⟩
  exact hchange ((hsame i hji (Nat.le_of_lt hi)).trans (hsame (i + 1) (by omega) hi).symm)

end Clock
end Chromium
end PageFlow
