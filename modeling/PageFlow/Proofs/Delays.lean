import PageFlow.Proofs.Repetition

/-! The waits of a retry policy in exact nanoseconds. The wait after an attempt is the delay times
the factor of that attempt, cut off at the longest span, so it grows with the number of the attempt
and with the delay. Computed in machine words it comes out the same, and no step overflows. -/
namespace PageFlow

/-- A step that leaves its word: the product of the nanoseconds, or the carry of a new span. -/
inductive Overflow where
  | product
  | carry
deriving DecidableEq, Repr

def checked64 (n : Nat) : Option UInt64 := if h : n < 2 ^ 64 then some (UInt64.ofNatLT n h) else none

def saturated32 (n : Nat) : UInt32 := UInt32.ofNat (min n wordMax)

theorem checked64_eq_some_iff {n : Nat} {w : UInt64} : checked64 n = some w ↔ w.toNat = n := by
  unfold checked64
  split
  · rename_i h
    rw [Option.some.injEq, ← UInt64.toNat_inj, UInt64.toNat_ofNatLT]
    exact eq_comm
  · rename_i h
    have hw : w.toNat < 2 ^ 64 := w.toNat_lt
    constructor
    · intro hn
      cases hn
    · rintro rfl
      exact absurd hw h

theorem checked64_eq_none_iff {n : Nat} : checked64 n = none ↔ 2 ^ 64 ≤ n := by
  simp [checked64]

theorem toNat_saturated32 (n : Nat) : (saturated32 n).toNat = min n wordMax := by
  have hlt : min n wordMax < 2 ^ 32 := Nat.lt_of_le_of_lt (Nat.min_le_right _ _) (by decide)
  rw [saturated32, UInt32.toNat_ofNat', Nat.mod_eq_of_lt hlt]

namespace Duration

variable (d : Duration)

def secs64 : UInt64 := UInt64.ofNatLT d.secs d.secs_lt
def nanos32 : UInt32 := UInt32.ofNatLT d.nanos (Nat.lt_trans d.nanos_lt (by decide))

@[simp] theorem toNat_secs64 : d.secs64.toNat = d.secs := UInt64.toNat_ofNatLT
@[simp] theorem toNat_nanos32 : d.nanos32.toNat = d.nanos := UInt32.toNat_ofNatLT

def ofWords (secs : UInt64) (nanos : UInt32) : Except Overflow Duration :=
  if h : nanos.toNat < 10 ^ 9 then .ok ⟨secs.toNat, nanos.toNat, secs.toNat_lt, h⟩
  else match checked64 (secs.toNat + nanos.toNat / 10 ^ 9) with
    | some carried =>
      .ok ⟨carried.toNat, nanos.toNat % 10 ^ 9, carried.toNat_lt, Nat.mod_lt _ (by decide)⟩
    | none => .error .carry

/-- The product in words, or none beyond the longest span: the nanoseconds are multiplied in a word
of 64 bits, and the seconds and what is carried over to them are checked. -/
def mulInWords (n : UInt32) : Except Overflow (Option Duration) :=
  match checked64 (d.nanos32.toUInt64.toNat * n.toUInt64.toNat) with
  | none => .error .product
  | some total =>
    match checked64 (d.secs64.toNat * n.toUInt64.toNat) with
    | none => .ok none
    | some secs =>
      match checked64 (secs.toNat + (total / 1000000000).toNat) with
      | none => .ok none
      | some carried => (ofWords carried (total % 1000000000).toUInt32).map some

def saturatingMulInWords (n : UInt32) : Except Overflow Duration :=
  (d.mulInWords n).map (·.getD max)

theorem nanos_product_lt (n : UInt32) : d.nanos * n.toNat < 2 ^ 64 := by
  have hd := d.nanos_lt
  have hn : n.toNat < 2 ^ 32 := n.toNat_lt
  calc d.nanos * n.toNat ≤ 10 ^ 9 * 2 ^ 32 := Nat.mul_le_mul (Nat.le_of_lt hd) (Nat.le_of_lt hn)
    _ < 2 ^ 64 := by decide

theorem ofWords_of_lt {secs : UInt64} {nanos : UInt32} (h : nanos.toNat < 10 ^ 9) :
    ofWords secs nanos = .ok ⟨secs.toNat, nanos.toNat, secs.toNat_lt, h⟩ := dif_pos h

theorem exists_total (n : UInt32) : ∃ total, checked64 (d.nanos * n.toNat) = some total ∧
    (total / 1000000000).toNat = d.nanos * n.toNat / 10 ^ 9 ∧
    ((total % 1000000000).toUInt32).toNat = d.nanos * n.toNat % 10 ^ 9 := by
  refine ⟨_, dif_pos (d.nanos_product_lt n), ?_, ?_⟩
  · rw [UInt64.toNat_div, UInt64.toNat_ofNatLT]
    rfl
  · rw [UInt64.toNat_toUInt32, UInt64.toNat_mod, UInt64.toNat_ofNatLT]
    exact Nat.mod_eq_of_lt (Nat.lt_trans (Nat.mod_lt _ (by decide)) (by decide))

theorem saturatingMulInWords_eq (n : UInt32) :
    d.saturatingMulInWords n = .ok (d.saturatingMul n.toNat) := by
  obtain ⟨total, htotal, hover, hrest⟩ := d.exists_total n
  simp only [saturatingMulInWords, mulInWords, saturatingMul, toNat_nanos32, toNat_secs64,
    UInt32.toNat_toUInt64, htotal]
  cases hsecs : checked64 (d.secs * n.toNat) with
  | none =>
    have hlarge := checked64_eq_none_iff.mp hsecs
    have hmax : ¬ d.secs * n.toNat + d.nanos * n.toNat / 10 ^ 9 < 2 ^ 64 := by omega
    simp [hmax, Except.map]
  | some secs =>
    have hs := checked64_eq_some_iff.mp hsecs
    simp only [hs, hover]
    cases hcarried : checked64 (d.secs * n.toNat + d.nanos * n.toNat / 10 ^ 9) with
    | none =>
      have hlarge := checked64_eq_none_iff.mp hcarried
      have hmax : ¬ d.secs * n.toNat + d.nanos * n.toNat / 10 ^ 9 < 2 ^ 64 := by omega
      simp [hmax, Except.map]
    | some carried =>
      have hc := checked64_eq_some_iff.mp hcarried
      have hlt : d.secs * n.toNat + d.nanos * n.toNat / 10 ^ 9 < 2 ^ 64 := hc ▸ carried.toNat_lt
      have hbelow : ((total % 1000000000).toUInt32).toNat < 10 ^ 9 := by
        rw [hrest]
        exact Nat.mod_lt _ (by decide)
      simp [ofWords_of_lt hbelow, hlt, hc, hrest, Except.map]

theorem toNanos_max : max.toNanos = (2 ^ 64 - 1) * 10 ^ 9 + 999999999 := rfl

/-- The product is exact in nanoseconds up to the longest span. -/
theorem toNanos_saturatingMul (n : Nat) :
    (d.saturatingMul n).toNanos = min (d.toNanos * n) max.toNanos := by
  have hexact : d.toNanos * n =
      (d.secs * n + d.nanos * n / 10 ^ 9) * 10 ^ 9 + d.nanos * n % 10 ^ 9 := by
    rw [toNanos, Nat.add_mul, Nat.add_mul, Nat.add_assoc, Nat.mul_right_comm,
      Nat.div_add_mod']
  have hrest : d.nanos * n % 10 ^ 9 < 10 ^ 9 := Nat.mod_lt _ (by decide)
  rw [hexact, toNanos_max, saturatingMul]
  by_cases h : d.secs * n + d.nanos * n / 10 ^ 9 < 2 ^ 64
  · rw [dif_pos h, toNanos]
    dsimp only
    omega
  · rw [dif_neg h, toNanos_max]
    omega

theorem saturatingMul_mono {d e : Duration} {m n : Nat} (hd : d.toNanos ≤ e.toNanos) (hn : m ≤ n) :
    (d.saturatingMul m).toNanos ≤ (e.saturatingMul n).toNanos := by
  rw [toNanos_saturatingMul, toNanos_saturatingMul]
  exact min_le_min_right _ (Nat.mul_le_mul hd hn)

end Duration

namespace Backoff

def factor (b : Backoff) (attempt : Nat) : Nat :=
  match b with
  | .linear => min (attempt + 1) wordMax
  | .exponential => 2 ^ min attempt 16

def factorInWords (b : Backoff) (attempt : UInt32) : UInt32 :=
  match b with
  | .linear => saturated32 (attempt.toNat + 1)
  | .exponential => saturated32 (2 ^ (if attempt ≤ 16 then attempt else 16).toNat)

theorem factor_le (b : Backoff) (attempt : Nat) : b.factor attempt ≤ wordMax := by
  cases b with
  | linear => exact Nat.min_le_right _ _
  | exponential =>
    calc 2 ^ min attempt 16 ≤ 2 ^ 16 := Nat.pow_le_pow_right (by decide) (Nat.min_le_right _ _)
      _ ≤ wordMax := by decide

theorem monotone_factor (b : Backoff) : Monotone b.factor := by
  intro i j h
  cases b with
  | linear => exact min_le_min_right _ (Nat.succ_le_succ h)
  | exponential => exact Nat.pow_le_pow_right (by decide) (min_le_min_right _ h)

/-- No power that is taken is cut off: the number of the attempt is cut off before. -/
theorem toNat_factorInWords (b : Backoff) (attempt : UInt32) :
    (b.factorInWords attempt).toNat = b.factor attempt.toNat := by
  cases b with
  | linear => exact toNat_saturated32 _
  | exponential =>
    have hmin : (if attempt ≤ 16 then attempt else 16).toNat = min attempt.toNat 16 := by
      by_cases h : attempt ≤ 16
      · have hle : attempt.toNat ≤ 16 := UInt32.le_iff_toNat_le.mp h
        rw [if_pos h, Nat.min_eq_left hle]
      · have hlt : ¬ attempt.toNat ≤ 16 := fun hle => h (UInt32.le_iff_toNat_le.mpr hle)
        rw [if_neg h, Nat.min_eq_right (Nat.le_of_not_le hlt)]
        rfl
    rw [factorInWords, toNat_saturated32, hmin]
    exact Nat.min_eq_left (factor_le .exponential attempt.toNat)

end Backoff

namespace RetryPolicy

open Engine

section Policies

variable (p : RetryPolicy)

def delayInWords (attempt : UInt32) : Except Overflow Duration :=
  p.delay.saturatingMulInWords (p.backoff.factorInWords attempt)

theorem delayAfter_eq (attempt : Nat) :
    p.delayAfter attempt = p.delay.saturatingMul (p.backoff.factor attempt) := by
  unfold delayAfter Backoff.factor
  cases p.backoff <;> rfl

theorem delayInWords_eq (attempt : UInt32) :
    p.delayInWords attempt = .ok (p.delayAfter attempt.toNat) := by
  rw [delayInWords, Duration.saturatingMulInWords_eq, Backoff.toNat_factorInWords, delayAfter_eq]

theorem toNanos_delayAfter (attempt : Nat) : (p.delayAfter attempt).toNanos =
    min (p.delay.toNanos * p.backoff.factor attempt) Duration.max.toNanos := by
  rw [delayAfter_eq, Duration.toNanos_saturatingMul]

theorem monotone_delayAfter : Monotone fun attempt => (p.delayAfter attempt).toNanos := by
  intro i j h
  simp only [delayAfter_eq]
  exact Duration.saturatingMul_mono (Nat.le_refl _) (p.backoff.monotone_factor h)

end Policies

/-- Every wait of a policy, computed in words after an attempt of any number: it comes out without
an overflow and is the delay times the factor of the attempt in exact nanoseconds, or the longest
span. It never shrinks from one attempt to a later one, nor where the delay is longer, and so in
every run of a repetition no wait is shorter than one before. -/
theorem delayAfter_exact :
    (∀ (retries : Nat) (delay : Duration) (attempt : UInt32),
      ((linear retries delay).delayAfter attempt.toNat).toNanos =
        min (delay.toNanos * min (attempt.toNat + 1) (2 ^ 32 - 1))
          ((2 ^ 64 - 1) * 10 ^ 9 + 999999999) ∧
      ((exponential retries delay).delayAfter attempt.toNat).toNanos =
        min (delay.toNanos * 2 ^ min attempt.toNat 16) ((2 ^ 64 - 1) * 10 ^ 9 + 999999999)) ∧
    ∀ p : RetryPolicy,
      (∀ attempt : UInt32, p.delayInWords attempt = .ok (p.delayAfter attempt.toNat) ∧
        (p.delayAfter attempt.toNat).nanos < 10 ^ 9) ∧
      (Monotone fun attempt => (p.delayAfter attempt).toNanos) ∧
      (∀ (longer : Duration) (attempt : Nat), p.delay.toNanos ≤ longer.toNanos →
        (p.delayAfter attempt).toNanos ≤
          ({ p with delay := longer }.delayAfter attempt).toNanos) ∧
      ∀ {τ : Type} (op : Nat → Attempt τ) (log : Log) (r : Except FlowError τ),
        Ends (withRetry p op) log r → ∃ (tries : Nat → Try τ) (n : Nat),
          (∀ j ≤ n, (tries j).Made op j) ∧ Stops tries 0 p.retries n ∧
          log = spelled p tries 0 n ∧ r = (tries n).result ∧
          ((List.range n).map fun j => (p.delayAfter j).toNanos).Pairwise (· ≤ ·) := by
  refine ⟨fun retries delay attempt => ⟨?_, ?_⟩, fun p => ⟨fun attempt => ⟨?_, ?_⟩, ?_, ?_, ?_⟩⟩
  · exact toNanos_delayAfter (linear retries delay) attempt.toNat
  · exact toNanos_delayAfter (exponential retries delay) attempt.toNat
  · exact p.delayInWords_eq attempt
  · exact (p.delayAfter attempt.toNat).nanos_lt
  · exact p.monotone_delayAfter
  · intro longer attempt h
    simp only [delayAfter_eq]
    exact Duration.saturatingMul_mono h (Nat.le_refl _)
  · intro τ op log r h
    obtain ⟨tries, n, hmade, hstop, hlog, hr⟩ := ends_withRetry_iff.mp h
    refine ⟨tries, n, hmade, hstop, hlog, hr, ?_⟩
    exact List.pairwise_map.mpr (List.pairwise_lt_range.imp fun h => p.monotone_delayAfter h.le)

/-- The longest wait that a linear policy sets without being cut off, and one nanosecond more of
delay; and a run of two waits. -/
theorem delayAfter_exact_longest :
    let delay : Duration := ⟨2 ^ 32 + 1, 0, by decide, by decide⟩
    let longer : Duration := ⟨2 ^ 32 + 1, 1, by decide, by decide⟩
    let down : Nat → Attempt Unit := fun _ => throw (.navigation "down")
    delay.toNanos ≤ longer.toNanos ∧
    ((linear 2 delay).delayAfter 4294967295).toNanos = (2 ^ 64 - 1) * 10 ^ 9 ∧
    ((linear 2 longer).delayAfter 4294967295).toNanos = (2 ^ 64 - 1) * 10 ^ 9 + 999999999 ∧
    let log : Log := [pause (linear 2 delay) 0, pause (linear 2 delay) 1]
    Ends (withRetry (linear 2 delay) down) log (.error (.navigation "down")) ∧
      ∃ (tries : Nat → Try Unit) (n : Nat),
        (∀ j ≤ n, (tries j).Made down j) ∧ Stops tries 0 2 n ∧
        log = spelled (linear 2 delay) tries 0 n ∧
        .error (.navigation "down") = (tries n).result ∧
        ((List.range n).map fun j => ((linear 2 delay).delayAfter j).toNanos).Pairwise (· ≤ ·) := by
  intro delay longer down
  have hends : Ends (withRetry (linear 2 delay) down)
      [pause (linear 2 delay) 0, pause (linear 2 delay) 1] (.error (.navigation "down")) :=
    ends_withRetry_error_iff.mpr ⟨fun _ => ⟨[], .error (.navigation "down")⟩,
      fun j _ => ⟨(ends_throw_iff _ _).mpr ⟨rfl, rfl⟩, rfl⟩, rfl, rfl⟩
  refine ⟨by decide, ?_, ?_, hends, (delayAfter_exact.2 _).2.2.2 down _ _ hends⟩
  · exact (delayAfter_exact.1 2 delay 4294967295).1.trans (by decide)
  · exact (delayAfter_exact.1 2 longer 4294967295).1.trans (by decide)

end RetryPolicy
end PageFlow
