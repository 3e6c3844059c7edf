import PageFlow.Powers

/-! Spans of time: whole seconds below `2^64` and nanoseconds below `10^9`. A product beyond the
longest span is the longest span. -/
namespace PageFlow

structure Duration where
  secs : Nat
  nanos : Nat
  secs_lt : secs < 2 ^ 64
  nanos_lt : nanos < 10 ^ 9
deriving DecidableEq, Repr

namespace Duration

def zero : Duration := ⟨0, 0, by decide, by decide⟩
instance : Inhabited Duration := ⟨zero⟩

def max : Duration := ⟨2 ^ 64 - 1, 10 ^ 9 - 1, by decide, by decide⟩

def toNanos (d : Duration) : Nat := d.secs * 10 ^ 9 + d.nanos

def toMillis (d : Duration) : Nat := d.secs * 1000 + d.nanos / 10 ^ 6

/-- The span of so many nanoseconds, or the longest. -/
def ofNanos (n : Nat) : Duration :=
  if h : n / 10 ^ 9 < 2 ^ 64 then ⟨n / 10 ^ 9, n % 10 ^ 9, h, Nat.mod_lt _ (by decide)⟩ else max

def ofSecs (n : Nat) : Duration := ofNanos (n * 10 ^ 9)
def ofMillis (n : Nat) : Duration := ofNanos (n * 10 ^ 6)

/-- The product by seconds and nanoseconds with a carry, or the longest span. -/
def saturatingMul (d : Duration) (n : Nat) : Duration :=
  let total := d.nanos * n
  let secs := d.secs * n + total / 10 ^ 9
  if h : secs < 2 ^ 64 then ⟨secs, total % 10 ^ 9, h, Nat.mod_lt _ (by decide)⟩ else max

/-- Seconds as a double, the nanoseconds added as a fraction. -/
def toSeconds (d : Duration) : Float :=
  Float.ofNat d.secs + Float.ofNat d.nanos / Float.ofScientific 1 false 9

/-- `num / den` to the nearest whole number, a half to the even one. -/
def roundHalfEven (num den : Nat) : Nat :=
  let low := num / den
  let twice := 2 * (num % den)
  if den < twice ∨ (twice = den ∧ low % 2 = 1) then low + 1 else low

def nanosOf (x : Float) : Nat :=
  let bits := x.toBits.toNat
  let fraction : Nat := bits % 2 ^ 52
  let power : Nat := bits / 2 ^ 52 % 2 ^ 11
  let m : Nat := if power = 0 then fraction else fraction + 2 ^ 52
  let p : Nat := if power = 0 then 1 else power
  if 1075 ≤ p then m * 2 ^ (p - 1075) * 10 ^ 9 else roundHalfEven (m * 10 ^ 9) (2 ^ (1075 - p))

def longestWait : Nat := 86400

/-- The wait that a step asks for: from zero to the longest wait, to the nearest nanosecond. -/
def ofSeconds (x : Float) : Duration :=
  if x ≤ 0.0 then zero
  else if x < Float.ofNat longestWait then ofNanos (nanosOf x)
  else ofSecs longestWait

theorem toNanos_ofNanos {n : Nat} (h : n < 2 ^ 64 * 10 ^ 9) : (ofNanos n).toNanos = n := by
  have : n / 10 ^ 9 < 2 ^ 64 := by omega
  simp only [ofNanos, this, dite_true, toNanos]; omega

end Duration

/-- A moment on the clock of a run, in nanoseconds. The clock has no end. -/
abbrev Instant := Nat

end PageFlow
