import PageFlow.Powers

/-! The shortest decimal that reads back as a given double. A double is `m * 2^q`; the reals that
round to it form an interval with the ends included iff `m` is even. On the grid of decimals with
1, 2, ... 17 digits the two neighbours of the value are tried, the nearer first. -/
namespace PageFlow

structure Decimal where
  digits : Nat
  exponent : Int
deriving DecidableEq, Repr

namespace Decimal

structure Ratio where
  num : Nat
  den : Nat

def Ratio.scale (r : Ratio) (k : Int) : Ratio :=
  if 0 ≤ k then ⟨r.num * 10 ^ k.toNat, r.den⟩ else ⟨r.num, r.den * 10 ^ (-k).toNat⟩

def digitCount (n : Nat) : Nat := (Nat.toDigits 10 n).length

/-- The place of the leading digit: `10^k ≤ r < 10^(k+1)`. -/
def Ratio.leading (r : Ratio) : Int :=
  if r.den ≤ r.num then (digitCount (r.num / r.den) : Int) - 1
  else
    let count := digitCount (r.den / r.num)
    if r.num * 10 ^ (count - 1) = r.den then 1 - (count : Int) else -(count : Int)

/-- A double as four times its value, and the ends of its interval at the same scale. -/
structure Interval where
  low : Nat
  value : Nat
  high : Nat
  closed : Bool
  power : Int

def intervalOf (m : Nat) (q : Int) (lowest : Bool) : Interval :=
  ⟨if m = 2 ^ 52 ∧ !lowest then 4 * m - 1 else 4 * m - 2, 4 * m, 4 * m + 2, m % 2 = 0, q - 2⟩

def Interval.ratio (i : Interval) (n : Nat) : Ratio :=
  if 0 ≤ i.power then ⟨n * 2 ^ i.power.toNat, 1⟩ else ⟨n, 2 ^ (-i.power).toNat⟩

def Interval.holds (i : Interval) (d : Nat) (k : Int) : Bool :=
  let low := (i.ratio i.low).scale (-k)
  let high := (i.ratio i.high).scale (-k)
  if i.closed then low.num ≤ d * low.den && d * high.den ≤ high.num
  else low.num < d * low.den && d * high.den < high.num

/-- The decimal of `n` digits nearest to the value, if it reads back. -/
def Interval.withDigits (i : Interval) (leading : Int) (n : Nat) : Option Decimal :=
  let k : Int := leading + 1 - n
  let r := (i.ratio i.value).scale (-k)
  let below := r.num / r.den
  let twice := 2 * (r.num % r.den)
  let up : Bool := r.den < twice ∨ (r.den = twice ∧ below % 2 = 1)
  let (first, second) := if up then (below + 1, below) else (below, below + 1)
  if i.holds first k then some ⟨first, k⟩ else if i.holds second k then some ⟨second, k⟩ else none

def stripZeros : Nat → Decimal → Decimal
  | 0, d => d
  | n + 1, d => if d.digits % 10 = 0 then stripZeros n ⟨d.digits / 10, d.exponent + 1⟩ else d

def Interval.shortest (i : Interval) : Decimal :=
  let leading := (i.ratio i.value).leading
  match ((List.range 17).map (· + 1)).findSome? (i.withDigits leading) with
  | some d => stripZeros 18 d
  | none => ⟨0, 0⟩

def ofBits (bits : Nat) : Decimal :=
  let fraction := bits % 2 ^ 52
  let power : Nat := bits / 2 ^ 52 % 2 ^ 11
  if power = 0 then (intervalOf fraction (-1074) true).shortest
  else (intervalOf (fraction + 2 ^ 52) ((power : Int) - 1075) (power = 1)).shortest

def zeros (n : Nat) : List Char := List.replicate n '0'

/-- Positional from `10^-5` up to `10^16`, with at least one place; beyond that one digit stands
before the point and the power of ten has its sign. -/
def write (d : Decimal) : List Char :=
  let digits := Nat.toDigits 10 d.digits
  let count := digits.length
  let leading : Int := d.exponent + count - 1
  if -5 ≤ leading ∧ leading < 16 then
    if 0 ≤ d.exponent then digits ++ zeros d.exponent.toNat ++ ['.', '0']
    else if 0 ≤ leading then
      digits.take (leading.toNat + 1) ++ '.' :: digits.drop (leading.toNat + 1)
    else '0' :: '.' :: zeros (-leading - 1).toNat ++ digits
  else
    let mantissa := if count = 1 then digits else digits.take 1 ++ '.' :: digits.drop 1
    let mark := if leading < 0 then ['e', '-'] else ['e', '+']
    mantissa ++ mark ++ Nat.toDigits 10 leading.natAbs

end Decimal

def floatText (x : Float) : String :=
  let bits := x.toBits.toNat
  let magnitude := bits % 2 ^ 63
  let body := if magnitude = 0 then ['0', '.', '0'] else (Decimal.ofBits magnitude).write
  String.ofList (if bits = magnitude then body else '-' :: body)

end PageFlow
