import PageFlow.Powers

/-! Reading decimals as doubles. Digits are gathered while they fit 64 bits; the rest only move
the point. The gathered number is then scaled by a power of ten with one rounding a step, and a
result beyond the finite doubles is refused. -/
namespace PageFlow
namespace Decimal

def wordLimit : Nat := 2 ^ 64

/-- The digits that were kept and the power of ten they stand at. -/
structure Gathered where
  significand : Nat
  exponent : Int
  full : Bool

def Gathered.empty : Gathered := ⟨0, 0, false⟩

def Gathered.whole (g : Gathered) (digit : Nat) : Gathered :=
  if g.full then { g with exponent := g.exponent + 1 }
  else if wordLimit ≤ g.significand * 10 + digit then ⟨g.significand, g.exponent + 1, true⟩
  else { g with significand := g.significand * 10 + digit }

def Gathered.point (g : Gathered) : Gathered := { g with full := false }

/-- A digit after the point; once one does not fit, all later ones are dropped. -/
def Gathered.place (g : Gathered) (digit : Nat) : Gathered :=
  if g.full then g
  else if wordLimit ≤ g.significand * 10 + digit then { g with full := true }
  else ⟨g.significand * 10 + digit, g.exponent - 1, false⟩

def powerOfTen (k : Nat) : Float := Float.ofScientific 1 false k

/-- `f * 10^e`; the fuel bounds the divisions by `10^308`, of which three reach zero. -/
def scaled : Nat → Float → Int → Option Float
  | 0, f, _ => some f
  | fuel + 1, f, e =>
    if e.natAbs ≤ 308 then
      if 0 ≤ e then
        let g := f * powerOfTen e.natAbs
        if g.isInf then none else some g
      else some (f / powerOfTen e.natAbs)
    else if f == 0 then some f
    else if 0 ≤ e then none
    else scaled fuel (f / powerOfTen 308) (e + 308)

def toFloat? (negative : Bool) (significand : Nat) (exponent : Int) : Option Float :=
  (scaled 8 (Float.ofNat significand) exponent).map fun f => if negative then -f else f

/-- The largest written power of ten that is still counted. -/
def exponentLimit : Nat := 2 ^ 31

def Gathered.toFloat? (g : Gathered) (negative : Bool) (power : Int) : Option Float :=
  if power.natAbs < exponentLimit then Decimal.toFloat? negative g.significand (g.exponent + power)
  else if g.significand ≠ 0 ∧ 0 < power then none
  else some (if negative then -0.0 else 0.0)

end Decimal
end PageFlow
