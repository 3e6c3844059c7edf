import PageFlow.Text.Hex
import PageFlow.Text.Split

/-! Tables over code points, written as texts. An entry is a code point in hexadecimal or, with
both ends, a run of them; `/2` behind a run means every second one. Behind an equals sign stands
the value of an entry, numbers with points between them. -/
namespace PageFlow
namespace Text

structure Run where
  first : Nat
  last : Nat
  step : Nat
  value : List Nat
deriving DecidableEq, Repr, Inhabited

namespace Run

def holds (r : Run) (n : Nat) : Bool :=
  r.first ≤ n && n ≤ r.last && (n - r.first) % r.step = 0

def number (cs : List Char) : Nat :=
  cs.foldl (fun n c => n * 16 + (Hex.value? c).getD 0) 0

def read (cs : List Char) : Run :=
  let (place, value) := cut '=' cs
  let (ends, step) := cut '/' place
  let (first, last) := cut '-' ends
  let value := match value with
    | some v => (splitOn (· = '.') v).map number
    | none => []
  ⟨number first, number (last.getD first), (step.map number).getD 1, value⟩

def readAll (s : String) : List Run :=
  ((splitOn (fun c => c = ' ' || c = '\n') s.toList).filter fun w => !w.isEmpty).map read

end Run

def run? (table : List Run) (c : Char) : Option Run := table.find? fun r => r.holds c.toNat

def isIn (table : List Run) (c : Char) : Bool := table.any fun r => r.holds c.toNat

end Text
end PageFlow
