/-! How alike two words are. Letters match if they are equal and stand about as far from the start;
what counts is how many of either word match, and how many of them keep their order. -/
namespace PageFlow
namespace Text
namespace Similar

/-- Takes a letter out of those that are left of a word, each with its place: the first equal one
with a place in a range. -/
def take (c : Char) (low high : Nat) : List (Char × Nat) → Option (Nat × List (Char × Nat))
  | [] => none
  | (d, i) :: rest =>
    if c = d ∧ low ≤ i ∧ i ≤ high then some (i, rest)
    else (take c low high rest).map fun r => (r.1, (d, i) :: r.2)

def matchesFrom (range i : Nat) (left : List (Char × Nat)) : List Char → List (Char × Nat)
  | [] => []
  | c :: rest =>
    match take c (i - range) (i + range) left with
    | some (place, left) => (c, place) :: matchesFrom range (i + 1) left rest
    | none => matchesFrom range (i + 1) left rest

def matching (a b : List Char) : List (Char × Nat) :=
  matchesFrom (max a.length b.length / 2 - 1) 0 b.zipIdx a

/-- Of letters with places, how many differ from those in the order of the places. -/
def displaced (pairs : List (Char × Nat)) : Nat :=
  let inOrder := pairs.mergeSort fun p q => p.2 ≤ q.2
  (pairs.zip inOrder).countP fun p => p.1.1 ≠ p.2.1

/-- From 0 for words without a common letter to 1 for equal ones. -/
def likeness (a b : String) : Float :=
  let pairs := matching a.toList b.toList
  let swaps := displaced pairs / 2
  let share (n total : Nat) : Float := n.toFloat / total.toFloat
  if a = "" ∧ b = "" then 1
  else if pairs.isEmpty then 0
  else (share pairs.length a.length + share pairs.length b.length +
    share (pairs.length - swaps) pairs.length) / 3

def among (word : String) (words : List String) : List String :=
  let rated := words.map fun w => (w, likeness word w)
  ((rated.filter fun r => 0.7 < r.2).mergeSort fun p q => p.2 ≤ q.2).map (·.1)

end Similar
end Text
end PageFlow
