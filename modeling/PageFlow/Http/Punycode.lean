import PageFlow.Powers

/-! Labels of names in ASCII. The plain characters stand first; behind a hyphen, numbers say which
other characters are inserted and where, from the lowest code point up. The weights of the digits
follow a bias that adapts to the numbers seen. -/
namespace PageFlow
namespace Http
namespace Punycode

def adapt (delta : Nat) (k : Nat) : Nat :=
  if 455 < delta then adapt (delta / 35) (k + 36) else k + 36 * delta / (delta + 38)
termination_by delta
decreasing_by exact Nat.div_lt_self (by omega) (by omega)

/-- The bias after a number; `points` characters are there by then. -/
def bias (delta points : Nat) (first : Bool) : Nat :=
  let delta := if first then delta / 700 else delta / 2
  adapt (delta + delta / points) 0

/-- From which digit on a number goes on. -/
def threshold (bias k : Nat) : Nat :=
  if k ≤ bias then 1 else if bias + 26 ≤ k then 26 else k - bias

theorem threshold_pos (bias k : Nat) : 1 ≤ threshold bias k := by
  unfold threshold
  split
  · omega
  · split <;> omega

theorem threshold_le (bias k : Nat) : threshold bias k ≤ 26 := by
  unfold threshold
  split
  · omega
  · split <;> omega

def digit (n : Nat) : Char := if n < 26 then Char.ofNat (97 + n) else Char.ofNat (22 + n)

def value? (c : Char) : Option Nat :=
  if 'a' ≤ c ∧ c ≤ 'z' then some (c.toNat - 97)
  else if 'A' ≤ c ∧ c ≤ 'Z' then some (c.toNat - 65)
  else if '0' ≤ c ∧ c ≤ '9' then some (c.toNat - 22)
  else none

/-- A number in digits whose weights depend on the bias. -/
def number (bias k q : Nat) : List Char :=
  let t := threshold bias k
  if q < t then [digit q]
  else digit (t + (q - t) % (36 - t)) :: number bias (k + 36) ((q - t) / (36 - t))
termination_by q
decreasing_by
  have h₁ := threshold_pos bias k
  have h₂ := threshold_le bias k
  calc (q - threshold bias k) / (36 - threshold bias k)
      ≤ q - threshold bias k := Nat.div_le_self _ _
    _ < q := by omega

structure Encoder where
  delta : Nat
  bias : Nat
  handled : Nat
  first : Bool

/-- Codes for the insertions of one code point, walking over the label. -/
def insertions (point : Nat) : Encoder → List Nat → List Char × Encoder
  | e, [] => ([], e)
  | e, c :: rest =>
    if c < point then insertions point { e with delta := e.delta + 1 } rest
    else if c = point then
      let next := insertions point
        ⟨0, bias e.delta (e.handled + 1) e.first, e.handled + 1, false⟩ rest
      (number e.bias 36 e.delta ++ next.1, next.2)
    else insertions point e rest

/-- Codes for all code points of a label that are given in ascending order. -/
def codes (label : List Nat) : List Nat → Nat → Encoder → List Char
  | [], _, _ => []
  | point :: rest, reached, e =>
    let (text, e) := insertions point
      { e with delta := e.delta + (point - reached) * (e.handled + 1) } label
    text ++ codes label rest (point + 1) { e with delta := e.delta + 1 }

def inserted (label : List Nat) : List Nat :=
  ((label.filter (128 ≤ ·)).eraseDups).mergeSort

def encode (label : List Char) : List Char :=
  let plain := label.filter fun c => c.toNat < 128
  let points := label.map Char.toNat
  (if plain.isEmpty then [] else plain ++ ['-']) ++
    codes points (inserted points) 128 ⟨0, 72, plain.length, true⟩

/-- The number at the start of a text, added to another; numbers have 32 bits. -/
def number? (bias : Nat) : List Char → Nat → Nat → Nat → Option (Nat × List Char)
  | [], _, _, _ => none
  | c :: rest, k, weight, sum => do
    let d ← value? c
    let t := threshold bias k
    if d < t then some (sum + d * weight, rest)
    else if 2 ^ 32 ≤ weight * (36 - t) then none
    else number? bias rest (k + 36) (weight * (36 - t)) (sum + d * weight)

theorem length_lt_of_number? {bias : Nat} {cs : List Char} {k weight sum : Nat}
    {r : Nat × List Char} (h : number? bias cs k weight sum = some r) :
    r.2.length < cs.length := by
  induction cs generalizing k weight sum with
  | nil => simp [number?] at h
  | cons c rest ih =>
    simp only [number?, Option.bind_eq_bind, Option.bind_eq_some_iff] at h
    obtain ⟨d, -, h⟩ := h
    split at h
    · cases h; simp
    · split at h
      · simp at h
      · exact Nat.lt_succ_of_lt (ih h)

def insertAll (bias point place : Nat) (label : List Char) (cs : List Char) :
    Option (List Char) :=
  match cs with
  | [] => some label
  | c :: rest =>
    match _h : number? bias (c :: rest) 36 1 place with
    | none => none
    | some (sum, more) =>
      let size := label.length + 1
      let point' := point + sum / size
      if point'.isValidChar then
        insertAll (Punycode.bias (sum - place) size (place = 0)) point' (sum % size + 1)
          (label.insertIdx (sum % size) (Char.ofNat point')) more
      else none
termination_by cs.length
decreasing_by exact length_lt_of_number? (by assumption)

def decode? (cs : List Char) : Option (List Char) :=
  match cs.reverse.dropWhile (· ≠ '-') with
  | '-' :: plain =>
    if plain.isEmpty ∨ plain.any fun c => 128 ≤ c.toNat then none
    else insertAll 72 128 0 plain.reverse (cs.drop (plain.length + 1))
  | _ => insertAll 72 128 0 [] cs

end Punycode
end Http
end PageFlow
