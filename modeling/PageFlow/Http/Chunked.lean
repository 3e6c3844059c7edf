import PageFlow.Text.Hex

/-! Bodies in chunks: each chunk follows a line with its size, and one of size zero is the last.
Lines after that may say more and end with an empty one. -/
namespace PageFlow
namespace Http
namespace Chunked

def hexValue? (b : UInt8) : Option Nat := Hex.value? (Char.ofNat b.toNat)

def number (n : Nat) : Bytes → Nat × Bytes
  | [] => (n, [])
  | b :: rest =>
    match hexValue? b with
    | some d => number (n * 16 + d) rest
    | none => (n, b :: rest)

def afterLine? : Bytes → Option Bytes
  | [] => none
  | 13 :: 10 :: rest => some rest
  | b :: rest => if b = 13 then none else afterLine? rest

/-- The size of a chunk, and what follows its line; blanks and a remark may stand behind it. -/
def size? (bytes : Bytes) : Option (Nat × Bytes) := do
  let first ← bytes.head?
  let _ ← hexValue? first
  let (n, rest) := number 0 bytes
  let rest := rest.dropWhile fun b => b = 32 || b = 9
  if rest.head? = some 13 ∨ rest.head? = some 59 then
    let rest ← afterLine? rest
    some (n, rest)
  else none

/-- Whether lines come to an empty one; fuel is the number of bytes. -/
def ends : Nat → Bytes → Bool
  | 0, _ => false
  | fuel + 1, bytes =>
    match bytes with
    | 13 :: 10 :: _ => true
    | _ => (afterLine? bytes).any (ends fuel)

def decodeFrom : Nat → Bytes → Option Bytes
  | 0, _ => none
  | fuel + 1, bytes => do
    let (size, rest) ← size? bytes
    if size = 0 then if ends rest.length rest then some [] else none
    else if rest.length < size then none
    else match rest.drop size with
      | 13 :: 10 :: more => (decodeFrom fuel more).map (rest.take size ++ ·)
      | _ => none

/-- The body that chunks make up, if all of them are there. -/
def decode? (bytes : Bytes) : Option Bytes := decodeFrom bytes.length bytes

end Chunked
end Http
end PageFlow
