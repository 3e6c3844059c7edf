/-! Bytes and UTF-8. `encode` writes a text; `decodeLossy` reads any bytes and puts U+FFFD for
each longest piece that starts no character; `decode?` refuses such bytes. -/
namespace PageFlow

abbrev Bytes := List UInt8

namespace Text

def encode (s : String) : Bytes := s.toUTF8.data.toList

def sequenceOf (first : UInt8) : Option (Nat × UInt8 × UInt8) :=
  if 0xC2 ≤ first ∧ first ≤ 0xDF then some (1, 0x80, 0xBF)
  else if first = 0xE0 then some (2, 0xA0, 0xBF)
  else if first = 0xED then some (2, 0x80, 0x9F)
  else if 0xE1 ≤ first ∧ first ≤ 0xEF then some (2, 0x80, 0xBF)
  else if first = 0xF0 then some (3, 0x90, 0xBF)
  else if 0xF1 ≤ first ∧ first ≤ 0xF3 then some (3, 0x80, 0xBF)
  else if first = 0xF4 then some (3, 0x80, 0x8F)
  else none

/-- Where a decoder stands: the code point so far and what the next bytes must be. -/
structure Partial where
  point : Nat
  missing : Nat
  low : UInt8
  high : UInt8

/-- Each character, or `none` for each piece that starts none. -/
def scanFrom : Option Partial → Bytes → List (Option Char)
  | none, [] => []
  | some _, [] => [none]
  | none, b :: rest =>
    if b < 0x80 then some (Char.ofNat b.toNat) :: scanFrom none rest
    else match sequenceOf b with
      | none => none :: scanFrom none rest
      | some (n, low, high) =>
        let bits := if n = 1 then b.toNat % 32 else if n = 2 then b.toNat % 16 else b.toNat % 8
        scanFrom (some ⟨bits, n, low, high⟩) rest
  | some p, b :: rest =>
    if p.low ≤ b ∧ b ≤ p.high then
      let point := p.point * 64 + b.toNat % 64
      if p.missing ≤ 1 then some (Char.ofNat point) :: scanFrom none rest
      else scanFrom (some ⟨point, p.missing - 1, 0x80, 0xBF⟩) rest
    else if b < 0x80 then none :: some (Char.ofNat b.toNat) :: scanFrom none rest
    else match sequenceOf b with
      | none => none :: none :: scanFrom none rest
      | some (n, low, high) =>
        let bits := if n = 1 then b.toNat % 32 else if n = 2 then b.toNat % 16 else b.toNat % 8
        none :: scanFrom (some ⟨bits, n, low, high⟩) rest

def scan (bytes : Bytes) : List (Option Char) := scanFrom none bytes

def decode? (bytes : Bytes) : Option String := ((scan bytes).mapM id).map String.ofList
def decodeLossy (bytes : Bytes) : String :=
  String.ofList ((scan bytes).map fun c => c.getD '\ufffd')

end Text
end PageFlow
