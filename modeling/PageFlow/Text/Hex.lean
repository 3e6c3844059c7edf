import PageFlow.Text.Utf8

/-! Lowercase hexadecimal. `decode?` takes either case and refuses an odd number of digits. -/
namespace PageFlow
namespace Hex

def digit (n : Nat) : Char := if n < 10 then Char.ofNat (48 + n) else Char.ofNat (87 + n)

def value? (c : Char) : Option Nat :=
  if '0' ≤ c ∧ c ≤ '9' then some (c.toNat - 48)
  else if 'a' ≤ c ∧ c ≤ 'f' then some (c.toNat - 87)
  else if 'A' ≤ c ∧ c ≤ 'F' then some (c.toNat - 55)
  else none

def encode : Bytes → List Char
  | [] => []
  | b :: rest => digit (b.toNat / 16) :: digit (b.toNat % 16) :: encode rest

def decode? : List Char → Option Bytes
  | [] => some []
  | [_] => none
  | a :: b :: rest => do
    let x ← value? a
    let y ← value? b
    let more ← decode? rest
    pure (UInt8.ofNat (x * 16 + y) :: more)

def text (bytes : Bytes) : String := String.ofList (encode bytes)

/-- The fewest digits of a number. -/
def ofNat (n : Nat) : String := String.ofList (Nat.toDigits 16 n)

end Hex
end PageFlow
