import PageFlow.Text.Utf8
import PageFlow.Text.Hex

/-! Percent encoding: a character outside a set is written as its bytes, each by two digits. -/
namespace PageFlow
namespace Percent

def upperDigit (n : Nat) : Char := (Hex.digit n).toUpper

def byteText (b : UInt8) : List Char := ['%', upperDigit (b.toNat / 16), upperDigit (b.toNat % 16)]

def encodeChar (c : Char) : List Char := (Text.encode (String.singleton c)).flatMap byteText

def encode (escaped : Char → Bool) (cs : List Char) : List Char :=
  cs.flatMap fun c => if escaped c then encodeChar c else [c]

/-- Reads a text as bytes; a percent sign without two digits stands for itself. -/
def decodeFrom : List Char → Bytes
  | [] => []
  | '%' :: a :: b :: rest =>
    match Hex.value? a, Hex.value? b with
    | some x, some y => UInt8.ofNat (x * 16 + y) :: decodeFrom rest
    | _, _ => UInt8.ofNat 0x25 :: decodeFrom (a :: b :: rest)
  | c :: rest => Text.encode (String.singleton c) ++ decodeFrom rest
termination_by cs => cs.length

def decode (s : String) : Bytes := decodeFrom s.toList

/-- Characters that a form leaves as they are. -/
def isFormPlain (c : Char) : Bool := c.isAlphanum || c = '*' || c = '-' || c = '.' || c = '_'

/-- A name or a value of a form: a space is written as a plus sign. -/
def formText (s : String) : List Char :=
  s.toList.flatMap fun c =>
    if c = ' ' then ['+'] else if isFormPlain c then [c] else encodeChar c

def form (pairs : List (String × String)) : String :=
  "&".intercalate (pairs.map fun p => String.ofList (formText p.1 ++ '=' :: formText p.2))

end Percent
end PageFlow
