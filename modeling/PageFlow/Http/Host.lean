import PageFlow.Http.DomainName
import PageFlow.Text.Percent

/-! Hosts of addresses: names in ASCII, and addresses of version 4 and 6 in their one written
form. -/
namespace PageFlow
namespace Http

open Text

/-- A part of an address of version 4: decimal, octal after a zero, or hexadecimal. -/
def partValue? (part : List Char) : Option Nat :=
  let inBase (base : Nat) (digits : List Char) : Option Nat :=
    digits.foldl (fun acc c => do
      let n ← acc
      let d ← Hex.value? c
      if d < base then some (n * base + d) else none) (some 0)
  match part with
  | '0' :: 'x' :: rest => inBase 16 rest
  | '0' :: rest => inBase 8 rest
  | [] => none
  | digits => inBase 10 digits

def dotted (n : Nat) : String :=
  ".".intercalate ([n / 2 ^ 24, n / 2 ^ 16 % 256, n / 2 ^ 8 % 256, n % 256].map toString)

/-- An address of version 4: the last part fills what the others leave. -/
def address4? (parts : List (List Char)) : Option String := do
  let parts := if parts.getLast? = some [] ∧ 1 < parts.length then parts.dropLast else parts
  let values ← parts.mapM partValue?
  let last ← values.getLast?
  let front := values.dropLast
  if 3 < front.length ∨ front.any (255 < ·) then none
  else
    let room := 256 ^ (4 - front.length)
    if room ≤ last then none
    else some (dotted (front.foldl (fun acc v => acc * 256 + v) 0 * room + last))

/-- Whether a name has to be an address: its last part looks like a number. -/
def endsInNumber (parts : List (List Char)) : Bool :=
  let parts := if parts.getLast? = some [] then parts.dropLast else parts
  match parts.getLast? with
  | some part => (!part.isEmpty && part.all Char.isDigit) || (partValue? part).isSome
  | none => false

def piece? (digits : List Char) : Option Nat :=
  if digits.isEmpty ∨ 4 < digits.length then none
  else digits.foldl (fun acc c => do
    let n ← acc
    let d ← Hex.value? c
    some (n * 16 + d)) (some 0)

def tailPieces? (part : List Char) : Option (List Nat) := do
  let parts := splitOn (· = '.') part
  if parts.length ≠ 4 then none
  else
    let values ← parts.mapM fun d =>
      if d.isEmpty ∨ 3 < d.length ∨ d.any (fun c => !c.isDigit) ∨
          (d.head? = some '0' ∧ 1 < d.length) then none
      else partValue? d
    match values with
    | [a, b, c, d] => if values.any (255 < ·) then none else some [a * 256 + b, c * 256 + d]
    | _ => none

def pieces? (text : List Char) : Option (List Nat) :=
  if text.isEmpty then some [] else (splitOn (· = ':') text).mapM piece?

/-- Pieces up to the end of an address, where one of version 4 may stand for the last two. -/
def lastPieces? (text : List Char) : Option (List Nat) :=
  match cutLast ':' text with
  | some (front, last) =>
    if last.contains '.' then do
      let front ← (splitOn (· = ':') front).mapM piece?
      let back ← tailPieces? last
      pure (front ++ back)
    else pieces? text
  | none => if text.contains '.' then tailPieces? text else pieces? text

def splitGap : List Char → Option (List Char × List Char)
  | ':' :: ':' :: rest => some ([], rest)
  | c :: rest => (splitGap rest).map fun p => (c :: p.1, p.2)
  | [] => none

def address6? (text : List Char) : Option (List Nat) := do
  match splitGap text with
  | some (front, back) =>
    let a ← pieces? front
    let b ← lastPieces? back
    if 7 < a.length + b.length then none
    else some (a ++ List.replicate (8 - a.length - b.length) 0 ++ b)
  | none => do
    let all ← lastPieces? text
    if all.length = 8 then some all else none

def zeroRun : List Nat → Nat
  | 0 :: rest => zeroRun rest + 1
  | _ => 0

/-- Start and length of the longest run of zeros, the first of equal ones. -/
def longestRun : Nat → List Nat → Nat × Nat
  | _, [] => (0, 0)
  | at_, n :: rest =>
    let here := (at_, zeroRun (n :: rest))
    let later := longestRun (at_ + 1) rest
    if here.2 < later.2 then later else here

def hexPieces (pieces : List Nat) : String := ":".intercalate (pieces.map Hex.ofNat)

def text6 (pieces : List Nat) : String :=
  let (start, length) := longestRun 0 pieces
  if length < 2 then hexPieces pieces
  else hexPieces (pieces.take start) ++ "::" ++ hexPieces (pieces.drop (start + length))

def readHost (text : List Char) : Option String :=
  match text with
  | '[' :: rest =>
    if rest.getLast? = some ']' then
      (address6? rest.dropLast).map fun p => "[" ++ text6 p ++ "]"
    else none
  | _ => do
    let labels ← DomainName.toAscii? (decodeLossy (Percent.decodeFrom text)).toList
    let ascii := (".".toList).intercalate labels
    if ascii.isEmpty then none
    else if endsInNumber labels then address4? labels
    else some (String.ofList ascii)

/-- The host of any other address: only some characters are refused. -/
def readOtherHost (text : List Char) : Option String :=
  match text with
  | '[' :: _ => readHost text
  | _ =>
    if text.any fun c => c.toNat = 0 || " #/:<>?@[\\]^|".toList.contains c then none
    else some (String.ofList (Percent.encode (fun c => c.toNat < 0x20 || 0x7E < c.toNat) text))

end Http
end PageFlow
