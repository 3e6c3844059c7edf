import PageFlow.Json.Decode
import PageFlow.Text.Blank

/-! Moments of universal time, with a leap second where a minute has 61 of them. They are written
with the fewest of 0, 3, 6 or 9 places that lose nothing. Reading is lenient: fields of one or two
digits, blanks before fields and separators, a blank for the `T`, any offset of less than a day.
-/
namespace PageFlow

structure Moment where
  year : Int
  month : Nat
  day : Nat
  hour : Nat
  minute : Nat
  second : Nat
  nanos : Nat
deriving DecidableEq, Repr, Inhabited

namespace Moment

def isLeap (year : Int) : Bool :=
  year % 4 = 0 && (year % 100 ≠ 0 || year % 400 = 0)

def monthLength (year : Int) (month : Nat) : Nat :=
  if month = 2 then (if isLeap year then 29 else 28)
  else if month = 4 ∨ month = 6 ∨ month = 9 ∨ month = 11 then 30
  else 31

def firstYear : Int := -262143
def lastYear : Int := 262142

/-- Days from 1970-01-01; the year is counted from March. -/
def dayNumber (year : Int) (month day : Nat) : Int :=
  let y := if month ≤ 2 then year - 1 else year
  let era := y.fdiv 400
  let yearOfEra := y - era * 400
  let m : Int := if month > 2 then month - 3 else month + 9
  let dayOfYear := (153 * m + 2) / 5 + day - 1
  let dayOfEra := yearOfEra * 365 + yearOfEra / 4 - yearOfEra / 100 + dayOfYear
  era * 146097 + dayOfEra - 719468

def dateOf (n : Int) : Int × Nat × Nat :=
  let z := n + 719468
  let era := z.fdiv 146097
  let doe := z - era * 146097
  let yoe := (doe - doe / 1460 + doe / 36524 - doe / 146096) / 365
  let doy := doe - (365 * yoe + yoe / 4 - yoe / 100)
  let mp := (5 * doy + 2) / 153
  let day := doy - (153 * mp + 2) / 5 + 1
  let month := if mp < 10 then mp + 3 else mp - 9
  let year := yoe + era * 400 + (if month ≤ 2 then 1 else 0)
  (year, month.toNat, day.toNat)

/-- The moment `offset` seconds before a local time; a leap second stays one. -/
def shift (m : Moment) (offset : Int) : Option Moment :=
  if offset = 0 then some m
  else
    let leap := m.second = 60
    let second : Int := if leap then 59 else m.second
    let total := dayNumber m.year m.month m.day * 86400 + m.hour * 3600 + m.minute * 60 +
      second - offset
    let days := total.fdiv 86400
    let rest := (total - days * 86400).toNat
    let (year, month, day) := dateOf days
    if firstYear ≤ year ∧ year ≤ lastYear then
      let second := rest % 60
      some ⟨year, month, day, rest / 3600, rest / 60 % 60, if leap then second + 1 else second,
        m.nanos⟩
    else none

def ofMillis (ms : Nat) : Moment :=
  let secs := ms / 1000
  let (year, month, day) := dateOf (secs / 86400 : Nat)
  ⟨year, month, day, secs % 86400 / 3600, secs % 3600 / 60, secs % 60, ms % 1000 * 10 ^ 6⟩

def padded : Nat → Nat → List Char
  | 0, _ => []
  | width + 1, n => padded width (n / 10) ++ [Char.ofNat (48 + n % 10)]

def yearText (year : Int) : List Char :=
  if 0 ≤ year ∧ year ≤ 9999 then padded 4 year.toNat
  else
    let ds := Nat.toDigits 10 year.natAbs
    (if year < 0 then '-' else '+') :: List.replicate (4 - ds.length) '0' ++ ds

def places (nanos : Nat) : List Char :=
  if nanos = 0 then []
  else if nanos % 10 ^ 6 = 0 then '.' :: padded 3 (nanos / 10 ^ 6)
  else if nanos % 10 ^ 3 = 0 then '.' :: padded 6 (nanos / 10 ^ 3)
  else '.' :: padded 9 nanos

def upToSeconds (m : Moment) : List Char :=
  yearText m.year ++ '-' :: padded 2 m.month ++ '-' :: padded 2 m.day ++ 'T' :: padded 2 m.hour ++
    ':' :: padded 2 m.minute ++ ':' :: padded 2 m.second

def text (m : Moment) : String := String.ofList (m.upToSeconds ++ places m.nanos ++ ['Z'])

/-- With three places, whatever they are. -/
def millisText (m : Moment) : String :=
  String.ofList (m.upToSeconds ++ '.' :: padded 3 (m.nanos / 10 ^ 6) ++ ['Z'])

def skipBlank (cs : List Char) : List Char := cs.dropWhile Text.isBlank

/-- One to `most` digits. -/
def digits? (most : Nat) (cs : List Char) : Option (Nat × List Char) :=
  let ds := (cs.take most).takeWhile Char.isDigit
  if ds.isEmpty then none
  else some (ds.foldl (fun n c => n * 10 + (c.toNat - 48)) 0, cs.drop ds.length)

def number? (cs : List Char) : Option (Nat × List Char) := digits? 2 (skipBlank cs)

def year? (cs : List Char) : Option (Int × List Char) :=
  match skipBlank cs with
  | '-' :: r => (digits? r.length r).map fun (n, r) => (-(n : Int), r)
  | '+' :: r => (digits? r.length r).map fun (n, r) => ((n : Int), r)
  | r => (digits? 4 r).map fun (n, r) => ((n : Int), r)

def expect (c : Char) (cs : List Char) : Option (List Char) :=
  match skipBlank cs with
  | d :: r => if c = d then some r else none
  | [] => none

/-- A fraction of a second as nanoseconds; places after the ninth are dropped. -/
def fraction? (cs : List Char) : Option (Nat × List Char) :=
  match cs with
  | '.' :: r => do
    let (n, rest) ← digits? 9 r
    let count := r.length - rest.length
    pure (n * 10 ^ (9 - count), rest.dropWhile Char.isDigit)
  | _ => some (0, cs)

def offsetDigits? (cs : List Char) : Option (Int × List Char) :=
  match cs with
  | a :: b :: r =>
    if a.isDigit && b.isDigit then
      match r.dropWhile fun c => c = ':' || Text.isBlank c with
      | c :: d :: r =>
        if '0' ≤ c ∧ c ≤ '5' ∧ d.isDigit then
          some ((((a.toNat - 48) * 10 + (b.toNat - 48)) * 3600 +
            ((c.toNat - 48) * 10 + (d.toNat - 48)) * 60 : Nat), r)
        else none
      | _ => none
    else none
  | _ => none

/-- Seconds that the local time is ahead. -/
def offset? (cs : List Char) : Option (Int × List Char) :=
  match cs with
  | 'Z' :: r => some (0, r)
  | 'z' :: r => some (0, r)
  | '+' :: r => offsetDigits? r
  | '-' :: r => (offsetDigits? r).map fun (n, r) => (-n, r)
  | '\u2212' :: r => (offsetDigits? r).map fun (n, r) => (-n, r)
  | a :: b :: c :: r =>
    if (a.toUpper, b.toUpper, c.toUpper) = ('U', 'T', 'C') then some (0, r) else none
  | _ => none

def ofText? (s : String) : Option Moment := do
  let (year, r) ← year? s.toList
  let r ← expect '-' r
  let (month, r) ← number? r
  let r ← expect '-' r
  let (day, r) ← number? r
  let r ← match r with
    | c :: r => if c = 't' ∨ c = 'T' ∨ c = ' ' then some r else none
    | [] => none
  let (hour, r) ← number? r
  let r ← expect ':' r
  let (minute, r) ← number? r
  let r ← expect ':' r
  let (second, r) ← number? r
  let (nanos, r) ← fraction? r
  let (offset, r) ← offset? (skipBlank r)
  if skipBlank r = [] ∧ firstYear ≤ year ∧ year ≤ lastYear ∧ 1 ≤ month ∧ month ≤ 12 ∧ 1 ≤ day ∧
      day ≤ monthLength year month ∧ hour < 24 ∧ minute < 60 ∧ second ≤ 60 ∧
      offset.natAbs < 86400 then
    shift ⟨year, month, day, hour, minute, second, nanos⟩ offset
  else none

def read (d : Json.Doc) : Json.Read Moment :=
  match d.shape with
  | .malformed => .error .malformed
  | .str s => match ofText? s with
    | some m => .ok m
    | none => .error .badStamp
  | _ => .error .badStamp

end Moment
end PageFlow
