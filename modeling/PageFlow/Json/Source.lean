import PageFlow.Json.Value
import PageFlow.Decimal.Reading
import PageFlow.Text.Hex

/-! JSON text as a tree that keeps what a reader may trip over. Reading stops at the first
character that cannot continue the text, and `broken` stands where it stopped, so a fault of shape
before that place is still found first. A string with a lone half of a surrogate pair and a number
beyond the doubles are faults only for those who look at them. -/
namespace PageFlow
namespace Json

inductive Number where
  | int (n : Int)
  | float (x : Float)
  | tooLarge

inductive Source where
  | null
  | bool (b : Bool)
  | number (n : Number)
  | string (s : Option String)
  | array (items : List Source)
  | object (members : List (Option String × Source))
  | broken
deriving Inhabited

def skipBlanks (cs : List Char) : List Char :=
  cs.dropWhile fun c => c = ' ' || c = '\n' || c = '\t' || c = '\r'

namespace Source

def hex4 : List Char → Option (Nat × List Char)
  | a :: b :: c :: d :: rest => do
    let w ← Hex.value? a
    let x ← Hex.value? b
    let y ← Hex.value? c
    let z ← Hex.value? d
    pure (w * 4096 + x * 256 + y * 16 + z, rest)
  | _ => none

def simpleEscape (c : Char) : Option Char :=
  if c = '"' ∨ c = '\\' ∨ c = '/' then some c
  else if c = 'b' then some '\x08'
  else if c = 'f' then some '\x0c'
  else if c = 'n' then some '\n'
  else if c = 'r' then some '\r'
  else if c = 't' then some '\t'
  else none

/-- What follows an opening quote: the characters, `none` for each lone surrogate, and the rest
after the closing quote. -/
def readChars (fuel : Nat) (cs : List Char) : Option (List (Option Char) × List Char) :=
  match fuel, cs with
  | 0, _ => none
  | _, [] => none
  | fuel + 1, c :: rest =>
    if c = '"' then some ([], rest)
    else if c.toNat < 32 then none
    else if c ≠ '\\' then (readChars fuel rest).map fun (s, r) => (some c :: s, r)
    else match rest with
      | 'u' :: after => do
        let (n, r) ← hex4 after
        if 0xD800 ≤ n ∧ n < 0xDC00 then
          match r with
          | '\\' :: 'u' :: more =>
            match hex4 more with
            | some (m, r') =>
              if 0xDC00 ≤ m ∧ m < 0xE000 then
                let point := 0x10000 + (n - 0xD800) * 1024 + (m - 0xDC00)
                (readChars fuel r').map fun (s, r) => (some (Char.ofNat point) :: s, r)
              else (readChars fuel r).map fun (s, r) => (none :: s, r)
            | none => none
          | _ => (readChars fuel r).map fun (s, r) => (none :: s, r)
        else if 0xDC00 ≤ n ∧ n < 0xE000 then (readChars fuel r).map fun (s, r) => (none :: s, r)
        else (readChars fuel r).map fun (s, r) => (some (Char.ofNat n) :: s, r)
      | e :: after => do
        let c ← simpleEscape e
        (readChars fuel after).map fun (s, r) => (some c :: s, r)
      | [] => none

def readString (cs : List Char) : Option (Option String × List Char) :=
  (readChars (cs.length + 1) cs).map fun (s, r) => ((s.mapM id).map String.ofList, r)

def digitsOf (cs : List Char) : List Nat × List Char :=
  ((cs.takeWhile Char.isDigit).map fun c => c.toNat - 48, cs.dropWhile Char.isDigit)

def power (cs : List Char) : Option (Int × List Char) :=
  let (negative, cs) := match cs with
    | '-' :: r => (true, r)
    | '+' :: r => (false, r)
    | r => (false, r)
  match digitsOf cs with
  | ([], _) => none
  | (ds, rest) =>
    let n : Int := (ds.foldl (fun n d => n * 10 + d) 0 : Nat)
    some (if negative then -n else n, rest)

def numberOf (x : Option Float) : Number :=
  match x with
  | some x => .float x
  | none => .tooLarge

/-- A number of which the sign has been read. A whole number is an integer if it fits 64 bits;
the negative zero is a double. -/
def readNumber (negative : Bool) (cs : List Char) : Option (Number × List Char) :=
  match digitsOf cs with
  | ([], _) => none
  | (0 :: _ :: _, _) => none
  | (ds, rest) =>
    let whole := ds.foldl Decimal.Gathered.whole Decimal.Gathered.empty
    let finish (g : Decimal.Gathered) (cs : List Char) : Option (Number × List Char) :=
      match cs with
      | c :: r =>
        if c = 'e' ∨ c = 'E' then
          (power r).map fun (p, r) => (numberOf (g.toFloat? negative p), r)
        else some (numberOf (g.toFloat? negative 0), cs)
      | [] => some (numberOf (g.toFloat? negative 0), cs)
    match rest with
    | '.' :: r =>
      match digitsOf r with
      | ([], _) => none
      | (places, r) => finish (places.foldl Decimal.Gathered.place whole.point) r
    | _ =>
      let exponent := match rest with
        | c :: _ => decide (c = 'e' ∨ c = 'E')
        | [] => false
      if exponent || whole.full then finish whole rest
      else if !negative then some (.int whole.significand, rest)
      else if 0 < whole.significand ∧ whole.significand ≤ 2 ^ 63 then
        some (.int (-(whole.significand : Int)), rest)
      else finish whole rest

def word (cs : List Char) (rest : List Char) : Option (List Char) :=
  if cs.isPrefixOf rest then some (rest.drop cs.length) else none

mutual
def readValue : Nat → List Char → Source × Option (List Char)
  | 0, _ => (.broken, none)
  | fuel + 1, cs =>
    match skipBlanks cs with
    | [] => (.broken, none)
    | c :: rest =>
      if c = '"' then
        match readString rest with
        | some (s, r) => (.string s, some r)
        | none => (.broken, none)
      else if c = '[' then
        match skipBlanks rest with
        | ']' :: r => (.array [], some r)
        | r =>
          let (items, r) := readItems fuel r
          (.array items, r)
      else if c = '\x7b' then
        match skipBlanks rest with
        | '\x7d' :: r => (.object [], some r)
        | r =>
          let (members, r) := readMembers fuel r
          (.object members, r)
      else if c = 'n' then ofWord .null (word ['u', 'l', 'l'] rest)
      else if c = 't' then ofWord (.bool true) (word ['r', 'u', 'e'] rest)
      else if c = 'f' then ofWord (.bool false) (word ['a', 'l', 's', 'e'] rest)
      else
        match (if c = '-' then readNumber true rest else readNumber false (c :: rest)) with
        | some (n, r) => (.number n, some r)
        | none => (.broken, none)
def ofWord (s : Source) : Option (List Char) → Source × Option (List Char)
  | some r => (s, some r)
  | none => (.broken, none)
def readItems : Nat → List Char → List Source × Option (List Char)
  | 0, _ => ([.broken], none)
  | fuel + 1, cs =>
    match readValue fuel cs with
    | (s, none) => ([s], none)
    | (s, some r) =>
      match skipBlanks r with
      | ',' :: r =>
        match skipBlanks r with
        | ']' :: _ => ([s, .broken], none)
        | r =>
          let (items, r) := readItems fuel r
          (s :: items, r)
      | ']' :: r => ([s], some r)
      | _ => ([s, .broken], none)
def readMembers : Nat → List Char → List (Option String × Source) × Option (List Char)
  | 0, _ => ([(none, .broken)], none)
  | fuel + 1, cs =>
    match skipBlanks cs with
    | '"' :: r =>
      match readString r with
      | none => ([(none, .broken)], none)
      | some (key, r) =>
        match skipBlanks r with
        | ':' :: r =>
          match readValue fuel r with
          | (s, none) => ([(key, s)], none)
          | (s, some r) =>
            match skipBlanks r with
            | ',' :: r =>
              let (more, r) := readMembers fuel r
              ((key, s) :: more, r)
            | '\x7d' :: r => ([(key, s)], some r)
            | _ => ([(key, s), (none, .broken)], none)
        | _ => ([(key, .broken)], none)
    | _ => ([(none, .broken)], none)
end

mutual
def whole : Source → Bool
  | .broken => false
  | .array items => wholeItems items
  | .object members => wholeMembers members
  | _ => true
def wholeItems : List Source → Bool
  | [] => true
  | s :: rest => whole s && wholeItems rest
def wholeMembers : List (Option String × Source) → Bool
  | [] => true
  | (_, s) :: rest => whole s && wholeMembers rest
end

mutual
/-- The value, if nothing in it is at fault and at most `depth - 1` containers stand inside one
another. -/
def toJson? (depth : Nat) : Source → Option Json
  | .null => some .null
  | .bool b => some (.bool b)
  | .number (.int n) => some (.int n)
  | .number (.float x) => some (.float x)
  | .number .tooLarge => none
  | .string s => s.map .str
  | .array items => if depth ≤ 1 then none else (toItems? (depth - 1) items).map .arr
  | .object members =>
    if depth ≤ 1 then none else (toFields? (depth - 1) members).map Json.object
  | .broken => none
def toItems? (depth : Nat) : List Source → Option (List Json)
  | [] => some []
  | s :: rest => do
    let j ← toJson? depth s
    let more ← toItems? depth rest
    pure (j :: more)
def toFields? (depth : Nat) : List (Option String × Source) → Option (List (String × Json))
  | [] => some []
  | (key, s) :: rest => do
    let k ← key
    let j ← toJson? depth s
    let more ← toFields? depth rest
    pure ((k, j) :: more)
end

end Source

/-- A whole text: its first value, and whether only blanks follow it. -/
structure Document where
  root : Source
  closed : Bool

def Document.read (s : String) : Document :=
  let cs := s.toList
  match Source.readValue (2 * cs.length + 2) cs with
  | (root, some rest) => ⟨root, (skipBlanks rest).isEmpty⟩
  | (root, none) => ⟨root, false⟩

/-- Values nested deeper than 127 containers are refused. -/
def depthLimit : Nat := 128

def parse? (s : String) : Option Json :=
  let document := Document.read s
  if document.closed then document.root.toJson? depthLimit else none

def parseBytes? (bytes : Bytes) : Option Json := (Text.decode? bytes).bind parse?

end Json
end PageFlow
