import PageFlow.Json.Source

/-! What a parser says of a text that is not JSON: what it missed or found, and the line and the
column where it stopped. The text is scanned byte by byte; a place in it is known by the number of
bytes that are left behind it. -/
namespace PageFlow
namespace Json

structure Complaint where
  what : String
  /-- how many bytes lie behind the place -/
  left : Nat
deriving DecidableEq, Repr, Inhabited

namespace Complaint

abbrev Scan := Except Complaint Bytes

def here (what : String) (rest : Bytes) : Except Complaint τ := .error ⟨what, rest.length⟩

/-- A complaint about the byte after the place where reading stopped, if there is one. -/
def ahead (what : String) (rest : Bytes) : Except Complaint τ := .error ⟨what, rest.length - 1⟩

def skip (rest : Bytes) : Bytes := rest.dropWhile fun b => b = 32 || b = 10 || b = 9 || b = 13

def isDigit (b : UInt8) : Bool := 48 ≤ b && b ≤ 57

def word : List UInt8 → Bytes → Scan
  | [], rest => .ok rest
  | _ :: _, [] => here "EOF while parsing a value" []
  | expected :: more, b :: rest =>
    if b = expected then word more rest else here "expected ident" rest

def whole : Bytes → Scan
  | [] => here "EOF while parsing a value" []
  | b :: rest =>
    if b = 48 then
      if rest.head?.any isDigit then ahead "invalid number" rest else .ok rest
    else if isDigit b then .ok (rest.dropWhile isDigit)
    else here "invalid number" rest

def fraction : Bytes → Scan
  | 46 :: [] => here "EOF while parsing a value" []
  | 46 :: b :: rest =>
    if isDigit b then .ok (rest.dropWhile isDigit) else ahead "invalid number" (b :: rest)
  | rest => .ok rest

/-- More digits of an exponent. One of 31 bits or more makes a number too large at once, unless it
makes it small or the number is zero. -/
def power (small : Bool) : Nat → Bytes → Scan
  | _, [] => .ok []
  | n, b :: rest =>
    if !isDigit b then .ok (b :: rest)
    else
      let n := n * 10 + (b - 48).toNat
      if n < 2 ^ 31 then power small n rest
      else if small then .ok (rest.dropWhile isDigit)
      else here "number out of range" rest

def exponent (zero : Bool) : Bytes → Scan
  | b :: rest =>
    if b = 101 || b = 69 then
      let negative := rest.head? = some 45
      match (if negative || rest.head? = some 43 then rest.drop 1 else rest) with
      | [] => here "EOF while parsing a value" []
      | d :: rest =>
        if isDigit d then power (negative || zero) (d - 48).toNat rest
        else here "invalid number" rest
    else .ok (b :: rest)
  | [] => .ok []

def number (bytes : Bytes) : Scan := do
  let mantissa ← whole bytes >>= fraction
  let zero := (bytes.take (bytes.length - mantissa.length)).all fun b => b = 48 || b = 46
  let rest ← exponent zero mantissa
  let read := (bytes.take (bytes.length - rest.length)).map fun b => Char.ofNat b.toNat
  match Source.readNumber false read with
  | some (.tooLarge, _) => here "number out of range" rest
  | _ => .ok rest

def hex4 : Bytes → Except Complaint (Nat × Bytes)
  | a :: b :: c :: d :: rest =>
    match Source.hex4 ([a, b, c, d].map fun b => Char.ofNat b.toNat) with
    | some (n, _) => .ok (n, rest)
    | none => here "invalid escape" rest
  | _ => here "EOF while parsing a string" []

def pairEnd : Bytes → Scan
  | 92 :: 117 :: rest => do
    let (n, rest) ← hex4 rest
    if 0xDC00 ≤ n ∧ n < 0xE000 then .ok rest
    else here "lone leading surrogate in hex escape" rest
  | [] | [92] => here "EOF while parsing a string" []
  | 92 :: _ :: rest | _ :: rest => here "unexpected end of hex escape" rest

def escape : Bytes → Scan
  | [] => here "EOF while parsing a string" []
  | b :: rest =>
    if b = 117 then do
      let (n, rest) ← hex4 rest
      if 0xDC00 ≤ n ∧ n < 0xE000 then here "lone leading surrogate in hex escape" rest
      else if 0xD800 ≤ n ∧ n < 0xDC00 then pairEnd rest
      else .ok rest
    else if (Source.simpleEscape (Char.ofNat b.toNat)).isSome then .ok rest
    else here "invalid escape" rest

def chars : Nat → Bytes → Scan
  | 0, _ | _, [] => here "EOF while parsing a string" []
  | fuel + 1, b :: rest =>
    if b = 34 then .ok rest
    else if b < 32 then
      here "control character (\\u0000-\\u001F) found while parsing a string" rest
    else if b = 92 then escape rest >>= chars fuel
    else chars fuel rest

def string (bytes : Bytes) : Scan := do
  let rest ← chars (bytes.length + 1) bytes
  if (Text.decode? (bytes.take (bytes.length - rest.length))).isSome then .ok rest
  else here "invalid unicode code point" rest

mutual
def value : Nat → Nat → Bytes → Scan
  | 0, _, _ => here "EOF while parsing a value" []
  | fuel + 1, depth, bytes =>
    match skip bytes with
    | [] => here "EOF while parsing a value" []
    | b :: rest =>
      if b = 110 then word [117, 108, 108] rest
      else if b = 116 then word [114, 117, 101] rest
      else if b = 102 then word [97, 108, 115, 101] rest
      else if b = 45 then number rest
      else if isDigit b then number (b :: rest)
      else if b = 34 then string rest
      else if b = 91 || b = 123 then
        if depth ≤ 1 then ahead "recursion limit exceeded" (b :: rest)
        else if b = 91 then items fuel (depth - 1) true rest
        else members fuel (depth - 1) true rest
      else ahead "expected value" (b :: rest)
/-- The items of a list from the first on, or from the comma in front of another. -/
def items : Nat → Nat → Bool → Bytes → Scan
  | 0, _, _, _ => here "EOF while parsing a list" []
  | fuel + 1, depth, first, bytes =>
    match skip bytes with
    | [] => here "EOF while parsing a list" []
    | b :: rest =>
      if b = 93 then .ok rest
      else if first then value fuel depth (b :: rest) >>= items fuel depth false
      else if b = 44 then
        if (skip rest).head? = some 93 then ahead "trailing comma" (skip rest)
        else value fuel depth rest >>= items fuel depth false
      else ahead "expected `,` or `]`" (b :: rest)
def members : Nat → Nat → Bool → Bytes → Scan
  | 0, _, _, _ => here "EOF while parsing an object" []
  | fuel + 1, depth, first, bytes =>
    match skip bytes with
    | [] => here "EOF while parsing an object" []
    | b :: rest =>
      if b = 125 then .ok rest
      else if first then member fuel depth (b :: rest) >>= members fuel depth false
      else if b = 44 then
        match skip rest with
        | [] => here "EOF while parsing a value" []
        | c :: more =>
          if c = 125 then ahead "trailing comma" (c :: more)
          else member fuel depth (c :: more) >>= members fuel depth false
      else ahead "expected `,` or `\x7d`" (b :: rest)
def member : Nat → Nat → Bytes → Scan
  | 0, _, _ => here "EOF while parsing an object" []
  | fuel + 1, depth, bytes =>
    if bytes.head? = some 34 then do
      let rest ← string (bytes.drop 1)
      match skip rest with
      | [] => here "EOF while parsing an object" []
      | b :: more =>
        if b = 58 then value fuel depth more else ahead "expected `:`" (b :: more)
    else ahead "key must be a string" bytes
end

def ofText (text : Bytes) : Complaint :=
  match value (3 * text.length + 3) depthLimit text with
  | .error c => c
  | .ok rest => ⟨"trailing characters", (skip rest).length - 1⟩

def message (text : Bytes) (c : Complaint) : String :=
  let read := text.take (text.length - c.left)
  c.what ++ " at line " ++ toString (read.count 10 + 1) ++
    " column " ++ toString (read.reverse.takeWhile (· ≠ 10)).length

end Complaint

/-- What a parser says of a text that is not JSON. -/
def complaint (text : Bytes) : String := (Complaint.ofText text).message text

end Json
end PageFlow
