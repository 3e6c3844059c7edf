/-! String literals of JSON. `literal s` is one double-quoted literal: the quote, the backslash
and the characters below U+0020 are escaped and all else stands for itself. -/
namespace PageFlow
namespace Json

def hexDigit (n : Nat) : Char := if n < 10 then Char.ofNat (48 + n) else Char.ofNat (87 + n)

def escapeChar (c : Char) : List Char :=
  if c = '"' then ['\\', '"']
  else if c = '\\' then ['\\', '\\']
  else if c = '\x08' then ['\\', 'b']
  else if c = '\t' then ['\\', 't']
  else if c = '\n' then ['\\', 'n']
  else if c = '\x0c' then ['\\', 'f']
  else if c = '\r' then ['\\', 'r']
  else if c.toNat < 32 then ['\\', 'u', '0', '0', hexDigit (c.toNat / 16), hexDigit (c.toNat % 16)]
  else [c]

def escape : List Char → List Char
  | [] => []
  | c :: rest => escapeChar c ++ escape rest

def quote (s : List Char) : List Char := '"' :: escape s ++ ['"']

def literal (s : String) : String := String.ofList (quote s.toList)

end Json
end PageFlow
