/-! Blank characters, trimming and lines. A character is blank iff it has the property
White_Space; `trim` removes blanks from both ends and nothing else. -/
namespace PageFlow
namespace Text

def isBlank (c : Char) : Bool :=
  let n := c.toNat
  (9 ≤ n && n ≤ 13) || n = 0x20 || n = 0x85 || n = 0xA0 || n = 0x1680 ||
  (0x2000 ≤ n && n ≤ 0x200A) || n = 0x2028 || n = 0x2029 || n = 0x202F || n = 0x205F || n = 0x3000

def trimEnd (s : List Char) : List Char := (s.reverse.dropWhile isBlank).reverse
def trim (s : List Char) : List Char := trimEnd (s.dropWhile isBlank)

def trimmed (s : String) : String := String.ofList (trim s.toList)

def dropReturn (line : List Char) : List Char :=
  if line.getLast? = some '\r' then line.dropLast else line

def linesFrom (current : List Char) : List Char → List (List Char)
  | [] => if current.isEmpty then [] else [current.reverse]
  | '\n' :: rest => dropReturn current.reverse :: linesFrom [] rest
  | c :: rest => linesFrom (c :: current) rest

/-- Lines end at a newline, with or without a carriage return before it; the last line may end
without one, and an empty last line is no line. -/
def lines (s : List Char) : List (List Char) := linesFrom [] s

end Text
end PageFlow
