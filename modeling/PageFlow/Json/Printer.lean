import PageFlow.Json.Value
import PageFlow.Json.Literal
import PageFlow.Decimal.Shortest

/-! Writing JSON: `compact` without any blank, `pretty` with two blanks a level. -/
namespace PageFlow
namespace Json

def openBrace : String := "\x7b"
def closeBrace : String := "\x7d"

mutual
def compact : Json → String
  | .null => "null"
  | .bool true => "true"
  | .bool false => "false"
  | .int n => toString n
  | .float x => floatText x
  | .str s => literal s
  | .arr items => "[" ++ compactItems items ++ "]"
  | .obj fields => openBrace ++ compactFields fields ++ closeBrace
def compactItems : List Json → String
  | [] => ""
  | [j] => compact j
  | j :: rest => compact j ++ "," ++ compactItems rest
def compactFields : List (String × Json) → String
  | [] => ""
  | [(k, j)] => literal k ++ ":" ++ compact j
  | (k, j) :: rest => literal k ++ ":" ++ compact j ++ "," ++ compactFields rest
end

def indent (level : Nat) : String := String.ofList ('\n' :: List.replicate (2 * level) ' ')

mutual
def prettyAt (level : Nat) : Json → String
  | .arr [] => "[]"
  | .arr items => "[" ++ prettyItems (level + 1) items ++ indent level ++ "]"
  | .obj [] => openBrace ++ closeBrace
  | .obj fields => openBrace ++ prettyFields (level + 1) fields ++ indent level ++ closeBrace
  | .null => "null"
  | .bool true => "true"
  | .bool false => "false"
  | .int n => toString n
  | .float x => floatText x
  | .str s => literal s
def prettyItems (level : Nat) : List Json → String
  | [] => ""
  | [j] => indent level ++ prettyAt level j
  | j :: rest => indent level ++ prettyAt level j ++ "," ++ prettyItems level rest
def prettyFields (level : Nat) : List (String × Json) → String
  | [] => ""
  | [(k, j)] => indent level ++ literal k ++ ": " ++ prettyAt level j
  | (k, j) :: rest =>
    indent level ++ literal k ++ ": " ++ prettyAt level j ++ "," ++ prettyFields level rest
end

def pretty (j : Json) : String := prettyAt 0 j

end Json
end PageFlow
