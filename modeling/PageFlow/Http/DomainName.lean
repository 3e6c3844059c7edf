import PageFlow.Http.NameMapping
import PageFlow.Http.Punycode
import PageFlow.Text.Composed
import PageFlow.Text.Direction
import PageFlow.Text.Joining

/-! Names of hosts in ASCII. The characters of a name are mapped and composed; each part is checked
and, if it goes beyond ASCII, written in code behind a mark. A part that comes in code has to be
the code of what would be kept as it is. -/
namespace PageFlow
namespace Http

open Text

/-- Characters of ASCII that no name may hold. -/
def isForbidden (c : Char) : Bool :=
  c.toNat ≤ 0x20 || "#/:<>?@[\\]^|%".toList.contains c || c.toNat = 0x7F

namespace DomainName

/-- A part of a name: the characters it stands for, and as it is written in ASCII. -/
structure Label where
  shown : List Char
  ascii : List Char
deriving DecidableEq, Repr, Inhabited

namespace Label

/-- What stands before a part in code. -/
def codeMark : List Char := "xn--".toList

def isAscii (cs : List Char) : Bool := cs.all fun c => c.toNat < 128

/-- The sign that drops the vowel of the letter before it. -/
def isKiller (c : Char) : Bool := combiningClass c = 9

/-- Whether a part may stand for these characters: no mark comes first, joiners stand where they
may, and there are not too many of them. -/
def isWellFormed (cs : List Char) : Bool :=
  isAscii cs ||
    (!cs.head?.any isMark && joinersFit isKiller [] cs && cs.length ≤ 1000)

def ofCode? (written code : List Char) : Option Label := do
  if written.getLast? = some '-' ∨ 2000 < code.length then none
  else
    let shown ← Punycode.decode? code
    if shown.all isKept && compose shown = shown && isWellFormed shown then
      some ⟨shown, written⟩
    else none

def ofMapped? (cs : List Char) : Option Label :=
  if codeMark.isPrefixOf cs then ofCode? cs (cs.drop codeMark.length)
  else if isWellFormed cs then
    some ⟨cs, if isAscii cs then cs else codeMark ++ Punycode.encode cs⟩
  else none

end Label

/-- The characters that stand in a name for those given, if it may hold them all. -/
def mapped? (name : List Char) : Option (List Char) := do
  let cs := (← name.mapM spelled?).flatten
  if cs.any isForbidden then none else some cs

def toAscii? (name : List Char) : Option (List (List Char)) := do
  let cs ← mapped? name
  let labels ← (splitOn (· = '.') (compose cs)).mapM Label.ofMapped?
  if labels.any (fun l => hasRightToLeft l.shown) && !labels.all (fun l => isReadable l.shown) then
    none
  else some (labels.map Label.ascii)

end DomainName
end Http
end PageFlow
