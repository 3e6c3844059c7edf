import PageFlow.Http.CookieDate
import PageFlow.Http.Url

/-! Cookies of one context. A cookie belongs to a host and a path, the place it was set at unless
it names others; setting it anew replaces it, and one that is over is removed. -/
namespace PageFlow
namespace Http

open Text

structure Cookie where
  name : String
  value : String
  host : String
  below : Bool
  path : String
  /-- whether only a safe connection may carry it -/
  safe : Bool
  /-- the second from which on it is over -/
  ends : Option Int
deriving DecidableEq, Repr, Inhabited

namespace Cookie

/-- Whether a host is a number, so that none lies below another. -/
def isNumber (host : String) : Bool :=
  match (splitOn (· = '.') host.toList).getLast? with
  | some part => !part.isEmpty && part.all Char.isDigit
  | none => false

def isBelow (host domain : String) : Bool :=
  host = domain || (!isNumber host && host.endsWith ("." ++ domain))

/-- The path that cookies set at an address get: all of it up to the last slash. -/
def defaultPath (u : Url) : String :=
  match cutLast '/' u.pathText.toList with
  | some (front, _) => if front.isEmpty then "/" else String.ofList front
  | none => "/"

def covers (path place : String) : Bool :=
  path = place ||
    (path.toList.isPrefixOf place.toList &&
      (path.endsWith "/" || (place.toList.drop path.length).head? = some '/'))

def pair (cs : List Char) : String × Option (List Char) :=
  let (name, value) := cut '=' cs
  (String.ofList (trim name), value.map trim)

/-- What the last attribute of a name says that says something. -/
def last? (name : String) (read : List Char → Option α)
    (attributes : List (String × Option (List Char))) : Option α :=
  attributes.reverse.findSome? fun a => if a.1.toLower = name then a.2.bind read else none

/-- An age in seconds; one below zero is none at all, and one without digits never ends. -/
def age? (cs : List Char) : Option Nat :=
  let negative := cs.head? = some '-'
  let digits := if negative then cs.tail else cs
  if !digits.all Char.isDigit then none
  else if negative then some 0
  else if digits.isEmpty then some (2 ^ 63)
  else readDigits digits

/-- The host in the attribute of a cookie: none if it is empty. -/
def domain? (cs : List Char) : Option String := do
  let labels ← DomainName.toAscii? (trim (if cs.head? = some '.' then cs.tail else cs))
  let host := ".".toList.intercalate labels
  some (String.ofList (if host.head? = some '.' then host.tail else host))

def read? (now : Int) (u : Url) (line : String) : Option Cookie := do
  let parts := splitOn (· = ';') line.toList
  let (name, value) := pair (parts.head?.getD [])
  let value ← value
  let host ← u.host
  let attributes := parts.tail.map pair
  let domain ← match last? "domain" (fun d => if d.isEmpty then none else some d) attributes with
    | some d => domain? d
    | none => some ""
  let path := ((last? "path" some attributes).filter fun p => p.head? = some '/').map String.ofList
  if name = "" ∨ (domain ≠ "" ∧ !isBelow host domain) then none
  else
    let ends := match last? "max-age" age? attributes with
      | some age => some (now + age)
      | none => last? "expires" CookieDate.read? attributes
    some ⟨name, String.ofList value, if domain = "" then host else domain, domain ≠ "",
      path.getD (defaultPath u), attributes.any (·.1.toLower = "secure"), ends⟩

def isOver (now : Int) (c : Cookie) : Bool := c.ends.any (· ≤ now)

def samePlace (a b : Cookie) : Bool := a.name = b.name && a.host = b.host && a.path = b.path

/-- Whether an address is reached safely: over a safe connection, or on this machine. -/
def isSafe (u : Url) : Bool :=
  u.scheme = "https" || match u.host with
    | some h => h = "localhost" || (isNumber h && h.startsWith "127.") || h = "[::1]"
    | none => false

def goesTo (c : Cookie) (u : Url) : Bool :=
  (match u.host with
    | some h => h = c.host || (c.below && isBelow h c.host)
    | none => false) && covers c.path u.pathText && (!c.safe || isSafe u)

end Cookie

/-- Cookies in the order in which they were set first. -/
abbrev Jar := List Cookie

namespace Jar

def set (jar : Jar) (now : Int) (u : Url) (line : String) : Jar :=
  match Cookie.read? now u line with
  | none => jar
  | some c =>
    if c.isOver now then jar.filter fun d => !c.samePlace d
    else if jar.any c.samePlace then jar.map fun d => if c.samePlace d then c else d
    else jar ++ [c]

def header? (jar : Jar) (now : Int) (u : Url) : Option String :=
  match jar.filter fun c => c.goesTo u && !c.isOver now with
  | [] => none
  | all => some ("; ".intercalate (all.map fun c => c.name ++ "=" ++ c.value))

end Jar
end Http
end PageFlow
