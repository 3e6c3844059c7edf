import PageFlow.Http.Url

/-! References, as a response names the place to go on at. They are read strictly: each part
holds only characters that may stand there, and a percent sign has two digits after it. A
reference is resolved against the one it was found at; what comes out may be asked for if it
names a host. -/
namespace PageFlow
namespace Http

open Text

structure Reference where
  scheme : Option String
  authority : Option String
  path : String
  query : Option String
  fragment : Option String
deriving DecidableEq, Repr, Inhabited

namespace Reference

def isNameChar (c : Char) : Bool := c.isAlphanum || "-._~!$&'()*+,;=".toList.contains c
def isUserChar (c : Char) : Bool := isNameChar c || c = ':'
def isPathChar (c : Char) : Bool := isUserChar c || c = '@' || c = '/'
def isQueryChar (c : Char) : Bool := isPathChar c || c = '?'

def holdsOnly (allowed : Char → Bool) : List Char → Bool
  | [] => true
  | '%' :: a :: b :: rest =>
    (Hex.value? a).isSome && (Hex.value? b).isSome && holdsOnly allowed rest
  | c :: rest => allowed c && holdsOnly allowed rest

def isPlaceHost (host : List Char) : Bool :=
  match host with
  | '[' :: rest => rest.getLast? = some ']' && (address6? rest.dropLast).isSome
  | _ => holdsOnly isNameChar host

/-- Whether a text may stand after two slashes. -/
def isAuthority (cs : List Char) : Bool :=
  let (login, place) := (cutLast '@' cs).getD ([], cs)
  let (host, number) := splitHost false place
  holdsOnly isUserChar login && isPlaceHost host && (number.getD []).all Char.isDigit

def splitPath (cs : List Char) : Option (List Char) × List Char :=
  match cs with
  | '/' :: '/' :: rest => (some (rest.takeWhile (· ≠ '/')), rest.dropWhile (· ≠ '/'))
  | _ => (none, cs)

def read? (s : String) : Option Reference :=
  let (cs, fragment) := cut '#' s.toList
  let (cs, query) := cut '?' cs
  let (scheme, rest) := match splitScheme cs with
    | some (scheme, rest) => (some scheme, rest)
    | none => (none, cs)
  let (authority, path) := splitPath rest
  let first := path.takeWhile (· ≠ '/')
  if holdsOnly isPathChar path ∧ holdsOnly isQueryChar (query.getD []) ∧
      holdsOnly isQueryChar (fragment.getD []) ∧ isAuthority (authority.getD []) ∧
      (scheme.isSome ∨ ¬ first.contains ':') then
    some ⟨scheme, authority.map String.ofList, String.ofList path, query.map String.ofList,
      fragment.map String.ofList⟩
  else none

def withoutDots (path : String) : String :=
  match (splitOn (· = '/') path.toList).map String.ofList with
  | "" :: segments =>
    if segments.isEmpty then "" else "/" ++ "/".intercalate (walk List.tail [] segments).reverse
  | _ => path

/-- A path beside another, up to whose last slash it is read. -/
def besides (base path : String) : String :=
  match cutLast '/' base.toList with
  | some (front, _) => String.ofList front ++ "/" ++ path
  | none => path

def resolve (base r : Reference) : Reference :=
  if r.scheme.isSome then { r with path := withoutDots r.path }
  else if r.authority.isSome then { r with scheme := base.scheme, path := withoutDots r.path }
  else if r.path = "" then { base with query := r.query.or base.query, fragment := r.fragment }
  else
    let path := if r.path.startsWith "/" then r.path else besides base.path r.path
    { base with path := withoutDots path, query := r.query, fragment := r.fragment }

/-- Path and query, as a request line names what it asks for. -/
def target (r : Reference) : String :=
  (if r.path = "" then "/" else r.path) ++ match r.query with
    | some q => "?" ++ q
    | none => ""

/-- The place that a request for a reference goes to: a host without escapes. -/
def place? (r : Reference) : Option String := do
  let authority ← r.authority
  let (login, place) := (cutLast '@' authority.toList).getD ([], authority.toList)
  if place.isEmpty ∨ place.contains '%' ∨ 8 < login.count ':' then none else some authority

/-- Whether a reference without slashes may be taken for a place. -/
def isBarePlace (r : Reference) : Bool :=
  let path := r.path.toList
  let fits := match cutLast '@' path with
    | some (_, place) => !place.isEmpty && place.count ':' < 2 && !place.contains '%'
    | none => !path.contains ':' && !path.contains '%'
  r.scheme.isSome && r.authority.isNone && r.query.isNone && r.fragment.isNone &&
    !path.contains '/' && fits

def text (r : Reference) : String :=
  (r.scheme.map (· ++ ":")).getD "" ++ (r.authority.map ("//" ++ ·)).getD "" ++ r.target

end Reference
end Http
end PageFlow
