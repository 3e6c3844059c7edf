import PageFlow.Http.Host

/-! Addresses on the web. Reading brings an address to its written form: scheme and host in
lowercase, no service number that is usual, no dot segments, and all characters escaped that must
not stand where they do. -/
namespace PageFlow
namespace Http

open Text

inductive UrlPath where
  | segments (all : List String)
  /-- the text after the scheme of an address without hierarchy -/
  | plain (text : String)
deriving DecidableEq, Repr, Inhabited

structure Url where
  scheme : String
  user : String
  password : String
  host : Option String
  service : Option Nat
  path : UrlPath
  query : Option String
  fragment : Option String
deriving DecidableEq, Repr, Inhabited

inductive UrlFault where
  /-- a reference where an address has to stand -/
  | relative
  | invalid
deriving DecidableEq, Repr, Inhabited

/-- Schemes of the web with their usual service numbers. -/
def webSchemes : List (String × Nat) :=
  [("http", 80), ("https", 443), ("ws", 80), ("wss", 443), ("ftp", 21)]

def isWeb (scheme : String) : Bool := (webSchemes.lookup scheme).isSome || scheme = "file"

namespace Escaped

def control (c : Char) : Bool := c.toNat < 0x20 || 0x7E < c.toNat
def fragment (c : Char) : Bool := control c || " \"<>`".toList.contains c
def query (c : Char) : Bool := control c || " \"#<>".toList.contains c
def webQuery (c : Char) : Bool := query c || c = '\''
def path (c : Char) : Bool := fragment c || "#?\x7b\x7d".toList.contains c
def user (c : Char) : Bool := path c || "/:;=@[\\]^|".toList.contains c

end Escaped

def escape (escaped : Char → Bool) (cs : List Char) : String :=
  String.ofList (Percent.encode escaped cs)

def isSchemeChar (c : Char) : Bool := c.isAlphanum || c = '+' || c = '-' || c = '.'

def splitScheme (cs : List Char) : Option (String × List Char) :=
  match cs with
  | [] => none
  | first :: _ =>
    match cs.takeWhile isSchemeChar, cs.dropWhile isSchemeChar with
    | scheme, ':' :: rest =>
      if first.isAlpha then some (String.ofList (scheme.map Char.toLower), rest) else none
    | _, _ => none

def isSlash (scheme : String) (c : Char) : Bool := c = '/' || (isWeb scheme && c = '\\')

def isSingleDot (s : String) : Bool := s = "." || s.toLower = "%2e"
def isDoubleDot (s : String) : Bool := ["..", ".%2e", "%2e.", "%2e%2e"].contains s.toLower

def isDrive (s : String) : Bool :=
  match s.toList with
  | [letter, mark] => letter.isAlpha && (mark = ':' || mark = '|')
  | _ => false

/-- The reverse of a path without its last segment; a drive is never left. -/
def parent (reversed : List String) : List String :=
  if reversed.head?.any isDrive then reversed else reversed.tail

/-- Appends segments to the reverse of a path; the last one may be empty. -/
def walk (parent : List String → List String) (reversed : List String) :
    List String → List String
  | [] => reversed
  | s :: rest =>
    let last := rest.isEmpty
    let shorter := if isDoubleDot s then some (parent reversed)
      else if isSingleDot s then some reversed else none
    match shorter with
    | some r => walk parent (if last then "" :: r else r) rest
    | none => walk parent (s :: reversed) rest

def pathSegments (scheme : String) (cs : List Char) : List String :=
  (walk parent [] ((splitOn (isSlash scheme) cs).map (escape Escaped.path))).reverse

def pathAfterHost (scheme : String) (cs : List Char) : UrlPath :=
  match cs with
  | [] => .segments (if isWeb scheme then [""] else [])
  | _ :: rest => .segments (pathSegments scheme rest)

def readDigits (cs : List Char) : Option Nat :=
  if cs.all Char.isDigit then some (cs.foldl (fun n c => n * 10 + (c.toNat - 48)) 0) else none

/-- A service number; none is written where it is usual for the scheme. -/
def readNumber (scheme : String) (cs : List Char) : Option (Option Nat) :=
  if cs.isEmpty then some none
  else match readDigits cs with
    | some n =>
      if 65535 < n then none
      else some (if webSchemes.lookup scheme = some n then none else some n)
    | none => none

/-- Host and service number, apart; a colon between brackets belongs to the host. -/
def splitHost : Bool → List Char → List Char × Option (List Char)
  | _, [] => ([], none)
  | inside, c :: rest =>
    if c = ':' ∧ !inside then ([], some rest)
    else
      let (host, number) := splitHost ((inside || c = '[') && c ≠ ']') rest
      (c :: host, number)

structure Authority where
  user : String
  password : String
  host : String
  service : Option Nat

/-- Reads what stands before a path; `ends` says that no path follows. -/
def readAuthority (scheme : String) (cs : List Char) (ends : Bool) : Option Authority := do
  let (login, place) := match cutLast '@' cs with
    | some (login, place) => (some login, place)
    | none => (none, cs)
  let (user, password) := cut ':' (login.getD [])
  let user := escape Escaped.user user
  let password := escape Escaped.user (password.getD [])
  let (name, number) := splitHost false place
  let nobody := user = "" ∧ password = "" ∧ (ends ∨ login ≠ some [])
  if name.isEmpty ∧ (isWeb scheme ∨ number.isSome ∨ ¬ nobody) then none
  else
    let host ← if isWeb scheme then readHost name else readOtherHost name
    let n ← readNumber scheme (number.getD [])
    pure ⟨user, password, host, n⟩

def readPlace (scheme : String) (cs : List Char) (query fragment : Option String) : Option Url := do
  let front := cs.takeWhile fun c => !isSlash scheme c
  let path := cs.drop front.length
  let a ← readAuthority scheme front (path.isEmpty && query.isNone && fragment.isNone)
  pure ⟨scheme, a.user, a.password, some a.host, a.service, pathAfterHost scheme path, query,
    fragment⟩

/-- A path of files: it starts with no empty segments, and drives have one spelling. -/
def filePath (cs : List Char) : List String :=
  let spelled := (pathSegments "file" cs).map fun s =>
    if isDrive s then (s.take 1).toString ++ ":" else s
  match spelled.dropWhile (· = "") with
  | [] => [""]
  | all => all

/-- The host of a file address may be empty, and there is none beside a drive. -/
def readFile (cs : List Char) (query fragment : Option String) : Option Url :=
  let file (host : String) (path : List Char) : Url :=
    let all := filePath path
    ⟨"file", "", "", some (if host = "localhost" ∨ all.any isDrive then "" else host), none,
      .segments all, query, fragment⟩
  match cs with
  | a :: b :: rest =>
    if isSlash "file" a ∧ isSlash "file" b then
      let front := rest.takeWhile fun c => !isSlash "file" c
      if front.isEmpty ∨ isDrive (String.ofList front) then some (file "" rest)
      else (readHost front).map fun h => file h (rest.drop front.length)
    else some (file "" cs)
  | _ => some (file "" cs)

def queryText (scheme : String) (cs : List Char) : String :=
  escape (if isWeb scheme then Escaped.webQuery else Escaped.query) cs

def readAbsolute (scheme : String) (rest : List Char) : Option Url :=
  let (rest, fragment) := cut '#' rest
  let (rest, query) := cut '?' rest
  let query := query.map (queryText scheme)
  let fragment := fragment.map (escape Escaped.fragment)
  if scheme = "file" then readFile rest query fragment
  else if isWeb scheme then readPlace scheme (rest.dropWhile (isSlash scheme)) query fragment
  else match rest with
    | '/' :: '/' :: place => readPlace scheme place query fragment
    | '/' :: path =>
      some ⟨scheme, "", "", none, none, .segments (pathSegments scheme path), query, fragment⟩
    | text =>
      some ⟨scheme, "", "", none, none, .plain (escape Escaped.control text), query, fragment⟩

/-- Leaves out what does not count: blanks at the ends, tabs and line ends anywhere. -/
def significant (s : String) : List Char :=
  let front := s.toList.dropWhile fun c => c.toNat ≤ 0x20
  let both := (front.reverse.dropWhile fun c => c.toNat ≤ 0x20).reverse
  both.filter fun c => c ≠ '\t' && c ≠ '\n' && c ≠ '\r'

namespace Url

def parse (s : String) : Except UrlFault Url :=
  match splitScheme (significant s) with
  | none => .error .relative
  | some (scheme, rest) =>
    match readAbsolute scheme rest with
    | some url => .ok url
    | none => .error .invalid

def parse? (s : String) : Option Url := (parse s).toOption

def loginText (u : Url) : String :=
  if u.user = "" ∧ u.password = "" then ""
  else u.user ++ (if u.password = "" then "" else ":" ++ u.password) ++ "@"

def hostText (u : Url) : String :=
  u.host.getD "" ++ match u.service with
    | some n => ":" ++ toString n
    | none => ""

def pathText (u : Url) : String :=
  match u.path with
  | .plain text => text
  | .segments all => String.join (all.map ("/" ++ ·))

def queryPart (u : Url) : String :=
  match u.query with
  | some q => "?" ++ q
  | none => ""

def target (u : Url) : String := u.pathText ++ u.queryPart

/-- A path of several segments that starts with an empty one must not look like a host. -/
def placeText (u : Url) : String :=
  match u.host, u.path with
  | some _, _ => "//" ++ u.loginText ++ u.hostText
  | none, .segments ("" :: _ :: _) => "/."
  | none, _ => ""

def text (u : Url) : String :=
  u.scheme ++ ":" ++ u.placeText ++ u.target ++ match u.fragment with
    | some f => "#" ++ f
    | none => ""

def addQuery (u : Url) (pairs : List (String × String)) : Url :=
  if pairs.isEmpty then u
  else
    let old := u.query.getD ""
    { u with query := some ((if old = "" then "" else old ++ "&") ++ Percent.form pairs) }

def hasHost (u : Url) : Bool := u.host.any (· ≠ "")

end Url
end Http
end PageFlow
