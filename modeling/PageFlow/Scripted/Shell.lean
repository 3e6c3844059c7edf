import PageFlow.Scripted.Extractor

/-! A small command shell, enough for the programs that stand in for a PDF extractor: words with
quotes and parameters, sequences, `&&` and `||`, output to the error stream, and a few commands.
-/
namespace PageFlow
namespace Scripted
namespace Shell

inductive Joint where
  | always | onSuccess | onFailure
deriving DecidableEq, Repr, Inhabited

inductive Token where
  | word (s : String)
  | joint (j : Joint)
  /-- the command prints to the error stream -/
  | toError

structure Run where
  stdout : List Char
  stderr : List Char
  status : Nat
  signal : Option Nat
  /-- time taken, in nanoseconds -/
  taken : Nat
  ended : Bool

def Run.start : Run := ⟨[], [], 0, none, 0, false⟩

abbrev Pen := Option (List Char)

def Pen.add (p : Pen) (cs : List Char) : Pen := some (p.getD [] ++ cs)
def Pen.token (p : Pen) : List Token := (p.map fun cs => Token.word (String.ofList cs)).toList

/-- The value of a parameter that starts after the dollar sign, and the rest. -/
def parameter (args : List String) (cs : List Char) : List Char × List Char :=
  match cs with
  | '\x7b' :: rest =>
    let name := rest.takeWhile (· ≠ '\x7d')
    ((args[(String.ofList name).toNat?.getD args.length]?.getD "").toList,
      (rest.dropWhile (· ≠ '\x7d')).drop 1)
  | '@' :: rest | '*' :: rest => ((" ".intercalate args.tail).toList, rest)
  | c :: rest =>
    if c.isDigit then ((args[c.toNat - 48]?.getD "").toList, rest)
    else if c = '$' then (['$', '$'], rest)
    else ('$' :: [], cs)
  | [] => (['$'], [])

/-- Reads a script. A quote is single, double or none; fuel is its length. -/
def tokens (args : List String) : Nat → Option Char → Pen → List Char → List Token
  | 0, _, p, _ => p.token
  | _, _, p, [] => p.token
  | n + 1, some '\'', p, c :: rest =>
    if c = '\'' then tokens args n none p rest else tokens args n (some '\'') (p.add [c]) rest
  | n + 1, some q, p, c :: rest =>
    if c = '"' then tokens args n none p rest
    else if c = '\\' then
      match rest with
      | d :: more =>
        tokens args n (some q) (p.add (if "\"\\$".toList.contains d then [d] else ['\\', d])) more
      | [] => (p.add ['\\']).token
    else if c = '$' then
      let (value, more) := parameter args rest
      tokens args n (some q) (p.add value) more
    else tokens args n (some q) (p.add [c]) rest
  | n + 1, none, p, c :: rest =>
    if c = '\'' ∨ c = '"' then tokens args n (some c) (p.add []) rest
    else if c = '\\' then
      match rest with
      | d :: more => tokens args n none (p.add [d]) more
      | [] => (p.add ['\\']).token
    else if c = '$' then
      let (value, more) := parameter args rest
      tokens args n none (p.add value) more
    else if c = ' ' ∨ c = '\t' then p.token ++ tokens args n none none rest
    else match c :: rest with
      | '&' :: '&' :: more => p.token ++ .joint .onSuccess :: tokens args n none none more
      | '|' :: '|' :: more => p.token ++ .joint .onFailure :: tokens args n none none more
      | '>' :: '&' :: '2' :: more =>
        (if p = some ['1'] then [] else p.token) ++ .toError :: tokens args n none none more
      | ';' :: more | '\n' :: more => p.token ++ .joint .always :: tokens args n none none more
      | _ => tokens args n none (p.add [c]) rest

structure Command where
  joint : Joint
  words : List String
  toError : Bool

def commandsFrom (current : Command) : List Token → List Command
  | [] => [current]
  | .word s :: rest => commandsFrom { current with words := current.words ++ [s] } rest
  | .toError :: rest => commandsFrom { current with toError := true } rest
  | .joint j :: rest => current :: commandsFrom ⟨j, [], false⟩ rest

/-- A text with its escapes read, and whole pieces put in for each `%s` and `%d`. -/
def format : List Char → List String → List Char
  | '\\' :: 'n' :: rest, args => '\n' :: format rest args
  | '\\' :: 't' :: rest, args => '\t' :: format rest args
  | '\\' :: '\\' :: rest, args => '\\' :: format rest args
  | '%' :: '%' :: rest, args => '%' :: format rest args
  | '%' :: 's' :: rest, args => (args.head?.getD "").toList ++ format rest args.tail
  | '%' :: 'd' :: rest, args => (args.head?.getD "0").toList ++ format rest args.tail
  | c :: rest, args => c :: format rest args
  | [], _ => []

def nanosOf (s : String) : Nat :=
  match s.splitOn "." with
  | [a] => a.toNat?.getD 0 * 10 ^ 9
  | [a, b] => a.toNat?.getD 0 * 10 ^ 9 + (b.toNat?.getD 0) * 10 ^ (9 - b.length)
  | _ => 0

/-- The signal that a word names, by its number or its name; a word without a dash names none. -/
def signalNumber (s : String) : Nat :=
  let word := if s.startsWith "-" then (s.drop 1).toString else "TERM"
  let name := if word.startsWith "SIG" then (word.drop 3).toString else word
  match signalNames.idxOf? name with
  | some i => i + 1
  | none => word.toNat?.getD 15

def Run.print (r : Run) (toError : Bool) (cs : List Char) : Run :=
  if toError then { r with stderr := r.stderr ++ cs, status := 0 }
  else { r with stdout := r.stdout ++ cs, status := 0 }

/-- One command; `file` gives the content of files. -/
def perform (file : String → Option String) (r : Run) (toError : Bool) : List String → Run
  | [] => r
  | "echo" :: "-n" :: args => r.print toError (" ".intercalate args).toList
  | "echo" :: args => r.print toError ((" ".intercalate args) ++ "\n").toList
  | "printf" :: text :: args => r.print toError (format text.toList args)
  | "exit" :: args =>
    { r with status := ((args.head?.bind String.toNat?).getD r.status) % 256, ended := true }
  | "sleep" :: s :: _ => { r with taken := r.taken + nanosOf s, status := 0 }
  | "exec" :: args => { perform file r toError args with ended := true }
  | "true" :: _ | ":" :: _ => { r with status := 0 }
  | "false" :: _ => { r with status := 1 }
  | "kill" :: "-s" :: s :: _ =>
    { r with signal := some (signalNumber ("-" ++ s)), ended := true }
  | "kill" :: s :: _ => { r with signal := some (signalNumber s), ended := true }
  | "cat" :: args =>
    args.foldl (fun r name => match file name with
      | some content => r.print toError content.toList
      | none => { r with status := 1, stderr := r.stderr ++
          ("cat: " ++ name ++ ": No such file or directory\n").toList }) r
  | name :: _ =>
    { r with status := 127, stderr := r.stderr ++ ("sh: 1: " ++ name ++ ": not found\n").toList }

def play (file : String → Option String) (r : Run) : List Command → Run
  | [] => r
  | c :: rest =>
    let goes := match c.joint with
      | .always => true
      | .onSuccess => r.status = 0
      | .onFailure => r.status ≠ 0
    if r.ended then r
    else play file (if goes then perform file r c.toError c.words else r) rest

def script (file : String → Option String) (text : String) (args : List String) : Run :=
  play file .start (commandsFrom ⟨.always, [], false⟩
    (tokens args (text.length + 1) none none text.toList))

def isProgram (name : String) : Bool :=
  ["echo", "printf", "sleep", "true", "false", "cat", "kill"].contains name

def call (file : String → Option String) (program : String) (args : List String)
    (timeout : Duration) : ProcessEnd :=
  let finish (r : Run) : ProcessEnd :=
    if timeout.toNanos < r.taken then .late
    else .ended (match r.signal with
      | some n => .signal n
      | none => .code r.status) (Text.encode (String.ofList r.stdout))
        (Text.encode (String.ofList r.stderr))
  let name := (program.splitOn "/").getLast?.getD program
  match ["sh", "bash", "dash"].contains name, args with
  | true, "-c" :: text :: rest => finish (script file text rest)
  | _, _ =>
    if isProgram name then finish (perform file .start false (name :: args))
    else .notStarted noSuchFile

end Shell
end Scripted
end PageFlow
