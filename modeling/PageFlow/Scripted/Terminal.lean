import PageFlow.Scripted.Endpoint
import PageFlow.CommandLine.Program

/-! A terminal in a directory that holds a few files, with a scripted browser behind it.
Directories are those that the names of files run through. -/
namespace PageFlow
namespace Scripted
namespace Terminal

structure World where
  endpoint : Endpoint.World
  files : List (String × Bytes)
  stdout : String
  stderr : String
deriving Inhabited

def parts (path : String) : List String :=
  (path.splitOn "/").filter fun p => p ≠ "" && p ≠ "."

def isFile (w : World) (place : List String) : Bool := w.files.any fun f => parts f.1 = place

/-- Whether a directory is there: its own, or one above a file. -/
def isDirectory (w : World) (place : List String) : Bool :=
  place = [] || w.files.any fun f =>
    let p := parts f.1
    place.length < p.length && place.isPrefixOf p

def absence (w : World) (path : String) (place : List String) : Option String :=
  if path = "" then some noSuchFile
  else if isDirectory w place then some "Is a directory (os error 21)"
  else if (List.range place.length).any fun n => 0 < n && isFile w (place.take n) then
    some "Not a directory (os error 20)"
  else none

def readFile (w : World) (path : String) : Except FlowError String :=
  let place := parts path
  match w.files.find? fun f => parts f.1 = place with
  | some f =>
    if path = "" then .error (.io noSuchFile)
    else if path.endsWith "/" then .error (.io "Not a directory (os error 20)")
    else match Text.decode? f.2 with
      | some s => .ok s
      | none => .error (.io "stream did not contain valid UTF-8")
  | none => .error (.io ((absence w path place).getD noSuchFile))

def writeFile (w : World) (path text : String) : Except FlowError Unit × World :=
  let place := parts path
  match absence w path place with
  | some why => (.error (.io why), w)
  | none =>
    if path.startsWith "/" || !isDirectory w place.dropLast then (.error (.io noSuchFile), w)
    else (.ok (), { w with
      files := (path, Text.encode text) :: w.files.filter fun f => parts f.1 ≠ place })

def answer (op : CommandLine.Op) (w : World) : Option (CommandLine.Reply op) × World :=
  match op with
  | .readFile path => (some (readFile w path), w)
  | .writeFile path text =>
    let (r, w) := writeFile w path text
    (some r, w)
  | .print text => (some (), { w with stdout := w.stdout ++ text })
  | .printError text => (some (), { w with stderr := w.stderr ++ text })
  | .date => (some (.ofMillis (Endpoint.epochMillis + w.endpoint.now / 10 ^ 6)), w)
  | .engine config op =>
    let (r, e) := Endpoint.perform (Chromium.backend config op) w.endpoint
    (r, { w with endpoint := e })

def perform (s : CommandLine.Settings) (arguments : List String) (w : World) : Option Nat × World :=
  Prog.run answer (CommandLine.program s arguments) w

end Terminal
end Scripted
end PageFlow
