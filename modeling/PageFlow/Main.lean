import PageFlow.CommandLine.Program
import PageFlow.Chromium.Backend
import PageFlow.Engine.Host
import Std.Time

/-! The command line on a real terminal. There is no connection to a browser, so that a launch
fails when the executable is there as it does when the network is down. -/
namespace PageFlow
namespace Terminal

def ioText : IO.Error → String
  | .noFileOrDirectory _ _ _ => "No such file or directory (os error 2)"
  | .permissionDenied _ _ _ => "Permission denied (os error 13)"
  | .inappropriateType _ _ _ => "Is a directory (os error 21)"
  | e => toString e

def attempt (a : IO τ) : IO (Except FlowError τ) := do
  try
    let v ← a
    pure (.ok v)
  catch e => pure (.error (.io (ioText e)))

def decoded : Except FlowError ByteArray → Except FlowError String
  | .error e => .error e
  | .ok bytes =>
    match Text.decode? bytes.data.toList with
    | some s => .ok s
    | none => .error (.io "stream did not contain valid UTF-8")

def today : IO Moment := do
  let t ← Std.Time.Timestamp.now
  pure (.ofMillis t.toMillisecondsSinceUnixEpoch.toInt.toNat)

def launchText (executable : Option String) : IO String := do
  match executable with
  | none => pure "No such file or directory (os error 2)"
  | some path => do
    match ← attempt (IO.FS.Handle.mk path .read) with
    | .ok _ => pure "IO error: Network is unreachable (os error 101)"
    | .error (.io text) => pure text
    | .error e => pure e.message

def ofHost (op : Engine.Op) (h : Host) : IO (Option (Engine.Reply op) × Host) :=
  match Host.answer? op with
  | some f => pure (some (f h).1, (f h).2)
  | none => pure (none, h)

/-- Without a browser only its start and what the host does can be asked for. -/
def serve (op : Chromium.Op) (h : Host) : IO (Option (Chromium.Reply op) × Host) :=
  match op with
  | .start executable _ => do
    let text ← launchText executable
    pure (some (.error text), h)
  | .now => do
    let t ← IO.monoNanosNow
    pure (some t, h)
  | .sleep d => do
    IO.sleep (UInt32.ofNat d.toMillis)
    pure (some (), h)
  | .host .date => do
    let t ← today
    pure (some t, h)
  | .host op => ofHost op h
  | _ => pure (none, h)

def answer (op : CommandLine.Op) (h : Host) : IO (Option (CommandLine.Reply op) × Host) :=
  match op with
  | .readFile path => do
    let r ← attempt (IO.FS.readBinFile path)
    pure (some (decoded r), h)
  | .writeFile path text => do
    let r ← attempt (IO.FS.writeFile path text)
    pure (some r, h)
  | .print text => do
    (← IO.getStdout).putStr text
    pure (some (), h)
  | .printError text => do
    (← IO.getStderr).putStr text
    pure (some (), h)
  | .date => do
    let t ← today
    pure (some t, h)
  | .engine config op => Prog.runIn serve (Chromium.backend config op) h

end Terminal
end PageFlow

def main (arguments : List String) : IO UInt32 := do
  let config ← IO.getEnv "FLOWRUN_CONFIG"
  let chrome ← IO.getEnv "CHROME_PATH"
  let program := PageFlow.CommandLine.program ⟨config, chrome⟩ arguments
  let (status, _) ← PageFlow.Prog.runIn PageFlow.Terminal.answer program .start
  pure (UInt32.ofNat (status.getD 2))
