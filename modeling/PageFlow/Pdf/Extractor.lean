import PageFlow.Engine.Op
import PageFlow.Pdf.Output

/-! The program that turns a PDF into data: it is called with a file and a selection, and must
print JSON objects, one a line, and end well within its time. -/
namespace PageFlow

def signalNames : List String :=
  ["HUP", "INT", "QUIT", "ILL", "TRAP", "ABRT", "BUS", "FPE", "KILL", "USR1", "SEGV", "USR2", "PIPE",
    "ALRM", "TERM", "STKFLT", "CHLD", "CONT", "STOP", "TSTP", "TTIN", "TTOU", "URG", "XCPU", "XFSZ",
    "VTALRM", "PROF", "WINCH", "IO", "PWR", "SYS"]

def ExitStatus.text : ExitStatus → String
  | .code n => "exit status: " ++ toString n
  | .signal n => "signal: " ++ toString n ++
    match if n = 0 then none else signalNames[n - 1]? with
    | some name => " (SIG" ++ name ++ ")"
    | none => ""

namespace Pdf

def result (command : PdfCommand) : ProcessEnd → Except FlowError Json
  | .late => .error (.timeout (command.program ++ " to finish within " ++
      toString command.timeout.toMillis ++ "ms"))
  | .notStarted text => .error (.pdf ("failed to run " ++ command.program ++ ": " ++ text))
  | .ended (.code 0) stdout _ => merge (Text.decodeLossy stdout)
  | .ended status _ stderr => .error (.pdf (command.program ++ " exited with " ++ status.text ++
      ": " ++ Text.trimmed (Text.decodeLossy stderr)))

end Pdf
end PageFlow
