import PageFlow.Pdf.Extractor

/-! A process that does what a script says: it writes to its two outputs, may echo the selection
it was called with, and then exits, dies from a signal or never ends. -/
namespace PageFlow
namespace Scripted

structure Extractor where
  stdout : Bytes
  stderr : Bytes
  echoSelection : Bool
  exit : Nat
  signal : Option Nat
  hang : Bool
deriving Inhabited

/-- Whether a program can be there at all: nothing lives under some roots. -/
def isAbsent (program : String) : Bool :=
  [["none"], ["nope"], ["nonexistent"]].any fun root =>
    let parts := (program.splitOn "/")
    parts.take 2 = "" :: root

def noSuchFile : String := "No such file or directory (os error 2)"

def Extractor.run (p : Extractor) (program : String) (selection : Json) : ProcessEnd :=
  if isAbsent program then .notStarted noSuchFile
  else if p.hang then .late
  else
    let echo := if p.echoSelection then Text.encode selection.compact else []
    let status := match p.signal with
      | some n => ExitStatus.signal n
      | none => .code (p.exit % 256)
    .ended status (p.stdout ++ echo) p.stderr

end Scripted
end PageFlow
