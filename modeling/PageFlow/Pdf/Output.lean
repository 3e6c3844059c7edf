import PageFlow.FlowError
import PageFlow.Json.Complaint
import PageFlow.Json.Printer
import PageFlow.Text.Blank

/-! What a PDF extractor prints: one JSON object a line. The objects are merged, later keys over
earlier ones; blank lines do not count, and the first line that is no object is the error. -/
namespace PageFlow
namespace Pdf

def isBlankLine (line : List Char) : Bool := (Text.trim line).isEmpty

def lineFields (line : List Char) : Except FlowError (List (String × Json)) :=
  match Json.parse? (String.ofList (Text.trim line)) with
  | none => .error (.json (Json.complaint (Text.encode (String.ofList (Text.trim line)))))
  | some (.obj fields) => .ok fields
  | some other => .error (.pdf ("extractor printed a non-object value: " ++ other.compact))

def mergeLines (merged : List (String × Json)) :
    List (List Char) → Except FlowError (List (String × Json))
  | [] => .ok merged
  | line :: rest =>
    if isBlankLine line then mergeLines merged rest
    else match lineFields line with
      | .error e => .error e
      | .ok fields => mergeLines (Json.extendFields merged fields) rest

def merge (output : String) : Except FlowError Json :=
  (mergeLines [] (Text.lines output.toList)).map .obj

end Pdf
end PageFlow
