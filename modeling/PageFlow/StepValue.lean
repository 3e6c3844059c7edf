import PageFlow.Json.Printer
import PageFlow.Text.Utf8

/-! What a capturing step produced: JSON or bytes. On the wire bytes are an object with the two
keys `type` = "Buffer" and `data` = the bytes as numbers; an object of just that shape is read as
bytes. -/
namespace PageFlow

inductive StepValue where
  | json (j : Json)
  | bytes (b : Bytes)
deriving Inhabited

namespace StepValue

def byteNumbers (b : Bytes) : List Json := b.map fun x => .ofNat x.toNat

def toJson : StepValue → Json
  | json j => j
  | bytes b => .obj [("data", .arr (byteNumbers b)), ("type", .str "Buffer")]

def byte? (j : Json) : Option UInt8 :=
  match j.nat? with
  | some n => if n < 256 then some (UInt8.ofNat n) else none
  | none => none

def buffer? : Json → Option Bytes
  | .obj [(k, .arr items), (k', .str tag)] =>
    if k = "data" ∧ k' = "type" ∧ tag = "Buffer" then items.mapM byte? else none
  | _ => none

def ofJson (j : Json) : StepValue :=
  match buffer? j with
  | some b => bytes b
  | none => json j

def text : StepValue → String
  | json j => j.compact
  | bytes b => Json.openBrace ++ Json.literal "type" ++ ":" ++ Json.literal "Buffer" ++ "," ++
      Json.literal "data" ++ ":" ++ (Json.arr (byteNumbers b)).compact ++ Json.closeBrace

end StepValue
end PageFlow
