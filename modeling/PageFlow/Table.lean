import PageFlow.Json.Decode
import PageFlow.Text.Blank

/-! Tables as grids and as records. The first row is the header row iff that is forced or, when
nothing is forced, it lies in the head of the table or has a header cell. Blank headers and all
headers of a table without a header row are named by their position. -/
namespace PageFlow

structure TableCell where
  text : String
  header : Bool
deriving DecidableEq, Repr, Inhabited

structure TableRow where
  cells : List TableCell
  inHead : Bool
deriving DecidableEq, Repr, Inhabited

namespace TableRow

def readCell : Json.Doc → Json.Read TableCell :=
  Json.record "TableCell"
    (TableCell.mk <$> Json.field "text" Json.string <*> Json.field "header" Json.boolean)

def read : Json.Doc → Json.Read TableRow :=
  Json.record "TableRow" (TableRow.mk <$> Json.field "cells" (Json.items readCell)
    <*> Json.fieldOr "in_head" Json.boolean false)

def texts (r : TableRow) : List String := r.cells.map fun c => Text.trimmed c.text

end TableRow

structure TableGrid where
  headers : List String
  rows : List (List String)
deriving DecidableEq, Repr, Inhabited

namespace Table

def columnName (index : Nat) : String := "column_" ++ toString (index + 1)

def hasHeaderRow (rows : List TableRow) (forced : Option Bool) : Bool :=
  match rows, forced with
  | [], _ => false
  | _ :: _, some forced => forced
  | first :: _, none => first.inHead || first.cells.any (·.header)

def headerName (index : Nat) (text : String) : String :=
  if text = "" then columnName index else text

def namesFrom (index : Nat) : List String → List String
  | [] => []
  | text :: rest => headerName index text :: namesFrom (index + 1) rest

def dataRows (rows : List TableRow) : List (List String) :=
  (rows.filter fun r => !r.cells.isEmpty).map TableRow.texts

def width (rows : List (List String)) : Nat := rows.foldl (fun n r => max n r.length) 0

def grid (rows : List TableRow) (hasHeader : Option Bool) : TableGrid :=
  if hasHeaderRow rows hasHeader then
    ⟨namesFrom 0 ((rows.head?.map TableRow.texts).getD []), dataRows rows.tail⟩
  else
    let data := dataRows rows
    ⟨(List.range (width data)).map columnName, data⟩

/-- A row under the headers: missing cells are empty, cells beyond the headers dropped. -/
def rowFields (headers row : List String) (index : Nat) : List (String × Json) :=
  match headers with
  | [] => []
  | h :: rest => (h, .str (row[index]?.getD "")) :: rowFields rest row (index + 1)

def records (rows : List TableRow) (hasHeader : Option Bool) : List Json :=
  let g := grid rows hasHeader
  g.rows.map fun row => Json.object (rowFields g.headers row 0)

end Table

def TableGrid.toJson (g : TableGrid) : Json :=
  .obj [("headers", .arr (g.headers.map .str)),
    ("rows", .arr (g.rows.map fun r => .arr (r.map .str)))]

end PageFlow
