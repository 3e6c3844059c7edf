import Mathlib.Data.List.Forall2
import PageFlow.Proofs.Objects
import PageFlow.Proofs.Trimming
import PageFlow.Table

/-! What tables become. A table is cut into its header row, if it has one, and its other rows. The
columns are named by the texts of the header row, a blank one and every column of a table without
a header row by its position. A record shows of its row what stands under the last header of each
name, so headers that differ let it show the whole row as far as the headers go. -/
namespace PageFlow

namespace TableRow

def Heads (r : TableRow) (forced : Option Bool) : Prop :=
  forced = some true ∨ forced = none ∧ (r.inHead = true ∨ ∃ c ∈ r.cells, c.header = true)

/-- The texts are those of the cells without the blanks at their ends. -/
def Shows (r : TableRow) (texts : List String) : Prop :=
  List.Forall₂ (fun c text => Text.Trims c.text.toList text.toList) r.cells texts

theorem shows_texts (r : TableRow) : r.Shows r.texts := by
  refine List.forall₂_map_right_iff.mpr (List.forall₂_same.mpr fun c _ => ?_)
  rw [Text.trimmed, String.toList_ofList]
  exact Text.trims_trim _

end TableRow

namespace Table

/-- The header row of a table, if it has one, and its other rows. -/
inductive Parts (forced : Option Bool) :
    List TableRow → Option TableRow → List TableRow → Prop
  | headed {header others} : header.Heads forced →
      Parts forced (header :: others) (some header) others
  | bare {rows} : (∀ first ∈ rows.head?, ¬ first.Heads forced) → Parts forced rows none rows

/-- A number of columns that all rows fit in, and one of them fills. -/
structure Widest (rows : List (List String)) (n : Nat) : Prop where
  fits : ∀ r ∈ rows, r.length ≤ n
  filled : n = 0 ∨ ∃ r ∈ rows, r.length = n

/-- What the record of a row shows: under each header, and under nothing else, what the row has in
the last column of that name, and nothing where the row is too short for that column. -/
structure Describes (headers row : List String) (record : Json) : Prop where
  keys : ∃ fields, record = .obj fields ∧ Json.Ordered fields ∧
    ∀ name, name ∈ fields.map Prod.fst ↔ name ∈ headers
  values : ∀ (i : Nat) name, headers[i]? = some name →
    (∀ j : Nat, i < j → headers[j]? ≠ some name) →
      record.get? name = some (.str (row[i]?.getD ""))

/-- The record shows under each header what the row has in that column. -/
def Covers (headers row : List String) (record : Json) : Prop :=
  ∀ (i : Nat) name, headers[i]? = some name → record.get? name = some (.str (row[i]?.getD ""))

def withCells (rows : List TableRow) : List TableRow := rows.filter fun r => !r.cells.isEmpty

def givenNames (header : Option TableRow) (others : List TableRow) : List String :=
  match header with
  | some r => r.texts
  | none => List.replicate (width (dataRows others)) ""

section Names

theorem getElem?_namesFrom (index : Nat) (texts : List String) (i : Nat) :
    (namesFrom index texts)[i]? = texts[i]?.map (headerName (index + i)) := by
  induction texts generalizing index i with
  | nil => simp [namesFrom]
  | cons text rest ih =>
    cases i with
    | zero => simp [namesFrom]
    | succ i => simp [namesFrom, ih, Nat.add_right_comm, Nat.add_assoc]

theorem length_namesFrom (index : Nat) (texts : List String) :
    (namesFrom index texts).length = texts.length := by
  induction texts generalizing index with
  | nil => rfl
  | cons _ _ ih => simp [namesFrom, ih]

theorem map_columnName_range (n : Nat) :
    (List.range n).map columnName = namesFrom 0 (List.replicate n "") := by
  refine List.ext_getElem? fun i => ?_
  rw [getElem?_namesFrom, List.getElem?_map, List.getElem?_replicate]
  by_cases h : i < n
  · simp [h, headerName]
  · simp [h]

theorem columnName_injective : Function.Injective columnName := fun i j h => by
  have hn : (i + 1).repr = (j + 1).repr := (String.append_right_inj "column_").mp h
  rw [Nat.repr_eq_ofList_toDigits, Nat.repr_eq_ofList_toDigits, String.ofList_inj] at hn
  have hd := congrArg (Nat.ofDigitChars 10 · 0) hn
  simpa only [Nat.ofDigitChars_ten_toDigits, Nat.add_right_cancel_iff] using hd

theorem columnName_ne_empty (i : Nat) : columnName i ≠ "" := by
  simp [columnName]

theorem unblank_columnName (i : Nat) : ∃ c ∈ (columnName i).toList, Text.isBlank c = false :=
  ⟨'c', by simp [columnName], by decide⟩

theorem unblank_namesFrom {texts : List String} (index : Nat)
    (h : ∀ text ∈ texts, text ≠ "" → ∃ c ∈ text.toList, Text.isBlank c = false) :
    ∀ name ∈ namesFrom index texts, ∃ c ∈ name.toList, Text.isBlank c = false := by
  intro name hname
  obtain ⟨i, hi⟩ := List.mem_iff_getElem?.mp hname
  rw [getElem?_namesFrom, Option.map_eq_some_iff] at hi
  obtain ⟨text, ht, rfl⟩ := hi
  rw [headerName]
  split
  · exact unblank_columnName _
  · rename_i hne
    exact h text (List.mem_of_getElem? ht) hne

end Names

section Records

variable {headers row : List String}

theorem getElem?_rowFields (headers row : List String) (index i : Nat) :
    (rowFields headers row index)[i]? =
      headers[i]?.map fun name => (name, .str (row[index + i]?.getD "")) := by
  induction headers generalizing index i with
  | nil => simp [rowFields]
  | cons name rest ih =>
    cases i with
    | zero => simp [rowFields]
    | succ i => simp [rowFields, ih, Nat.add_right_comm, Nat.add_assoc]

theorem map_fst_rowFields (headers row : List String) (index : Nat) :
    (rowFields headers row index).map Prod.fst = headers := by
  induction headers generalizing index with
  | nil => rfl
  | cons name rest ih => rw [rowFields, List.map_cons, ih]

theorem describes_object (headers row : List String) :
    Describes headers row (Json.object (rowFields headers row 0)) := by
  have hget (name : String) : (Json.object (rowFields headers row 0)).get? name =
      (rowFields headers row 0).reverse.lookup name := by
    rw [Json.object, Json.get?, Json.lookup_extendFields, List.lookup_nil, Option.or_none]
  have ho : Json.Ordered (Json.extendFields [] (rowFields headers row 0)) :=
    Json.ordered_extendFields List.Pairwise.nil _
  constructor
  case keys =>
    refine ⟨_, rfl, ho, fun name => ?_⟩
    simp [Json.mem_keys_extendFields, map_fst_rowFields]
  case values =>
    intro i name hi hlast
    rw [hget]
    refine Json.lookup_reverse_of_last (i := i) ?_ fun j f hj hf => ?_
    · rw [getElem?_rowFields, hi, Option.map_some, Nat.zero_add]
    · rw [getElem?_rowFields, Option.map_eq_some_iff] at hf
      obtain ⟨other, hother, rfl⟩ := hf
      rintro rfl
      exact hlast j hj hother

theorem Describes.covers {record : Json} (h : Describes headers row record)
    (hn : headers.Nodup) : Covers headers row record := by
  intro i name hi
  obtain ⟨hlt, -⟩ := List.getElem?_eq_some_iff.mp hi
  refine h.values i name hi fun j hj hname => ?_
  exact hj.ne ((List.getElem?_inj hlt hn).mp (hi.trans hname.symm))

theorem describes_records (rows : List TableRow) (forced : Option Bool) :
    List.Forall₂ (Describes (grid rows forced).headers) (grid rows forced).rows
      (records rows forced) :=
  List.forall₂_map_right_iff.mpr (List.forall₂_same.mpr fun _ _ => describes_object _ _)

theorem length_records (rows : List TableRow) (forced : Option Bool) :
    (records rows forced).length = (grid rows forced).rows.length :=
  List.length_map _

theorem exists_record_of_mem {rows : List TableRow} {forced : Option Bool}
    (h : row ∈ (grid rows forced).rows) :
    ∃ record ∈ records rows forced, Describes (grid rows forced).headers row record :=
  ⟨_, List.mem_map_of_mem h, describes_object _ _⟩

theorem exists_row_of_mem {rows : List TableRow} {forced : Option Bool} {record : Json}
    (h : record ∈ records rows forced) :
    ∃ row ∈ (grid rows forced).rows, Describes (grid rows forced).headers row record := by
  obtain ⟨row, hrow, rfl⟩ := List.mem_map.mp h
  exact ⟨row, hrow, describes_object _ _⟩

theorem Describes.headers_iff {headers' row' : List String} {record : Json}
    (h : Describes headers row record) (h' : Describes headers' row' record) (name : String) :
    name ∈ headers ↔ name ∈ headers' := by
  obtain ⟨_, hj, -, hk⟩ := h.keys
  obtain ⟨_, hj', -, hk'⟩ := h'.keys
  obtain rfl := Json.obj.inj (hj.symm.trans hj')
  rw [← hk, hk']

end Records

section Data

theorem foldl_width (rows : List (List String)) (n : Nat) :
    let m := rows.foldl (fun n r => max n r.length) n
    n ≤ m ∧ (∀ r ∈ rows, r.length ≤ m) ∧ (m = n ∨ ∃ r ∈ rows, r.length = m) := by
  induction rows generalizing n with
  | nil => simp
  | cons r rest ih =>
    obtain ⟨hle, hfits, hfilled⟩ := ih (max n r.length)
    rw [List.foldl_cons]
    refine ⟨by omega, List.forall_mem_cons.mpr ⟨by omega, hfits⟩, ?_⟩
    rcases hfilled with heq | ⟨r', hr', hlen⟩
    · by_cases hr : r.length ≤ n
      · exact Or.inl (by omega)
      · exact Or.inr ⟨r, List.mem_cons_self, by omega⟩
    · exact Or.inr ⟨r', List.mem_cons_of_mem _ hr', hlen⟩

theorem widest_width (rows : List (List String)) : Widest rows (width rows) :=
  ⟨(foldl_width rows 0).2.1, (foldl_width rows 0).2.2⟩

theorem dataRows_eq (rows : List TableRow) : dataRows rows = (withCells rows).map TableRow.texts :=
  rfl

theorem shows_dataRows (rows : List TableRow) :
    List.Forall₂ TableRow.Shows (withCells rows) (dataRows rows) :=
  List.forall₂_map_right_iff.mpr (List.forall₂_same.mpr fun r _ => r.shows_texts)

end Data

section Parts

variable {rows others : List TableRow} {header : Option TableRow} {forced : Option Bool}

theorem hasHeaderRow_cons_iff (first : TableRow) (rest : List TableRow) (forced : Option Bool) :
    hasHeaderRow (first :: rest) forced = true ↔ first.Heads forced := by
  cases forced with
  | none => simp [hasHeaderRow, TableRow.Heads]
  | some b => simp [hasHeaderRow, TableRow.Heads]

theorem Parts.bare_cons {first : TableRow} (h : ¬ first.Heads forced) (rest : List TableRow) :
    Parts forced (first :: rest) none (first :: rest) :=
  .bare (by simpa using h)

theorem exists_parts (rows : List TableRow) (forced : Option Bool) :
    ∃ header others, Parts forced rows header others := by
  cases rows with
  | nil => exact ⟨none, [], .bare (by simp)⟩
  | cons first rest =>
    by_cases h : first.Heads forced
    · exact ⟨some first, rest, .headed h⟩
    · exact ⟨none, _, .bare_cons h rest⟩

theorem grid_eq (h : Parts forced rows header others) :
    grid rows forced = ⟨namesFrom 0 (givenNames header others), dataRows others⟩ := by
  cases h with
  | headed hh =>
    rw [grid, if_pos ((hasHeaderRow_cons_iff _ _ _).mpr hh)]
    rfl
  | bare hn =>
    have hno : hasHeaderRow rows forced = false := by
      cases rows with
      | nil => rfl
      | cons first rest =>
        exact Bool.eq_false_iff.mpr fun hh => hn first rfl ((hasHeaderRow_cons_iff _ _ _).mp hh)
    simp only [grid, hno, Bool.false_eq_true, if_false, map_columnName_range, givenNames]

/-- Only the texts of the header row and the data of the other rows make a difference. -/
theorem grid_congr {rows' others' : List TableRow} (h : Parts forced rows header others)
    (h' : Parts forced rows' header others') (hd : dataRows others = dataRows others') :
    grid rows forced = grid rows' forced := by
  simp only [grid_eq h, grid_eq h', givenNames, hd]

theorem unblank_headers (rows : List TableRow) (forced : Option Bool) :
    ∀ name ∈ (grid rows forced).headers, ∃ c ∈ name.toList, Text.isBlank c = false := by
  obtain ⟨header, others, h⟩ := exists_parts rows forced
  rw [grid_eq h]
  refine unblank_namesFrom 0 fun text ht hne => ?_
  cases header with
  | none => exact absurd (List.eq_of_mem_replicate ht) hne
  | some r =>
    obtain ⟨c, -, rfl⟩ := List.mem_map.mp ht
    exact Text.exists_unblank_trimmed hne

/-- What becomes of a table, cut into its header row, if it has one, and its other rows. The rows
of the grid show the texts of the cells of those other rows that have any, all of them and in order.
No header is blank, and there are as many as cells in the header row, or as columns in the widest
row where there is none. The records describe the rows of the grid, one each and in order; and if
the headers differ, each shows under every header what its row has in that column. -/
theorem table_described (rows : List TableRow) (forced : Option Bool) :
    let g := grid rows forced
    ∃ header others, Parts forced rows header others ∧
      List.Forall₂ TableRow.Shows (withCells others) g.rows ∧
      (∀ name ∈ g.headers, ∃ c ∈ name.toList, Text.isBlank c = false) ∧
      (∀ r, header = some r → g.headers.length = r.cells.length) ∧
      (header = none → Widest g.rows g.headers.length) ∧
      List.Forall₂ (Describes g.headers) g.rows (records rows forced) ∧
      (g.headers.Nodup → List.Forall₂ (Covers g.headers) g.rows (records rows forced)) := by
  intro g
  obtain ⟨header, others, h⟩ := exists_parts rows forced
  have hg : g = ⟨namesFrom 0 (givenNames header others), dataRows others⟩ := grid_eq h
  have hlength : g.headers.length = (givenNames header others).length := by
    rw [hg, length_namesFrom]
  have hrows : g.rows = dataRows others := by rw [hg]
  refine ⟨header, others, h, ?_, unblank_headers rows forced, ?_, ?_,
    describes_records rows forced, fun hn => ?_⟩
  · rw [hrows]
    exact shows_dataRows others
  · rintro r rfl
    rw [hlength, givenNames, TableRow.texts, List.length_map]
  · rintro rfl
    rw [hlength, hrows, givenNames, List.length_replicate]
    exact widest_width _
  · exact (describes_records rows forced).imp fun _ _ hd => hd.covers hn

section Samples

def dataCell (text : String) : TableCell := ⟨text, false⟩

def headerCell (text : String) : TableCell := ⟨text, true⟩

def ragged (second : String) : List TableRow :=
  [⟨[headerCell "A", headerCell second], false⟩, ⟨[dataCell "x"], false⟩]

end Samples

/-- Under two headers the cell is in its column and the missing one empty; under one header that
stands twice the missing cell is over the other one. -/
theorem table_described_ragged :
    ((grid (ragged " B ") none).headers.Nodup ∧ ∀ record ∈ (records (ragged " B ") none).head?,
      record.get? "A" = some (.str "x") ∧ record.get? "B" = some (.str "")) ∧
    ∀ record ∈ (records (ragged "A") none).head?, record.get? "A" = some (.str "") := by
  have hn : (grid (ragged " B ") none).headers.Nodup := by decide
  have hrows (second : String) : (grid (ragged second) none).rows = [["x"]] := rfl
  refine ⟨⟨hn, fun record hrecord => ?_⟩, fun record hrecord => ?_⟩
  · obtain ⟨_, _, -, -, -, -, -, -, hall⟩ := table_described (ragged " B ") none
    have hshown := hall hn
    rw [hrows] at hshown
    obtain ⟨_, _, hfirst, -, hsplit⟩ := List.forall₂_cons_left_iff.mp hshown
    obtain rfl := Option.some.inj ((congrArg List.head? hsplit).symm.trans hrecord)
    exact ⟨hfirst 0 "A" rfl, hfirst 1 "B" rfl⟩
  · obtain ⟨_, _, -, -, -, -, -, hall, -⟩ := table_described (ragged "A") none
    rw [hrows] at hall
    obtain ⟨_, _, hfirst, -, hsplit⟩ := List.forall₂_cons_left_iff.mp hall
    obtain rfl := Option.some.inj ((congrArg List.head? hsplit).symm.trans hrecord)
    exact hfirst.values 1 "A" rfl fun j hj => by
      rw [List.getElem?_eq_none hj]
      exact (Option.some_ne_none _).symm

end Parts

end Table
end PageFlow
