import PageFlow.Proofs.Tables

/-! Tables with rows that have no cells. Such a row is no row of the grid and has no record, and
behind the first row it makes no difference at all. As the first row it is still looked at for the
headers: it may be the header row, of no columns, or keep the row behind it from being that. -/
namespace PageFlow
namespace Table

/-- The table begins with a row without cells that changes which row is the header row: other rows
have cells, and the first row or the first that has cells would head the table. -/
def Misleads (rows : List TableRow) (forced : Option Bool) : Prop :=
  ∃ first rest, rows = first :: rest ∧ first.cells = [] ∧
    ∃ r ∈ (withCells rest).head?, first.Heads forced ∨ r.Heads forced

variable {first : TableRow} {rest : List TableRow} {forced : Option Bool}

theorem dataRows_cons (first : TableRow) (rest : List TableRow) : dataRows (first :: rest) =
    (if first.cells = [] then [] else [first.texts]) ++ dataRows rest := by
  by_cases h : first.cells = [] <;> simp [dataRows, h]

theorem withCells_withCells (rows : List TableRow) :
    withCells (withCells rows) = withCells rows := by
  rw [withCells, withCells, List.filter_filter]
  simp

theorem dataRows_withCells (rows : List TableRow) : dataRows (withCells rows) = dataRows rows := by
  rw [dataRows_eq, withCells_withCells, dataRows_eq]

theorem grid_cons_withCells (first : TableRow) (rest : List TableRow) (forced : Option Bool) :
    grid (first :: withCells rest) forced = grid (first :: rest) forced := by
  by_cases h : first.Heads forced
  · exact grid_congr (.headed h) (.headed h) (dataRows_withCells rest)
  · refine grid_congr (.bare_cons h _) (.bare_cons h rest) ?_
    rw [dataRows_cons, dataRows_cons, dataRows_withCells]

theorem withCells_cons_of_empty (he : first.cells = []) (rest : List TableRow) :
    withCells (first :: rest) = withCells rest := by
  rw [withCells, List.filter_cons_of_neg (by simp [he]), withCells]

/-- A first row without cells, be it the header row or not, is no row of the grid. -/
theorem rows_of_empty (he : first.cells = []) (rest : List TableRow) (forced : Option Bool) :
    (grid (first :: rest) forced).rows = dataRows rest := by
  by_cases h : first.Heads forced
  · rw [grid_eq (.headed h)]
  · rw [grid_eq (.bare_cons h _), dataRows_cons, if_pos he, List.nil_append]

theorem headers_of_empty (he : first.cells = []) (h : first.Heads forced ∨ withCells rest = []) :
    (grid (first :: rest) forced).headers = [] := by
  by_cases hh : first.Heads forced
  · rw [grid_eq (.headed hh), givenNames, TableRow.texts, he]
    rfl
  · have hd : dataRows (first :: rest) = [] := by
      rw [dataRows_eq, withCells_cons_of_empty he, h.resolve_left hh, List.map_nil]
    rw [grid_eq (.bare_cons hh _), givenNames, hd]
    rfl

theorem headers_ne_nil (hc : first.cells ≠ []) (rest : List TableRow) (forced : Option Bool) :
    (grid (first :: rest) forced).headers ≠ [] := by
  have hpos : 0 < first.texts.length := by
    rw [TableRow.texts, List.length_map]
    exact List.length_pos_iff.mpr hc
  refine List.length_pos_iff.mp ?_
  by_cases h : first.Heads forced
  · rwa [grid_eq (.headed h), length_namesFrom]
  · rw [grid_eq (.bare_cons h _), length_namesFrom, givenNames, List.length_replicate]
    refine Nat.lt_of_lt_of_le hpos ((widest_width _).fits _ ?_)
    rw [dataRows_cons, if_neg hc]
    exact List.mem_cons_self

theorem grid_withCells_of_empty (he : first.cells = []) (hm : ¬ Misleads (first :: rest) forced) :
    grid (withCells rest) forced = grid (first :: rest) forced := by
  cases hr : withCells rest with
  | nil =>
    have hrows := rows_of_empty he rest forced
    rw [dataRows_eq, hr, List.map_nil] at hrows
    calc grid [] forced = ⟨[], []⟩ := grid_eq (.bare (by simp))
      _ = ⟨(grid (first :: rest) forced).headers, (grid (first :: rest) forced).rows⟩ := by
        rw [headers_of_empty he (Or.inr hr), hrows]
      _ = grid (first :: rest) forced := rfl
  | cons r others =>
    obtain ⟨hf, hnot⟩ : ¬ first.Heads forced ∧ ¬ r.Heads forced :=
      not_or.mp fun h => hm ⟨first, rest, rfl, he, r, by simp [hr], h⟩
    refine grid_congr (.bare_cons hnot others) (.bare_cons hf rest) ?_
    rw [← hr, dataRows_withCells, dataRows_cons, if_pos he, List.nil_append]

theorem records_withCells_ne (he : first.cells = []) {r : TableRow}
    (hr : r ∈ (withCells rest).head?) (h : first.Heads forced ∨ r.Heads forced) :
    records (withCells rest) forced ≠ records (first :: rest) forced := by
  intro heq
  obtain ⟨others, hsplit⟩ := List.head?_eq_some_iff.mp hr
  have hc : r.cells ≠ [] := by
    have hmem : r ∈ withCells rest := hsplit ▸ List.mem_cons_self
    simpa using (List.mem_filter.mp hmem).2
  by_cases hh : r.Heads forced
  case pos =>
    -- One of the rows with cells is a row of the one grid and the header row of the other.
    have hrows : (grid (r :: others) forced).rows = dataRows others := by
      rw [grid_eq (.headed hh)]
    have hle : (dataRows others).length ≤ others.length := by
      rw [dataRows_eq, List.length_map]
      exact List.length_filter_le _ _
    have hrest : (dataRows rest).length = others.length + 1 := by
      rw [dataRows_eq, hsplit, List.length_map, List.length_cons]
    have hlength : (dataRows others).length = (dataRows rest).length := by
      rw [← hrows, ← rows_of_empty he rest forced, ← length_records, ← length_records, ← hsplit,
        heq]
    omega
  case neg =>
    -- As many rows, but in the one grid without any header.
    have hempty : (grid (first :: rest) forced).headers = [] :=
      headers_of_empty he (Or.inl (h.resolve_right hh))
    obtain ⟨name, hname⟩ := List.exists_mem_of_ne_nil _ (headers_ne_nil hc others forced)
    have hrow : r.texts ∈ (grid (r :: others) forced).rows := by
      rw [grid_eq (.bare_cons hh _), dataRows_cons, if_neg hc]
      exact List.mem_cons_self
    obtain ⟨record, hrecord, hd⟩ := exists_record_of_mem hrow
    rw [← hsplit, heq] at hrecord
    obtain ⟨row, -, hd'⟩ := exists_row_of_mem hrecord
    rw [hempty] at hd'
    exact List.not_mem_nil ((hd.headers_iff hd' name).mp hname)

/-- Rows without cells make no difference to the grid or to the records, wherever they stand, but
for one case: the table begins with one, and which row is the header row is decided by that one. -/
theorem empty_rows_dropped_iff (rows : List TableRow) (forced : Option Bool) :
    (grid (withCells rows) forced = grid rows forced ↔ ¬ Misleads rows forced) ∧
      (records (withCells rows) forced = records rows forced ↔ ¬ Misleads rows forced) ∧
      ∀ first rest, grid (first :: withCells rest) forced = grid (first :: rest) forced ∧
        records (first :: withCells rest) forced = records (first :: rest) forced := by
  have hrecords {a b : List TableRow} (h : grid a forced = grid b forced) :
      records a forced = records b forced := by
    rw [records, records, h]
  have hsame : ¬ Misleads rows forced → grid (withCells rows) forced = grid rows forced := by
    intro hm
    cases rows with
    | nil => rfl
    | cons first rest =>
      by_cases he : first.cells = []
      · rw [withCells_cons_of_empty he]
        exact grid_withCells_of_empty he hm
      · rw [withCells, List.filter_cons_of_pos (by simpa using he)]
        exact grid_cons_withCells first rest forced
  have hdiffer : Misleads rows forced →
      records (withCells rows) forced ≠ records rows forced := by
    rintro ⟨first, rest, rfl, he, r, hr, h⟩
    rw [withCells_cons_of_empty he]
    exact records_withCells_ne he hr h
  refine ⟨⟨fun heq hm => hdiffer hm (hrecords heq), hsame⟩,
    ⟨fun heq hm => hdiffer hm heq, fun hm => hrecords (hsame hm)⟩, fun first rest => ?_⟩
  have hkeep := grid_cons_withCells first rest forced
  exact ⟨hkeep, hrecords hkeep⟩

def spaced : List TableRow :=
  [⟨[], false⟩, ⟨[headerCell "Item"], false⟩, ⟨[dataCell "tea"], false⟩]

/-- The row without cells takes the place of the header row. -/
theorem empty_row_hides_headers :
    grid spaced none = ⟨["column_1"], [["Item"], ["tea"]]⟩ ∧
      grid (withCells spaced) none = ⟨["Item"], [["tea"]]⟩ := by
  decide

end Table
end PageFlow
