import Mathlib.Data.List.Dedup
import Mathlib.Data.List.Perm.Basic
import PageFlow.Proofs.Tables

/-! When the columns of a table have names that differ. A name made of the position of a column is
like no other such name, but it may be the text of another column. That is the only way in which
names can clash if the texts of the header row differ as far as they are not blank, and a record
then lacks the one of the two columns that stands first. -/
namespace PageFlow
namespace Table

/-- One column is called by its text what another one, whose text is blank, is called by its
position. -/
def Clash (texts : List String) (i j : Nat) : Prop :=
  texts[i]? = some (columnName j) ∧ texts[j]? = some ""

section Names

variable {texts : List String} {i j : Nat}

theorem Clash.ne (h : Clash texts i j) : i ≠ j := by
  rintro rfl
  exact columnName_ne_empty i (Option.some.inj (h.1.symm.trans h.2))

theorem Clash.names (h : Clash texts i j) : (namesFrom 0 texts)[i]? = some (columnName j) ∧
    (namesFrom 0 texts)[j]? = some (columnName j) := by
  rw [getElem?_namesFrom, getElem?_namesFrom, h.1, h.2]
  simp [headerName, columnName_ne_empty]

theorem eq_of_text {text : String} (hd : (texts.filter (· ≠ "")).Nodup) (hne : text ≠ "")
    (hi : texts[i]? = some text) (hj : texts[j]? = some text) : i = j := by
  rw [List.Nodup, List.pairwise_filter, List.pairwise_iff_getElem] at hd
  obtain ⟨hil, hi⟩ := List.getElem?_eq_some_iff.mp hi
  obtain ⟨hjl, hj⟩ := List.getElem?_eq_some_iff.mp hj
  rcases Nat.lt_trichotomy i j with hlt | heq | hlt
  · exact absurd (hi.trans hj.symm) (hd i j hil hjl hlt (by simp [hi, hne]) (by simp [hj, hne]))
  · exact heq
  · exact absurd (hj.trans hi.symm) (hd j i hjl hil hlt (by simp [hj, hne]) (by simp [hi, hne]))

theorem eq_or_clash {name : String} (hd : (texts.filter (· ≠ "")).Nodup)
    (hi : (namesFrom 0 texts)[i]? = some name) (hj : (namesFrom 0 texts)[j]? = some name) :
    i = j ∨ Clash texts i j ∨ Clash texts j i := by
  rw [getElem?_namesFrom, Nat.zero_add, Option.map_eq_some_iff] at hi hj
  obtain ⟨a, ha, rfl⟩ := hi
  obtain ⟨b, hb, h⟩ := hj
  by_cases hblank : a = ""
  · by_cases hblank' : b = ""
    · have hname : columnName j = columnName i := by simpa [headerName, hblank, hblank'] using h
      exact Or.inl (columnName_injective hname).symm
    · have hname : b = columnName i := by simpa [headerName, hblank, hblank'] using h
      exact Or.inr (Or.inr ⟨by rw [hb, hname], by rw [ha, hblank]⟩)
  · by_cases hblank' : b = ""
    · have hname : columnName j = a := by simpa [headerName, hblank, hblank'] using h
      exact Or.inr (Or.inl ⟨by rw [ha, hname], by rw [hb, hblank']⟩)
    · have hname : b = a := by simpa [headerName, hblank, hblank'] using h
      exact Or.inl (eq_of_text hd hblank ha (hname ▸ hb))

theorem nodup_namesFrom_iff (hd : (texts.filter (· ≠ "")).Nodup) :
    (namesFrom 0 texts).Nodup ↔ ∀ i j, ¬ Clash texts i j := by
  constructor
  · intro hn i j hc
    obtain ⟨hi, hj⟩ := hc.names
    obtain ⟨hlt, -⟩ := List.getElem?_eq_some_iff.mp hi
    exact hc.ne ((List.getElem?_inj hlt hn).mp (hi.trans hj.symm))
  · intro h
    refine List.nodup_iff_getElem?_ne_getElem?.mpr fun i j hij hj heq => ?_
    have hname := List.getElem?_eq_getElem hj
    rcases eq_or_clash hd (heq.trans hname) hname with rfl | hc | hc
    · exact Nat.lt_irrefl _ hij
    · exact h i j hc
    · exact h j i hc

theorem Clash.eq_or_eq {k : Nat} (hd : (texts.filter (· ≠ "")).Nodup) (h : Clash texts i j)
    (hk : (namesFrom 0 texts)[k]? = some (columnName j)) : k = i ∨ k = j := by
  rcases eq_or_clash hd hk h.names.2 with heq | hc | hc
  · exact Or.inr heq
  · exact Or.inl (eq_of_text hd (columnName_ne_empty j) hc.1 h.1)
  · exact absurd (Option.some.inj (hc.1.symm.trans h.2)) (columnName_ne_empty k)

end Names

section Records

variable {headers row : List String} {record : Json}

theorem Describes.length_eq_iff (h : Describes headers row record) :
    ∃ fields, record = .obj fields ∧ (fields.map Prod.fst).Nodup ∧
      (fields.length = headers.length ↔ headers.Nodup) := by
  obtain ⟨fields, rfl, ho, hkeys⟩ := h.keys
  have hn := ho.nodup_keys
  have hperm : (fields.map Prod.fst).Perm headers.dedup :=
    (List.perm_ext_iff_of_nodup hn headers.nodup_dedup).mpr fun name => by
      rw [hkeys, List.mem_dedup]
  have hlength : fields.length = headers.dedup.length := by
    rw [← hperm.length_eq, List.length_map]
  refine ⟨fields, rfl, hn, ?_⟩
  rw [hlength, ← List.dedup_eq_self]
  exact ⟨(List.dedup_sublist headers).eq_of_length, fun h => by rw [h]⟩

end Records

section Parts

variable {rows others : List TableRow} {header : Option TableRow} {forced : Option Bool}

theorem nodup_headers_iff (h : Parts forced rows header others)
    (hd : ∀ r, header = some r → (r.texts.filter (· ≠ "")).Nodup) :
    (grid rows forced).headers.Nodup ↔ ∀ r, header = some r → ∀ i j, ¬ Clash r.texts i j := by
  rw [grid_eq h]
  cases header with
  | some r => simpa [givenNames] using nodup_namesFrom_iff (hd r rfl)
  | none =>
    have hn : ((List.range (width (dataRows others))).map columnName).Nodup :=
      List.nodup_range.map columnName_injective
    rw [map_columnName_range] at hn
    exact iff_of_true hn fun r hr => absurd hr.symm (Option.some_ne_none r)

/-- The header row of a table, if it has one, has texts that differ as far as they are not blank.
Then all headers differ, each record has one key for each column and shows under each header what
its row has in that column, unless one column is called by its text what a blank one is called by
its position. In that case both have this name, and under it the record shows what its row has in
the later of the two, so what stands in the earlier one is lost. -/
theorem headers_distinct_iff (h : Parts forced rows header others)
    (hd : ∀ r, header = some r → (r.texts.filter (· ≠ "")).Nodup) :
    let g := grid rows forced
    let clear := ∀ r, header = some r → ∀ i j, ¬ Clash r.texts i j
    (g.headers.Nodup ↔ clear) ∧
      (∀ record ∈ records rows forced, ∃ fields, record = .obj fields ∧
        (fields.map Prod.fst).Nodup ∧ (fields.length = g.headers.length ↔ clear)) ∧
      (clear → List.Forall₂ (Covers g.headers) g.rows (records rows forced)) ∧
      ∀ r, header = some r → ∀ i j, Clash r.texts i j → i ≠ j ∧
        g.headers[i]? = some (columnName j) ∧ g.headers[j]? = some (columnName j) ∧
          List.Forall₂ (fun row record =>
            record.get? (columnName j) = some (.str (row[max i j]?.getD "")))
              g.rows (records rows forced) := by
  intro g clear
  have hn : g.headers.Nodup ↔ clear := nodup_headers_iff h hd
  have hall : List.Forall₂ (Describes g.headers) g.rows (records rows forced) :=
    describes_records rows forced
  refine ⟨hn, fun record hrecord => ?_, fun hc => ?_, ?_⟩
  · obtain ⟨row, -, hrow⟩ := exists_row_of_mem hrecord
    rw [← hn]
    exact hrow.length_eq_iff
  · exact hall.imp fun _ _ hrow => hrow.covers (hn.mpr hc)
  · rintro r rfl i j hc
    have hheaders : g.headers = namesFrom 0 r.texts := by
      rw [show g = _ from grid_eq h]
      rfl
    rw [hheaders]
    refine ⟨hc.ne, hc.names.1, hc.names.2, ?_⟩
    refine hall.imp fun row record hrow => ?_
    rw [hheaders] at hrow
    refine hrow.values (max i j) (columnName j) ?_ fun k hk hname => ?_
    · rcases Nat.le_total i j with hle | hle
      · rw [Nat.max_eq_right hle]
        exact hc.names.2
      · rw [Nat.max_eq_left hle]
        exact hc.names.1
    · rcases hc.eq_or_eq (hd r rfl) hname with rfl | rfl <;> omega

def titles (first : String) : TableRow := ⟨[headerCell first, headerCell " "], false⟩

def numbers : TableRow := ⟨[dataCell "1", dataCell "2"], false⟩

/-- Beside a title that is not the name of its position the second column has a name of its own. -/
theorem headers_distinct_iff_titled :
    Parts none [titles "Name", numbers] (some (titles "Name")) [numbers] ∧
      ((titles "Name").texts.filter (· ≠ "")).Nodup ∧
      ∀ i j, ¬ Clash (titles "Name").texts i j := by
  have hp : Parts none [titles "Name", numbers] (some (titles "Name")) [numbers] :=
    .headed (Or.inr ⟨rfl, Or.inr ⟨_, List.mem_cons_self, rfl⟩⟩)
  have hd : ∀ r, some (titles "Name") = some r → (r.texts.filter (· ≠ "")).Nodup := by
    intro r hr
    obtain rfl := Option.some.inj hr
    decide
  exact ⟨hp, hd _ rfl, (headers_distinct_iff hp hd).1.mp (by decide) _ rfl⟩

/-- Beside the title that is this very name, the second column hides the first. -/
theorem generated_name_hides_column :
    ((titles "column_2").texts.filter (· ≠ "")).Nodup ∧
      grid [titles "column_2", numbers] none = ⟨["column_2", "column_2"], [["1", "2"]]⟩ ∧
      records [titles "column_2", numbers] none = [.obj [("column_2", .str "2")]] :=
  ⟨by decide, by decide, rfl⟩

end Parts

end Table
end PageFlow
