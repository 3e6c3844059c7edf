import Mathlib.Data.List.DropRight
import PageFlow.Text.Blank

/-! What trimming leaves of a text: a part of it that neither begins nor ends with a blank, and that
is missing nothing but blanks. It is nothing at all exactly if the whole text is blank. -/
namespace PageFlow
namespace Text

/-- The second text is the first without the blanks at its ends. -/
structure Trims (s t : List Char) : Prop where
  cut : ∃ front back, s = front ++ t ++ back ∧ (∀ c ∈ front, isBlank c = true) ∧
    ∀ c ∈ back, isBlank c = true
  head : ∀ c ∈ t.head?, isBlank c = false
  last : ∀ c ∈ t.getLast?, isBlank c = false

theorem trim_eq (s : List Char) : trim s = (s.dropWhile isBlank).rdropWhile isBlank := rfl

theorem trim_eq_nil_iff (s : List Char) : trim s = [] ↔ ∀ c ∈ s, isBlank c = true := by
  rw [trim_eq, List.rdropWhile_eq_nil_iff]
  constructor
  · intro h c hc
    rw [← List.takeWhile_append_dropWhile (p := isBlank) (l := s)] at hc
    rcases List.mem_append.mp hc with hc | hc
    · exact List.mem_takeWhile_imp hc
    · exact h c hc
  · intro h c hc
    exact h c ((List.dropWhile_suffix isBlank).subset hc)

theorem trims_trim (s : List Char) : Trims s (trim s) := by
  have hinner : trim s ++ (s.dropWhile isBlank).rtakeWhile isBlank = s.dropWhile isBlank :=
    List.rdropWhile_append_rtakeWhile
  constructor
  case cut =>
    refine ⟨s.takeWhile isBlank, (s.dropWhile isBlank).rtakeWhile isBlank, ?_,
      fun c => List.mem_takeWhile_imp, fun c => List.mem_rtakeWhile_imp⟩
    rw [List.append_assoc, hinner, List.takeWhile_append_dropWhile]
  case head =>
    intro c hc
    have hfirst : (s.dropWhile isBlank).head? = some c := by
      rw [← hinner, List.head?_append, Option.mem_def.mp hc]
      rfl
    have hnot := List.head?_dropWhile_not isBlank s
    rwa [hfirst] at hnot
  case last =>
    intro c hc
    obtain ⟨hne, rfl⟩ := List.mem_getLast?_eq_getLast hc
    exact Bool.eq_false_iff.mpr (List.rdropWhile_last_not isBlank _ hne)

theorem exists_unblank_trimmed {s : String} (h : trimmed s ≠ "") :
    ∃ c ∈ (trimmed s).toList, isBlank c = false := by
  rw [trimmed, ← String.ofList_nil] at h
  cases ht : trim s.toList with
  | nil => exact absurd (congrArg String.ofList ht) h
  | cons c rest =>
    refine ⟨c, ?_, (trims_trim s.toList).head c (by simp [ht])⟩
    rw [trimmed, String.toList_ofList, ht]
    exact List.mem_cons_self

/-- Nothing else is the text without the blanks at its ends. -/
theorem Trims.eq_trim {s t : List Char} (h : Trims s t) : t = trim s := by
  obtain ⟨front, back, rfl, hfront, hback⟩ := h.cut
  have hdrop : (front ++ t ++ back).dropWhile isBlank = (t ++ back).dropWhile isBlank := by
    rw [List.append_assoc, List.dropWhile_append_of_pos hfront]
  cases t with
  | nil =>
    refine ((trim_eq_nil_iff _).mpr fun c hc => ?_).symm
    rcases List.mem_append.mp hc with hc | hc
    · exact hfront c (by simpa using hc)
    · exact hback c hc
  | cons c rest =>
    have hc : isBlank c = false := h.head c rfl
    have hkeep : (c :: rest ++ back).dropWhile isBlank = c :: rest ++ back := by
      rw [List.cons_append, List.dropWhile_cons_of_neg (by simp [hc])]
    have hback' : ∀ d ∈ back.reverse, isBlank d = true := fun d hd =>
      hback d (List.mem_reverse.mp hd)
    have hlast : (c :: rest).rdropWhile isBlank = c :: rest := by
      rw [List.rdropWhile_eq_self_iff]
      intro hne
      simp [h.last _ (List.getLast?_eq_some_getLast hne)]
    rw [trim_eq, hdrop, hkeep, List.rdropWhile, List.reverse_append,
      List.dropWhile_append_of_pos hback']
    exact hlast.symm

theorem trim_append_blank (s : List Char) {c : Char} (hc : isBlank c = true) :
    trim (s ++ [c]) = trim s := by
  have h := trims_trim s
  obtain ⟨front, back, hs, hfront, hback⟩ := h.cut
  refine (Trims.eq_trim ⟨⟨front, back ++ [c], ?_, hfront, fun d hd => ?_⟩, h.head, h.last⟩).symm
  · rw [← List.append_assoc, ← hs]
  · rcases List.mem_append.mp hd with hd | hd
    · exact hback d hd
    · exact List.mem_singleton.mp hd ▸ hc

end Text
end PageFlow
