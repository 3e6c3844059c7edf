import Mathlib
import PageFlow.Pdf.Output
import PageFlow.Proofs.Objects
import PageFlow.Proofs.Trimming

/-! Objects printed one a line, put together. Only the lines count that are not blank, as they are
without the blanks at their ends. If each of them is an object, their fields are put over one
another in order; otherwise the first that is none gives the error. So two outputs, one after the
other on lines of their own, give the object of the second put over that of the first. -/
namespace PageFlow
namespace Pdf

open Json (Ordered extendFields)

def counted (lines : List (List Char)) : List (List Char) := (lines.map Text.trim).filter (· ≠ [])

/-- The lines of a text that count: what stands between newlines, unless it is blank. -/
def content (text : String) : List (List Char) := counted (text.toList.splitOn '\n')

def Holds (line : List Char) (fields : List (String × Json)) : Prop :=
  Json.parse? (String.ofList line) = some (.obj fields)

/-- The line is no object, and this is the error for it: of a line that is not JSON, what a parser
says of that very line. -/
inductive Fails (line : List Char) : FlowError → Prop
  | malformed : Json.parse? (String.ofList line) = none →
      Fails line (.json (Json.complaint (Text.encode (String.ofList line))))
  | other {j} : Json.parse? (String.ofList line) = some j → (∀ fields, j ≠ .obj fields) →
      Fails line (.pdf ("extractor printed a non-object value: " ++ j.compact))

/-- One object put over another: it has the keys of both, and under a key of both what the second
has. -/
structure Overlays (x y z : List (String × Json)) : Prop where
  ordered : Ordered z
  lookup : ∀ key, z.lookup key = (y.lookup key).or (x.lookup key)

section Lines

theorem counted_cons (line : List Char) (rest : List (List Char)) : counted (line :: rest) =
    if Text.trim line = [] then counted rest else Text.trim line :: counted rest := by
  by_cases h : Text.trim line = [] <;> simp [counted, h]

theorem counted_append (xs ys : List (List Char)) :
    counted (xs ++ ys) = counted xs ++ counted ys := by
  rw [counted, List.map_append, List.filter_append, counted, counted]

theorem trim_dropReturn (line : List Char) : Text.trim (Text.dropReturn line) = Text.trim line := by
  rw [Text.dropReturn]
  split
  · rename_i h
    obtain ⟨front, rfl⟩ := List.getLast?_eq_some_iff.mp h
    rw [List.dropLast_concat, Text.trim_append_blank front (by decide)]
  · rfl

theorem linesFrom_cons {c : Char} (hc : c ≠ '\n') (current rest : List Char) :
    Text.linesFrom current (c :: rest) = Text.linesFrom (c :: current) rest :=
  Text.linesFrom.eq_3 current c rest hc

theorem counted_linesFrom (current s : List Char) (h : '\n' ∉ current) :
    counted (Text.linesFrom current s) = counted ((current.reverse ++ s).splitOn '\n') := by
  induction s generalizing current with
  | nil =>
    have hkeep : '\n' ∉ current.reverse := fun hm => h (List.mem_reverse.mp hm)
    rw [List.append_nil, List.splitOn_eq_singleton hkeep, Text.linesFrom]
    split
    · rename_i he
      rw [List.isEmpty_iff.mp he]
      rfl
    · rfl
  | cons c rest ih =>
    by_cases hc : c = '\n'
    · subst hc
      have hpiece : (current.reverse ++ '\n' :: rest).splitOn '\n' =
          current.reverse :: rest.splitOn '\n' := by
        simp only [List.splitOn_eq_splitOnP]
        refine List.splitOnP_append_cons_of_forall_mem (fun d hd => ?_) _ (by decide) _
        exact beq_eq_false_iff_ne.mpr fun he => h (List.mem_reverse.mp (he ▸ hd))
      rw [Text.linesFrom, counted_cons, trim_dropReturn, ih [] List.not_mem_nil, hpiece,
        counted_cons]
      rfl
    · have hnext : '\n' ∉ c :: current := fun hm =>
        (List.mem_cons.mp hm).elim (fun he => hc he.symm) h
      rw [linesFrom_cons hc, ih _ hnext, List.reverse_cons, List.append_assoc]
      rfl

theorem counted_lines (text : String) : counted (Text.lines text.toList) = content text :=
  counted_linesFrom [] text.toList List.not_mem_nil

theorem content_join (a b : String) : content (a ++ "\n" ++ b) = content a ++ content b := by
  have hchars : (a ++ "\n" ++ b).toList = a.toList ++ '\n' :: b.toList := by simp
  rw [content, hchars, content, content, ← counted_append]
  simp only [List.splitOn_eq_splitOnP]
  rw [List.splitOnP_append_cons _ _ (by decide)]

theorem counted_linesFrom_of_blank {current s : List Char}
    (h : ∀ c ∈ current.reverse ++ s, Text.isBlank c = true) :
    counted (Text.linesFrom current s) = [] := by
  induction s generalizing current with
  | nil =>
    have hblank := (Text.trim_eq_nil_iff _).mpr h
    rw [List.append_nil] at hblank
    rw [Text.linesFrom]
    split
    · rfl
    · rw [counted_cons, if_pos hblank]
      rfl
  | cons c rest ih =>
    by_cases hc : c = '\n'
    · subst hc
      have hblank : Text.trim current.reverse = [] := (Text.trim_eq_nil_iff _).mpr fun d hd =>
        h d (List.mem_append_left _ hd)
      rw [Text.linesFrom, counted_cons, trim_dropReturn, if_pos hblank]
      exact ih fun d hd => h d (List.mem_append_right _ (List.mem_cons_of_mem _ hd))
    · rw [linesFrom_cons hc]
      exact ih (by simpa using h)

theorem content_of_blank {text : String} (h : ∀ c ∈ text.toList, Text.isBlank c = true) :
    content text = [] := by
  rw [← counted_lines]
  exact counted_linesFrom_of_blank h

end Lines

section Merge

variable {merged fields : List (String × Json)} {lines : List (List Char)} {e : FlowError}

theorem lineFields_eq_ok_iff (line : List Char) :
    lineFields line = .ok fields ↔ Holds (Text.trim line) fields := by
  rw [lineFields, Holds]
  split <;> simp_all

theorem lineFields_eq_error_iff (line : List Char) :
    lineFields line = .error e ↔ Fails (Text.trim line) e := by
  rw [lineFields]
  constructor
  · intro h
    split at h
    · rename_i hp
      obtain rfl := Except.error.inj h
      exact .malformed hp
    · cases h
    · rename_i j hno hp
      obtain rfl := Except.error.inj h
      exact .other hp hno
  · rintro (hp | ⟨hp, hno⟩)
    · rw [hp]
    · rename_i j
      rw [hp]
      cases j with
      | obj fields => exact absurd rfl (hno fields)
      | _ => rfl

/-- A step of the merge: a blank line is passed over, an object is put over what there is, and
anything else ends it. -/
theorem mergeLines_cons (merged : List (String × Json)) (line : List Char)
    (rest : List (List Char)) : mergeLines merged (line :: rest) =
      if Text.trim line = [] then mergeLines merged rest
      else lineFields line >>= fun fields => mergeLines (extendFields merged fields) rest := by
  rw [mergeLines, isBlankLine]
  by_cases h : Text.trim line = []
  · simp [h]
  · cases hl : lineFields line <;> simp [h] <;> rfl

theorem mergeLines_eq_ok_iff (merged : List (String × Json)) (lines : List (List Char)) :
    mergeLines merged lines = .ok fields ↔ ∃ objects,
      List.Forall₂ Holds (counted lines) objects ∧ fields = objects.foldl extendFields merged := by
  induction lines generalizing merged with
  | nil => simp [mergeLines, counted, eq_comm]
  | cons line rest ih =>
    rw [mergeLines_cons, counted_cons]
    split
    · exact ih merged
    · constructor
      · intro h
        cases hl : lineFields line with
        | error e => rw [hl] at h; cases h
        | ok first =>
          rw [hl] at h
          obtain ⟨objects, hall, rfl⟩ := (ih _).mp h
          exact ⟨first :: objects, .cons ((lineFields_eq_ok_iff line).mp hl) hall, rfl⟩
      · rintro ⟨objects, hall, rfl⟩
        cases hall with
        | cons hfirst hall =>
          rw [(lineFields_eq_ok_iff line).mpr hfirst]
          exact (ih _).mpr ⟨_, hall, rfl⟩

theorem mergeLines_eq_error_iff (merged : List (String × Json)) (lines : List (List Char)) :
    mergeLines merged lines = .error e ↔ ∃ before line after,
      counted lines = before ++ line :: after ∧ (∀ l ∈ before, ∃ fields, Holds l fields) ∧
        Fails line e := by
  induction lines generalizing merged with
  | nil => simp [mergeLines, counted]
  | cons line rest ih =>
    rw [mergeLines_cons, counted_cons]
    split
    · exact ih merged
    · constructor
      · intro h
        cases hl : lineFields line with
        | error e' =>
          rw [hl] at h
          obtain rfl := Except.error.inj h
          exact ⟨[], _, _, rfl, by simp, (lineFields_eq_error_iff line).mp hl⟩
        | ok first =>
          rw [hl] at h
          obtain ⟨before, l, after, hsplit, hbefore, hl'⟩ := (ih _).mp h
          refine ⟨_ :: before, l, after, congrArg _ hsplit, ?_, hl'⟩
          exact List.forall_mem_cons.mpr ⟨⟨first, (lineFields_eq_ok_iff line).mp hl⟩, hbefore⟩
      · rintro ⟨before, l, after, hsplit, hbefore, hl⟩
        cases before with
        | nil =>
          obtain ⟨rfl, -⟩ := List.cons.inj hsplit
          rw [(lineFields_eq_error_iff line).mpr hl]
          rfl
        | cons first before =>
          obtain ⟨rfl, hrest⟩ := List.cons.inj hsplit
          obtain ⟨⟨fields, hfirst⟩, hbefore⟩ := List.forall_mem_cons.mp hbefore
          rw [(lineFields_eq_ok_iff line).mpr hfirst]
          exact (ih _).mpr ⟨before, l, after, hrest, hbefore, hl⟩

theorem merge_eq_ok_iff (text : String) (j : Json) : merge text = .ok j ↔ ∃ objects,
    List.Forall₂ Holds (content text) objects ∧ j = .obj (objects.foldl extendFields []) := by
  rw [merge, ← counted_lines]
  constructor
  · intro h
    cases hm : mergeLines [] (Text.lines text.toList) with
    | error e => rw [hm] at h; cases h
    | ok fields =>
      rw [hm] at h
      obtain ⟨objects, hall, rfl⟩ := (mergeLines_eq_ok_iff _ _).mp hm
      exact ⟨objects, hall, (Except.ok.inj h).symm⟩
  · rintro ⟨objects, hall, rfl⟩
    rw [(mergeLines_eq_ok_iff _ _).mpr ⟨objects, hall, rfl⟩]
    rfl

theorem merge_eq_error_iff (text : String) (e : FlowError) :
    merge text = .error e ↔ ∃ before line after, content text = before ++ line :: after ∧
      (∀ l ∈ before, ∃ fields, Holds l fields) ∧ Fails line e := by
  rw [merge, ← counted_lines, ← mergeLines_eq_error_iff []]
  cases mergeLines [] (Text.lines text.toList) with
  | error e' => simp [Except.map]
  | ok fields => simp [Except.map]

theorem exists_objects_iff (lines : List (List Char)) :
    (∃ objects, List.Forall₂ Holds lines objects) ↔
      ∀ line ∈ lines, ∃ fields, Holds line fields := by
  induction lines with
  | nil => simp
  | cons line rest ih =>
    rw [List.forall_mem_cons, ← ih]
    constructor
    · rintro ⟨objects, hall⟩
      cases hall with
      | cons hfirst hall => exact ⟨⟨_, hfirst⟩, _, hall⟩
    · rintro ⟨⟨fields, hfirst⟩, objects, hall⟩
      exact ⟨fields :: objects, .cons hfirst hall⟩

theorem ordered_foldl (ho : Ordered merged) (objects : List (List (String × Json))) :
    Ordered (objects.foldl extendFields merged) := by
  induction objects generalizing merged with
  | nil => exact ho
  | cons first rest ih => exact ih (Json.ordered_extendFields ho first)

theorem foldl_extendFields {x : List (String × Json)} (hm : Ordered merged) (hx : Ordered x)
    (objects : List (List (String × Json))) :
    objects.foldl extendFields (extendFields merged x) =
      extendFields merged (objects.foldl extendFields x) := by
  induction objects generalizing x with
  | nil => rfl
  | cons first rest ih =>
    rw [List.foldl_cons, List.foldl_cons, Json.extendFields_extendFields hm hx]
    exact ih (Json.ordered_extendFields hx first)

/-- Lists of objects, one after the other, give the object of the second put over the first. -/
theorem overlays_foldl (as bs : List (List (String × Json))) :
    Overlays (as.foldl extendFields []) (bs.foldl extendFields [])
      ((as ++ bs).foldl extendFields []) := by
  have ha : Ordered (as.foldl extendFields []) := ordered_foldl .nil as
  have hb : Ordered (bs.foldl extendFields []) := ordered_foldl .nil bs
  have hjoin : (as ++ bs).foldl extendFields [] =
      extendFields (as.foldl extendFields []) (bs.foldl extendFields []) := by
    rw [List.foldl_append]
    exact foldl_extendFields ha .nil bs
  refine ⟨ordered_foldl .nil _, fun key => ?_⟩
  rw [hjoin, hb.lookup_extendFields]

/-- What is made of printed lines. Of two outputs with a newline between them the first that fails
gives the error, and otherwise the object of the second is put over that of the first. Blank lines
give the object without fields. An output is an object exactly if all lines that count are, and if
not, the error is that of the first line that is none. -/
theorem merge_join :
    (∀ a b A B, merge a = .ok A → merge b = .ok B → ∃ x y z, A = .obj x ∧ B = .obj y ∧
      merge (a ++ "\n" ++ b) = .ok (.obj z) ∧ Overlays x y z) ∧
    (∀ a b e, merge a = .error e → merge (a ++ "\n" ++ b) = .error e) ∧
    (∀ a b A e, merge a = .ok A → merge b = .error e → merge (a ++ "\n" ++ b) = .error e) ∧
    (∀ text : String, (∀ c ∈ text.toList, Text.isBlank c = true) → merge text = .ok (.obj [])) ∧
    (∀ text, (∃ j, merge text = .ok j) ↔ ∀ line ∈ content text, ∃ fields, Holds line fields) ∧
    ∀ text e, merge text = .error e ↔ ∃ before line after,
      content text = before ++ line :: after ∧ (∀ l ∈ before, ∃ fields, Holds l fields) ∧
        Fails line e := by
  refine ⟨fun a b A B ha hb => ?_, fun a b e ha => ?_, fun a b A e ha hb => ?_, fun text h => ?_,
    fun text => ⟨?_, fun h => ?_⟩, merge_eq_error_iff⟩
  · obtain ⟨as, has, rfl⟩ := (merge_eq_ok_iff a A).mp ha
    obtain ⟨bs, hbs, rfl⟩ := (merge_eq_ok_iff b B).mp hb
    refine ⟨_, _, (as ++ bs).foldl extendFields [], rfl, rfl, ?_, overlays_foldl as bs⟩
    refine (merge_eq_ok_iff _ _).mpr ⟨as ++ bs, ?_, rfl⟩
    rw [content_join]
    exact List.rel_append has hbs
  · obtain ⟨before, line, after, hsplit, hbefore, hline⟩ := (merge_eq_error_iff a e).mp ha
    refine (merge_eq_error_iff _ e).mpr ⟨before, line, after ++ content b, ?_, hbefore, hline⟩
    rw [content_join, hsplit, List.append_assoc, List.cons_append]
  · obtain ⟨as, has, rfl⟩ := (merge_eq_ok_iff a A).mp ha
    obtain ⟨before, line, after, hsplit, hbefore, hline⟩ := (merge_eq_error_iff b e).mp hb
    refine (merge_eq_error_iff _ e).mpr ⟨content a ++ before, line, after, ?_, ?_, hline⟩
    · rw [content_join, hsplit, List.append_assoc]
    · have hfirst := (exists_objects_iff _).mp ⟨as, has⟩
      exact List.forall_mem_append.mpr ⟨hfirst, hbefore⟩
  · refine (merge_eq_ok_iff text _).mpr ⟨[], ?_, rfl⟩
    rw [content_of_blank h]
    exact .nil
  · rintro ⟨j, hj⟩
    obtain ⟨objects, hall, -⟩ := (merge_eq_ok_iff text j).mp hj
    exact (exists_objects_iff _).mp ⟨objects, hall⟩
  · obtain ⟨objects, hall⟩ := (exists_objects_iff _).mpr h
    exact ⟨_, (merge_eq_ok_iff text _).mpr ⟨objects, hall, rfl⟩⟩

section Samples

def firstOutput : String := "\x7b\"from\": true, \"to\": false\x7d\r\n"

def secondOutput : String := "\n \x7b\"to\": null, \"of\": true\x7d "

end Samples

/-- An object over another of which it takes the place of one field, and in front of a line that is
no object. Of two lines that are not JSON the first gives the error, which is not that of the
second. -/
theorem merge_join_outputs : (∃ x y z, merge firstOutput = .ok (.obj x) ∧
      merge secondOutput = .ok (.obj y) ∧
      merge (firstOutput ++ "\n" ++ secondOutput) = .ok (.obj z) ∧ Overlays x y z ∧
      z.lookup "from" = some (.bool true) ∧ z.lookup "to" = some .null) ∧
    merge "null" = .error (.pdf "extractor printed a non-object value: null") ∧
    merge (firstOutput ++ "\n" ++ "null") =
      .error (.pdf "extractor printed a non-object value: null") ∧
    merge "]" = .error (.json "expected value at line 1 column 1") ∧
    merge "[" = .error (.json "EOF while parsing a list at line 1 column 1") ∧
    merge ("[" ++ "\n" ++ "]") = .error (.json "EOF while parsing a list at line 1 column 1") := by
  have hfirst : merge firstOutput = .ok (.obj [("from", .bool true), ("to", .bool false)]) := by
    cbv
  have hsecond : merge secondOutput = .ok (.obj [("of", .bool true), ("to", .null)]) := by cbv
  have hnull : merge "null" = .error (.pdf "extractor printed a non-object value: null") := by cbv
  have hclosed : merge "]" = .error (.json "expected value at line 1 column 1") := by cbv
  have hopen : merge "[" = .error (.json "EOF while parsing a list at line 1 column 1") := by cbv
  obtain ⟨_, _, z, ⟨rfl⟩, ⟨rfl⟩, hz, hover⟩ := merge_join.1 _ _ _ _ hfirst hsecond
  exact ⟨⟨_, _, z, hfirst, hsecond, hz, hover, hover.lookup "from", hover.lookup "to"⟩, hnull,
    merge_join.2.2.1 _ _ _ _ hfirst hnull, hclosed, hopen, merge_join.2.1 _ _ _ hopen⟩

end Merge

end Pdf
end PageFlow
