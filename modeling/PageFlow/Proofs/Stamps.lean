import PageFlow.Moment
import PageFlow.Uuid

/-! Identifiers and moments as they are written are read as what they were. Each part of a text is
taken up by the reader of that part and nothing of what follows it. -/
namespace PageFlow

theorem Hex.value?_digit {n : Nat} (h : n < 16) : Hex.value? (Hex.digit n) = some n := by
  revert n
  decide

namespace Uuid

theorem length_hexDigits (n v : Nat) : (hexDigits n v).length = n := by
  induction n generalizing v with
  | zero => rfl
  | succ n ih => rw [hexDigits, List.length_append, ih]; rfl

theorem mapM_hexDigits (n v : Nat) : ∃ ds, (hexDigits n v).mapM Hex.value? = some ds ∧
    ds.foldl (fun n d => n * 16 + d) 0 = v % 16 ^ n := by
  induction n generalizing v with
  | zero => exact ⟨[], rfl, by rw [Nat.pow_zero, Nat.mod_one]; rfl⟩
  | succ n ih =>
    obtain ⟨ds, hd, hv⟩ := ih (v / 16)
    have hl : Hex.value? (Hex.digit (v % 16)) = some (v % 16) :=
      Hex.value?_digit (Nat.mod_lt v (by decide))
    refine ⟨ds ++ [v % 16], ?_, ?_⟩
    · rw [hexDigits, List.mapM_append, hd, List.mapM_cons, hl]; rfl
    · rw [List.foldl_append, hv, Nat.pow_succ', Nat.mod_mul]
      exact (Nat.add_comm _ _).trans (congrArg _ (Nat.mul_comm _ _))

theorem ofDigits?_digits (u : Uuid) : ofDigits? u.digits = some u := by
  obtain ⟨ds, hd, hv⟩ := mapM_hexDigits 32 u.value
  have hn : ofNat (u.value % 16 ^ 32) = u := by
    obtain ⟨value, h⟩ := u
    simp [ofNat, Nat.mod_eq_of_lt h]
  rw [digits, ofDigits?, if_pos (length_hexDigits 32 u.value), hd, Option.map_some, hv, hn]

theorem ungrouped?_grouped {a b c d e : List Char} (ha : a.length = 8) (hb : b.length = 4)
    (hc : c.length = 4) (hd : d.length = 4) (he : e.length = 12) :
    ungrouped? (a ++ '-' :: b ++ '-' :: c ++ '-' :: d ++ '-' :: e) =
      some (a ++ b ++ c ++ d ++ e) := by
  have hn (n : Nat) (l : List Char) (h : l.length ≤ n) : l.drop n = [] := List.drop_eq_nil_of_le h
  rw [ungrouped?, if_pos (by simp [ha, hb, hc, hd, he])]
  simp (disch := omega) [List.drop_append, ha, hb, hc, hd, hn]

theorem ofText?_text (u : Uuid) : ofText? u.text = some u := by
  have hl : u.digits.length = 32 := length_hexDigits 32 u.value
  have hg := @ungrouped?_grouped (u.digits.take 8) ((u.digits.drop 8).take 4)
    ((u.digits.drop 12).take 4) ((u.digits.drop 16).take 4) (u.digits.drop 20)
    (by simp [hl]) (by simp [hl]) (by simp [hl]) (by simp [hl]) (by simp [hl])
  have hj : u.digits.take 8 ++ (u.digits.drop 8).take 4 ++ (u.digits.drop 12).take 4 ++
      (u.digits.drop 16).take 4 ++ u.digits.drop 20 = u.digits := by
    simp only [← List.take_add]
    exact List.take_append_drop 20 u.digits
  rw [hj] at hg
  simp only [ofText?, text, String.toList_ofList]
  rw [if_neg (by simp [hl]), if_pos (by simp [hl]), hg, Option.bind_some, ofDigits?_digits]

theorem read_text (u : Uuid) : read (.value (.str u.text)) = .ok u := by
  simp only [read, Json.Doc.shape, ofText?_text]

end Uuid
namespace Moment

/-- A moment that there is on the calendar and on the clock. -/
structure Valid (m : Moment) : Prop where
  year : firstYear ≤ m.year ∧ m.year ≤ lastYear
  month : 1 ≤ m.month ∧ m.month ≤ 12
  day : 1 ≤ m.day ∧ m.day ≤ monthLength m.year m.month
  hour : m.hour < 24
  minute : m.minute < 60
  second : m.second ≤ 60
  nanos : m.nanos < 10 ^ 9

theorem monthLength_le (year : Int) (month : Nat) : monthLength year month ≤ 31 := by
  unfold monthLength
  split
  · split <;> decide
  · split <;> decide

theorem ofNat_eq_digitChar {k : Nat} (h : k < 10) : Char.ofNat (48 + k) = k.digitChar := by
  revert k
  decide

theorem length_padded (w n : Nat) : (padded w n).length = w := by
  induction w generalizing n with
  | zero => rfl
  | succ w ih => rw [padded, List.length_append, ih]; rfl

theorem isDigit_of_mem_padded {w n : Nat} {c : Char} (h : c ∈ padded w n) : c.isDigit = true := by
  induction w generalizing n with
  | zero => cases h
  | succ w ih =>
    rw [padded, ofNat_eq_digitChar (Nat.mod_lt n (by decide))] at h
    rcases List.mem_append.mp h with h | h
    · exact ih h
    · obtain rfl := List.mem_singleton.mp h
      rw [Nat.isDigit_digitChar, decide_eq_true_eq]
      exact Nat.mod_lt n (by decide)

theorem ofDigitChars_padded (w n : Nat) : Nat.ofDigitChars 10 (padded w n) 0 = n % 10 ^ w := by
  induction w generalizing n with
  | zero => rw [Nat.pow_zero, Nat.mod_one]; rfl
  | succ w ih =>
    have hl : n % 10 < 10 := Nat.mod_lt n (by decide)
    rw [padded, ofNat_eq_digitChar hl, Nat.ofDigitChars_append, ih,
      Nat.ofDigitChars_cons_digitChar_of_lt_ten hl, Nat.ofDigitChars_nil, Nat.pow_succ',
      Nat.mod_mul, Nat.add_comm]

theorem digits?_append {ds rest : List Char} {most : Nat} (hd : ∀ c ∈ ds, c.isDigit = true)
    (hn : ds ≠ []) (hl : ds.length ≤ most)
    (he : ds.length = most ∨ ∀ c ∈ rest.head?, c.isDigit = false) :
    digits? most (ds ++ rest) = some (Nat.ofDigitChars 10 ds 0, rest) := by
  have hr : (rest.take (most - ds.length)).takeWhile Char.isDigit = [] := by
    rcases he with rfl | he
    · rw [Nat.sub_self]; rfl
    · cases rest with
      | nil => simp
      | cons c rest =>
        cases most - ds.length with
        | zero => rfl
        | succ k => simp [he c rfl]
  have ht : ((ds ++ rest).take most).takeWhile Char.isDigit = ds := by
    rw [List.take_append, List.take_of_length_le hl, List.takeWhile_append_of_pos hd, hr,
      List.append_nil]
  have hf : ds.foldl (fun n c => n * 10 + (c.toNat - 48)) 0 = Nat.ofDigitChars 10 ds 0 := by
    simp only [Nat.ofDigitChars, Nat.mul_comm 10]; rfl
  unfold digits?
  rw [ht, if_neg (by simpa using hn), hf, List.drop_left]

theorem padded_ne_nil {w : Nat} (hw : 0 < w) (n : Nat) : padded w n ≠ [] := by
  intro h
  rw [← length_padded w n, h] at hw
  cases hw

theorem digits?_padded {w most n : Nat} {rest : List Char} (hw : 0 < w) (hl : w ≤ most)
    (he : w = most ∨ ∀ c ∈ rest.head?, c.isDigit = false) (hn : n < 10 ^ w) :
    digits? most (padded w n ++ rest) = some (n, rest) := by
  rw [digits?_append (fun c => isDigit_of_mem_padded) (padded_ne_nil hw n)
    (by rwa [length_padded]) (by rwa [length_padded]), ofDigitChars_padded, Nat.mod_eq_of_lt hn]

theorem isBlank_of_isDigit {c : Char} (h : c.isDigit = true) : Text.isBlank c = false := by
  have hn : 48 ≤ c.toNat ∧ c.toNat ≤ 57 := by
    simpa [Char.isDigit, UInt32.le_iff_toNat_le] using h
  simp only [Text.isBlank, Bool.or_eq_false_iff, Bool.and_eq_false_iff, decide_eq_false_iff_not]
  omega

theorem skipBlank_of_not {c : Char} (h : Text.isBlank c = false) (rest : List Char) :
    skipBlank (c :: rest) = c :: rest := List.dropWhile_cons_of_neg (by simp [h])

theorem skipBlank_digits {ds : List Char} (hd : ∀ c ∈ ds, c.isDigit = true) (hn : ds ≠ [])
    (rest : List Char) : skipBlank (ds ++ rest) = ds ++ rest := by
  cases ds with
  | nil => exact absurd rfl hn
  | cons c ds => exact skipBlank_of_not (isBlank_of_isDigit (hd c List.mem_cons_self)) _

theorem number?_padded {n : Nat} (hn : n < 100) (rest : List Char) :
    number? (padded 2 n ++ rest) = some (n, rest) := by
  rw [number?, skipBlank_digits (fun c => isDigit_of_mem_padded) (padded_ne_nil (by decide) n),
    digits?_padded (by decide) (by decide) (Or.inl rfl) hn]

theorem expect_self {c : Char} (h : Text.isBlank c = false) (rest : List Char) :
    expect c (c :: rest) = some rest := by
  rw [expect, skipBlank_of_not h]
  exact if_pos rfl

theorem fraction?_padded {w n : Nat} (hw : 0 < w) (hl : w ≤ 9) (hn : n < 10 ^ w) :
    fraction? ('.' :: (padded w n ++ ['Z'])) = some (n * 10 ^ (9 - w), ['Z']) := by
  have hd : digits? 9 (padded w n ++ ['Z']) = some (n, ['Z']) :=
    digits?_padded hw hl (Or.inr fun c hc => by obtain rfl := Option.some.inj hc; rfl) hn
  simp only [fraction?, hd, Option.bind_eq_bind, Option.bind_some, List.length_append,
    length_padded, Nat.add_sub_cancel]
  rfl

theorem fraction?_places {n : Nat} (hn : n < 10 ^ 9) :
    fraction? (places n ++ ['Z']) = some (n, ['Z']) := by
  unfold places
  split
  · rename_i h; rw [h]; rfl
  · split
    · rename_i h
      rw [List.cons_append, fraction?_padded (by decide) (by decide) (by omega)]
      congr 2
      omega
    · split
      · rename_i h
        rw [List.cons_append, fraction?_padded (by decide) (by decide) (by omega)]
        congr 2
        omega
      · rw [List.cons_append, fraction?_padded (by decide) (by decide) hn, Nat.sub_self,
          Nat.pow_zero, Nat.mul_one]

theorem year?_of_digit {c : Char} (h : c.isDigit = true) (rest : List Char) :
    year? (c :: rest) = (digits? 4 (c :: rest)).map fun d => ((d.1 : Int), d.2) := by
  rw [year?, skipBlank_of_not (isBlank_of_isDigit h)]
  split
  · rename_i hc
    obtain ⟨rfl, -⟩ := List.cons.inj hc
    cases h
  · rename_i hc
    obtain ⟨rfl, -⟩ := List.cons.inj hc
    cases h
  · rfl

def signed (n : Nat) : List Char :=
  List.replicate (4 - (Nat.toDigits 10 n).length) '0' ++ Nat.toDigits 10 n

theorem digits?_signed (n : Nat) {rest : List Char} (hr : ∀ c ∈ rest.head?, c.isDigit = false) :
    digits? (signed n ++ rest).length (signed n ++ rest) = some (n, rest) := by
  have hd : ∀ c ∈ signed n, c.isDigit = true := by
    intro c hc
    rcases List.mem_append.mp hc with hc | hc
    · rw [List.eq_of_mem_replicate hc]; rfl
    · exact Nat.isDigit_of_mem_toDigits (by decide) (by decide) hc
  have hn : signed n ≠ [] := by
    have hl : 0 < (Nat.toDigits 10 n).length := Nat.length_toDigits_pos
    intro h
    rw [(List.append_eq_nil_iff.mp h).2] at hl
    cases hl
  have hv : Nat.ofDigitChars 10 (signed n) 0 = n := by
    rw [signed, Nat.ofDigitChars_append, Nat.ofDigitChars_replicate_zero, Nat.mul_zero,
      Nat.ofDigitChars_ten_toDigits]
  rw [digits?_append hd hn (by simp) (Or.inr hr), hv]

theorem year?_yearText (year : Int) {rest : List Char}
    (hr : ∀ c ∈ rest.head?, c.isDigit = false) :
    year? (yearText year ++ rest) = some (year, rest) := by
  unfold yearText
  split
  · rename_i h
    have hd : digits? 4 (padded 4 year.toNat ++ rest) = some (year.toNat, rest) :=
      digits?_padded (by decide) (by decide) (Or.inl rfl) (by omega)
    cases hp : padded 4 year.toNat with
    | nil => exact absurd hp (padded_ne_nil (by decide) _)
    | cons c ds =>
      have hc : c.isDigit = true := isDigit_of_mem_padded (hp ▸ List.mem_cons_self)
      rw [hp] at hd
      rw [List.cons_append, year?_of_digit hc, ← List.cons_append, hd, Option.map_some,
        Int.toNat_of_nonneg h.1]
  · have hd := digits?_signed year.natAbs hr
    by_cases h : year < 0
    · have hs : year? ('-' :: (signed year.natAbs ++ rest)) =
          (digits? _ (signed year.natAbs ++ rest)).map fun d => (-(d.1 : Int), d.2) := rfl
      rw [if_pos h]
      refine hs.trans ?_
      rw [hd, Option.map_some]
      congr 2
      omega
    · have hs : year? ('+' :: (signed year.natAbs ++ rest)) =
          (digits? _ (signed year.natAbs ++ rest)).map fun d => ((d.1 : Int), d.2) := rfl
      rw [if_neg h]
      refine hs.trans ?_
      rw [hd, Option.map_some]
      congr 2
      omega

theorem ofText?_text {m : Moment} (h : m.Valid) : ofText? m.text = some m := by
  have hd : m.day < 100 := by
    have hl := monthLength_le m.year m.month
    have hm := h.day.2
    omega
  have hm : m.month < 100 := Nat.lt_of_le_of_lt h.month.2 (by decide)
  have hh : m.hour < 100 := Nat.lt_trans h.hour (by decide)
  have hi : m.minute < 100 := Nat.lt_trans h.minute (by decide)
  have hs : m.second < 100 := Nat.lt_of_le_of_lt h.second (by decide)
  have hb : Text.isBlank '-' = false ∧ Text.isBlank ':' = false := by decide
  have hy (rest : List Char) :
      year? (yearText m.year ++ '-' :: rest) = some (m.year, '-' :: rest) :=
    year?_yearText m.year fun c hc => by obtain rfl := Option.some.inj hc; rfl
  have ht : m.text.toList = yearText m.year ++ '-' :: (padded 2 m.month ++ '-' :: (padded 2 m.day ++
      'T' :: (padded 2 m.hour ++ ':' :: (padded 2 m.minute ++ ':' :: (padded 2 m.second ++
      (places m.nanos ++ ['Z'])))))) := by
    simp only [text, String.toList_ofList, upToSeconds, List.append_assoc, List.cons_append]
  -- one line a reader, in the order in which they take the text apart
  rw [ofText?, ht]
  refine Option.bind_eq_some_iff.mpr ⟨_, hy _, ?_⟩
  refine Option.bind_eq_some_iff.mpr ⟨_, expect_self hb.1 _, ?_⟩
  refine Option.bind_eq_some_iff.mpr ⟨_, number?_padded hm _, ?_⟩
  refine Option.bind_eq_some_iff.mpr ⟨_, expect_self hb.1 _, ?_⟩
  refine Option.bind_eq_some_iff.mpr ⟨_, number?_padded hd _, ?_⟩
  refine (if_pos (Or.inr (Or.inl rfl))).trans ?_
  refine Option.bind_eq_some_iff.mpr ⟨_, rfl, ?_⟩
  refine Option.bind_eq_some_iff.mpr ⟨_, number?_padded hh _, ?_⟩
  refine Option.bind_eq_some_iff.mpr ⟨_, expect_self hb.2 _, ?_⟩
  refine Option.bind_eq_some_iff.mpr ⟨_, number?_padded hi _, ?_⟩
  refine Option.bind_eq_some_iff.mpr ⟨_, expect_self hb.2 _, ?_⟩
  refine Option.bind_eq_some_iff.mpr ⟨_, number?_padded hs _, ?_⟩
  refine Option.bind_eq_some_iff.mpr ⟨_, fraction?_places h.nanos, ?_⟩
  refine Option.bind_eq_some_iff.mpr ⟨(0, []), rfl, ?_⟩
  refine (if_pos ⟨rfl, h.year.1, h.year.2, h.month.1, h.month.2, h.day.1, h.day.2, h.hour, h.minute,
    h.second, by decide⟩).trans ?_
  exact if_pos rfl

theorem read_text {m : Moment} (h : m.Valid) : read (.value (.str m.text)) = .ok m := by
  simp only [read, Json.Doc.shape, ofText?_text h]

end Moment
end PageFlow
