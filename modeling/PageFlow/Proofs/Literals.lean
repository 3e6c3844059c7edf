import PageFlow.Json.Literal
import PageFlow.Proofs.Stamps

/-! String literals as one reads them back. What stands between the quotes of a written literal is
the body of a literal: plain characters, and backslashes that each take the character after them
along. So no quote in it ends it early, whatever follows, and reading gives the text that was
written. -/
namespace PageFlow

theorem Hex.plain_of_value? {c : Char} {v : Nat} (h : Hex.value? c = some v) :
    c ≠ '"' ∧ c ≠ '\\' ∧ 32 ≤ c.toNat := by
  have hplain : '"' ≠ c ∧ '\\' ≠ c := by
    constructor <;> rintro rfl <;> cases h
  refine ⟨hplain.1.symm, hplain.2.symm, ?_⟩
  refine Nat.le_of_not_lt fun hc => ?_
  have hlow (d : Char) (hd : 32 ≤ d.toNat) : ¬ d ≤ c := fun hle => by
    have : d.toNat ≤ c.toNat := hle
    omega
  simp [value?, hlow '0' (by decide), hlow 'a' (by decide), hlow 'A' (by decide)] at h

namespace Json

open Source (simpleEscape hex4 readChars readString)

inductive Body : List Char → Prop
  | nil : Body []
  | plain {c cs} : c ≠ '"' → c ≠ '\\' → 32 ≤ c.toNat → Body cs → Body (c :: cs)
  | escaped {c cs} : 32 ≤ c.toNat → Body cs → Body ('\\' :: c :: cs)

/-- How a character is spelled in a literal: by itself, by a letter or by its number. -/
inductive Stands (c : Char) : List Char → Prop
  | plain : c ≠ '"' → c ≠ '\\' → 32 ≤ c.toNat → Stands c [c]
  | letter {e} : simpleEscape e = some c → e ≠ 'u' → 32 ≤ e.toNat → Stands c ['\\', e]
  | number {x y} : c.toNat < 32 → Hex.value? x = some (c.toNat / 16) →
      Hex.value? y = some (c.toNat % 16) → Stands c ['\\', 'u', '0', '0', x, y]

theorem stands_escapeChar (c : Char) : Stands c (escapeChar c) := by
  unfold escapeChar
  by_cases h : c = '"' ∨ c = '\\' ∨ c = '\x08' ∨ c = '\t' ∨ c = '\n' ∨ c = '\x0c' ∨ c = '\r'
  · rcases h with rfl | rfl | rfl | rfl | rfl | rfl | rfl <;>
      exact .letter rfl (by decide) (by decide)
  · obtain ⟨hq, hb, h8, ht, hn, hf, hr⟩ := by simpa only [not_or] using h
    rw [if_neg hq, if_neg hb, if_neg h8, if_neg ht, if_neg hn, if_neg hf, if_neg hr]
    by_cases hc : c.toNat < 32
    · rw [if_pos hc]
      exact .number hc (Hex.value?_digit (by omega)) (Hex.value?_digit (by omega))
    · rw [if_neg hc]
      exact .plain hq hb (Nat.le_of_not_lt hc)

theorem Body.append {xs ys : List Char} (hx : Body xs) (hy : Body ys) : Body (xs ++ ys) := by
  induction hx with
  | nil => exact hy
  | plain hq hb hc _ ih => exact .plain hq hb hc ih
  | escaped hc _ ih => exact .escaped hc ih

theorem Stands.body {c : Char} {cs : List Char} (h : Stands c cs) : Body cs := by
  cases h with
  | plain hq hb hc => exact .plain hq hb hc .nil
  | letter _ _ he => exact .escaped he .nil
  | number _ hx hy =>
    obtain ⟨hxq, hxb, hx32⟩ := Hex.plain_of_value? hx
    obtain ⟨hyq, hyb, hy32⟩ := Hex.plain_of_value? hy
    have h0 : Body ['0', '0', _, _] := .plain (by decide) (by decide) (by decide)
      (.plain (by decide) (by decide) (by decide) (.plain hxq hxb hx32 (.plain hyq hyb hy32 .nil)))
    exact .escaped (by decide) h0

theorem body_escape (s : List Char) : Body (escape s) := by
  induction s with
  | nil => exact .nil
  | cons c s ih => exact (stands_escapeChar c).body.append ih

theorem escapeChar_eq_self_iff (c : Char) :
    escapeChar c = [c] ↔ c ≠ '"' ∧ c ≠ '\\' ∧ 32 ≤ c.toNat := by
  constructor
  · intro h
    have hs := stands_escapeChar c
    rw [h] at hs
    cases hs with
    | plain hq hb hc => exact ⟨hq, hb, hc⟩
  · rintro ⟨hq, hb, hc⟩
    have hother (d : Char) (hd : d.toNat < 32) : c ≠ d := by
      rintro rfl
      omega
    simp [escapeChar, hq, hb, hother '\x08' (by decide), hother '\t' (by decide),
      hother '\n' (by decide), hother '\x0c' (by decide), hother '\r' (by decide),
      Nat.not_lt.mpr hc]

theorem Body.printable {cs : List Char} (h : Body cs) : ∀ c ∈ cs, 32 ≤ c.toNat := by
  induction h with
  | nil => simp
  | plain _ _ hc _ ih => simpa using ⟨hc, ih⟩
  | escaped hc _ ih => simpa using ⟨hc, ih⟩

/-- Whether the character after these is escaped: a backslash that is not escaped stands before. -/
def escapes (cs : List Char) : Bool := cs.foldl (fun escaped c => !escaped && c == '\\') false

/-- A quote stands at this place, and no backslash escapes it. -/
def BareQuote (cs : List Char) (i : Nat) : Prop := cs[i]? = some '"' ∧ escapes (cs.take i) = false

section Quotes

variable {cs : List Char} {i : Nat}

theorem Body.escapes_eq (h : Body cs) : escapes cs = false := by
  induction h with
  | nil => rfl
  | plain _ hb _ _ ih => simpa [escapes, beq_false_of_ne hb] using ih
  | escaped _ _ ih => simpa [escapes] using ih

theorem Body.not_bareQuote (h : Body cs) : ¬ BareQuote cs i := by
  rintro ⟨hq, he⟩
  induction h generalizing i with
  | nil => simp at hq
  | plain hc hb _ _ ih =>
    cases i with
    | zero => simp_all
    | succ i => exact ih (by simpa using hq) (by simpa [escapes, beq_false_of_ne hb] using he)
  | escaped _ _ ih =>
    match i with
    | 0 => simp at hq
    | 1 => simp [escapes] at he
    | i + 2 => exact ih (by simpa using hq) (by simpa [escapes] using he)

/-- The only quotes of a literal that are not escaped are those around it. -/
theorem bareQuote_quote_iff (s : List Char) :
    BareQuote (quote s) i ↔ i = 0 ∨ i + 1 = (quote s).length := by
  have hbody := body_escape s
  have hlength : (quote s).length = (escape s).length + 2 := by simp [quote]
  cases i with
  | zero => simp [BareQuote, quote, escapes]
  | succ i =>
    have htail : BareQuote (quote s) (i + 1) ↔ BareQuote (escape s ++ ['"']) i := by
      simp [BareQuote, quote, escapes]
    rw [htail]
    by_cases hi : i < (escape s).length
    · have hinside : BareQuote (escape s ++ ['"']) i ↔ BareQuote (escape s) i := by
        simp only [BareQuote, List.getElem?_append_left hi,
          List.take_append_of_le_length (Nat.le_of_lt hi)]
      rw [hinside]
      exact iff_of_false hbody.not_bareQuote (by omega)
    · by_cases he : i = (escape s).length
      · subst he
        simp [BareQuote, hbody.escapes_eq, hlength]
      · have hnone : (escape s ++ ['"'])[i]? = none := by
          simp
          omega
        exact iff_of_false (fun h => by simp [h.1] at hnone) (by omega)

end Quotes

section Reading

theorem Stands.readChars {c : Char} {cs : List Char} (h : Stands c cs) (fuel : Nat)
    (rest : List Char) : readChars (fuel + 1) (cs ++ rest) =
      (readChars fuel rest).map fun (s, r) => (some c :: s, r) := by
  cases h with
  | plain hq hb hc => simp [Source.readChars, hq, hb, Nat.not_lt.mpr hc]
  | letter he hu _ => simp [Source.readChars, he]
  | @number x y hc hx hy =>
    have hzero : Hex.value? '0' = some 0 := rfl
    have hvalue : c.toNat / 16 * 16 + c.toNat % 16 = c.toNat := Nat.div_add_mod' _ _
    have hhex : hex4 ('0' :: '0' :: x :: y :: rest) = some (c.toNat, rest) := by
      simp [hex4, hzero, hx, hy, hvalue]
    have hhigh : ¬ (0xD800 ≤ c.toNat ∧ c.toNat < 0xDC00) := by omega
    have hlow : ¬ (0xDC00 ≤ c.toNat ∧ c.toNat < 0xE000) := by omega
    simp [Source.readChars, hhex, hhigh, hlow]

theorem readChars_escape (s rest : List Char) {fuel : Nat} (hfuel : s.length < fuel) :
    readChars fuel (escape s ++ '"' :: rest) = some (s.map some, rest) := by
  induction s generalizing fuel with
  | nil =>
    obtain ⟨fuel, rfl⟩ := Nat.exists_eq_succ_of_ne_zero (Nat.ne_of_gt hfuel)
    simp [escape, Source.readChars]
  | cons c s ih =>
    obtain ⟨fuel, rfl⟩ := Nat.exists_eq_succ_of_ne_zero (Nat.ne_zero_of_lt hfuel)
    have hrest := ih (Nat.lt_of_succ_lt_succ hfuel)
    rw [escape, List.append_assoc, (stands_escapeChar c).readChars, hrest]
    rfl

theorem Stands.length_pos {c : Char} {cs : List Char} (h : Stands c cs) : 1 ≤ cs.length := by
  cases h <;> simp

theorem length_le_escape (s : List Char) : s.length ≤ (escape s).length := by
  induction s with
  | nil => simp
  | cons c s ih =>
    have hc := (stands_escapeChar c).length_pos
    simp only [escape, List.length_append, List.length_cons]
    omega

theorem mapM_id_map_some (s : List Char) : (s.map some).mapM id = some s := by
  induction s with
  | nil => rfl
  | cons c s ih => simp [ih]

/-- After the opening quote the text is read, up to the quote that closes the literal. -/
theorem readString_escape (s : String) (rest : List Char) :
    readString (escape s.toList ++ '"' :: rest) = some (some s, rest) := by
  have hlength : s.toList.length < (escape s.toList ++ '"' :: rest).length + 1 := by
    have := length_le_escape s.toList
    simp only [List.length_append, List.length_cons]
    omega
  simp only [readString, readChars_escape s.toList rest hlength, Option.map_some,
    mapM_id_map_some, String.ofList_toList]

theorem parse?_literal (s : String) : parse? (literal s) = some (.str s) := by
  have hread := readString_escape s []
  have hroot : Document.read (literal s) = ⟨.string (some s), true⟩ := by
    simp [Document.read, literal, quote, Source.readValue, skipBlanks, hread]
  rw [parse?, hroot]
  rfl

theorem literal_injective {s t : String} (h : literal s = literal t) : s = t := by
  have hparsed := parse?_literal s
  rw [h, parse?_literal] at hparsed
  simpa using hparsed.symm

end Reading

/-- The text is one literal in double quotes that stands for `s`: it has no control character and no
bare quote but the two around it, and it is read as `s`, alone and whatever follows it. -/
structure IsLiteral (s : String) (text : List Char) : Prop where
  printable : ∀ c ∈ text, 32 ≤ c.toNat
  length : 2 ≤ text.length
  bareQuote_iff (i) : BareQuote text i ↔ i = 0 ∨ i + 1 = text.length
  parsed : parse? (String.ofList text) = some (.str s)
  read_tail (rest) : readString (text.tail ++ rest) = some (some s, rest)

theorem isLiteral_literal (s : String) : IsLiteral s (literal s).toList := by
  have htext : (literal s).toList = quote s.toList := String.toList_ofList
  rw [htext]
  constructor
  case printable =>
    intro c hc
    have hcases : c = '"' ∨ c ∈ escape s.toList := by simpa [quote, or_comm] using hc
    rcases hcases with rfl | hc
    · decide
    · exact (body_escape s.toList).printable c hc
  case length => simp [quote]
  case bareQuote_iff => exact fun i => bareQuote_quote_iff s.toList
  case parsed => exact parse?_literal s
  case read_tail => exact fun rest => by simpa [quote] using readString_escape s rest

end Json
end PageFlow
