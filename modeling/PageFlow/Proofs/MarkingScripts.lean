import PageFlow.Chromium.Marking
import PageFlow.Proofs.Literals

/-! What a selector can do to the script that marks what it finds. A script is cut into tokens: the
characters of its code, and its string literals as wholes. For a selector of CSS or XPath the code
and its literals stand fixed, and the selector and the token are one literal each, which is read as
what was put in. -/
namespace PageFlow
namespace Chromium

open Json (Body literal)

/-- A character of code, or a string literal with its marks. -/
inductive ScriptToken where
  | code (c : Char)
  | literal (text : List Char)
deriving DecidableEq, Repr

/-- Where a reader of a script stands: in code, or within a literal of which it has read so much. -/
inductive ScriptPlace where
  | code
  | inside (mark : Char) (text : List Char)
  | escaped (mark : Char) (text : List Char)

/-- Cuts a script into tokens. None come of a script that ends within a literal, of one with a line
break or another control character in a literal, and of one with a slash or a grave accent in its
code, which may open a comment, a regular expression or a template. -/
def tokens : ScriptPlace → List Char → Option (List ScriptToken)
  | .code, [] => some []
  | .inside _ _, [] => none
  | .escaped _ _, [] => none
  | .code, c :: rest =>
    if c = '"' ∨ c = '\'' then tokens (.inside c [c]) rest
    else if c = '/' ∨ c = '\x60' then none
    else (tokens .code rest).map (.code c :: ·)
  | .inside mark text, c :: rest =>
    if c.toNat < 32 then none
    else if c = mark then (tokens .code rest).map (.literal (text ++ [c]) :: ·)
    else if c = '\\' then tokens (.escaped mark (text ++ [c])) rest
    else tokens (.inside mark (text ++ [c])) rest
  | .escaped mark text, c :: rest =>
    if c.toNat < 32 then none else tokens (.inside mark (text ++ [c])) rest

theorem tokens_append {place : ScriptPlace} {xs : List Char} {ts : List ScriptToken}
    (h : tokens place xs = some ts) (ys : List Char) :
    tokens place (xs ++ ys) = (tokens .code ys).map (ts ++ ·) := by
  induction xs generalizing place ts with
  | nil =>
    cases place with
    | code =>
      obtain rfl : [] = ts := Option.some.inj h
      simp
    | inside mark text => cases h
    | escaped mark text => cases h
  | cons c xs ih =>
    cases place with
    | code =>
      simp only [tokens, List.cons_append] at h ⊢
      by_cases hq : c = '"' ∨ c = '\''
      · rw [if_pos hq] at h ⊢
        exact ih h
      · by_cases hc : c = '/' ∨ c = '\x60'
        · simp [hq, hc] at h
        · rw [if_neg hq, if_neg hc] at h ⊢
          obtain ⟨more, hmore, rfl⟩ := Option.map_eq_some_iff.mp h
          simp [ih hmore, Function.comp_def]
    | inside mark text =>
      simp only [tokens, List.cons_append] at h ⊢
      by_cases hc : c.toNat < 32
      · simp [hc] at h
      · rw [if_neg hc] at h ⊢
        by_cases hmark : c = mark
        · rw [if_pos hmark] at h ⊢
          obtain ⟨more, hmore, rfl⟩ := Option.map_eq_some_iff.mp h
          simp [ih hmore, Function.comp_def]
        · rw [if_neg hmark] at h ⊢
          by_cases hb : c = '\\'
          · rw [if_pos hb] at h ⊢
            exact ih h
          · rw [if_neg hb] at h ⊢
            exact ih h
    | escaped mark text =>
      simp only [tokens, List.cons_append] at h ⊢
      by_cases hc : c.toNat < 32
      · simp [hc] at h
      · rw [if_neg hc] at h ⊢
        exact ih h

theorem tokens_body {cs : List Char} (h : Body cs) (text rest : List Char) :
    tokens (.inside '"' text) (cs ++ '"' :: rest) =
      (tokens .code rest).map (.literal (text ++ cs ++ ['"']) :: ·) := by
  induction h generalizing text with
  | nil => simp [tokens]
  | plain hq hb hc _ ih => simp [tokens, hq, hb, Nat.not_lt.mpr hc, ih]
  | escaped hc _ ih => simp [tokens, Nat.not_lt.mpr hc, ih]

def scriptTokens (script : String) : Option (List ScriptToken) := tokens .code script.toList

theorem scriptTokens_append {s t : String} {ss ts : List ScriptToken}
    (hs : scriptTokens s = some ss) (ht : scriptTokens t = some ts) :
    scriptTokens (s ++ t) = some (ss ++ ts) := by
  rw [scriptTokens] at ht
  rw [scriptTokens, String.toList_append, tokens_append hs, ht, Option.map_some]

theorem scriptTokens_literal (s : String) :
    scriptTokens (literal s) = some [.literal (literal s).toList] := by
  have h := tokens_body (Json.body_escape s.toList) ['"'] []
  simpa [scriptTokens, literal, Json.quote, tokens] using h

theorem eq_of_literal_eq {s t : String}
    (h : ScriptToken.literal (literal s).toList = .literal (literal t).toList) : s = t :=
  Json.literal_injective (String.toList_injective (ScriptToken.literal.inj h))

section FixedCode

-- A text of the script is taken apart by a rewrite and only then cut: to compute the characters of
-- a text from its bytes takes long.

theorem isSome_markingStart : (scriptTokens markingStart).isSome = true := by
  rw [scriptTokens, markingStart, String.toList_ofList]
  decide +kernel

theorem isSome_markingMiddle : (scriptTokens markingMiddle).isSome = true := by
  unfold scriptTokens markingMiddle markAttribute
  rw [String.toList_append, String.toList_append, String.toList_ofList, String.toList_ofList,
    String.toList_ofList]
  decide +kernel

theorem isSome_markingEnd : (scriptTokens markingEnd).isSome = true := by
  rw [scriptTokens, markingEnd, String.toList_ofList]
  decide +kernel

theorem isSome_findText {kind : SelectorKind} (h : kind ≠ .script) :
    (scriptTokens (findText kind).1).isSome = true ∧
      (scriptTokens (findText kind).2).isSome = true := by
  cases kind with
  | css =>
    simp only [scriptTokens, findText]
    rw [String.toList_ofList, String.toList_ofList]
    decide +kernel
  | xpath =>
    simp only [scriptTokens, findText]
    rw [String.toList_ofList, String.toList_ofList]
    decide +kernel
  | script => exact absurd rfl h

end FixedCode

theorem scriptTokens_splice {s t : String} {ss ts : List ScriptToken} (text : String)
    (hs : scriptTokens s = some ss) (ht : scriptTokens t = some ts) :
    scriptTokens (s ++ literal text ++ t) = some (ss ++ .literal (literal text).toList :: ts) := by
  have h := scriptTokens_append (scriptTokens_append hs (scriptTokens_literal text)) ht
  rw [List.append_assoc] at h
  exact h

/-- Around the literals of selector and token there are fixed parts for each kind. -/
theorem markingFunction_eq {kind : SelectorKind} (h : kind ≠ .script) (selector token : String) :
    markingFunction kind selector token =
      markingStart ++ (findText kind).1 ++ literal selector ++
        ((findText kind).2 ++ markingMiddle) ++ literal token ++ markingEnd := by
  have htext : selectorText kind selector = literal selector := by
    cases kind with
    | css => rfl
    | xpath => rfl
    | script => exact absurd rfl h
  simp only [markingFunction, htext, String.append_assoc]

/-- A selector of CSS or XPath and a token, whatever they are, are one literal each of the marking
function, and all else in it depends on the kind of the selector only. Such a literal has no control
character and no bare quote but those around it, and is read as what was put in. The code around the
two is cut into the same tokens for all of them, and no two pairs give the same function. -/
theorem selector_confined {kind : SelectorKind} (h : kind ≠ .script) :
    (∀ selector token, markingFunction kind selector token =
      markingStart ++ (findText kind).1 ++ literal selector ++
        ((findText kind).2 ++ markingMiddle) ++ literal token ++ markingEnd) ∧
    (∀ s, Json.IsLiteral s (literal s).toList) ∧
    (∀ c, Json.escapeChar c = [c] ↔ c ≠ '"' ∧ c ≠ '\\' ∧ 32 ≤ c.toNat) ∧
    (∃ before between after, scriptTokens (markingStart ++ (findText kind).1) = some before ∧
      scriptTokens ((findText kind).2 ++ markingMiddle) = some between ∧
      scriptTokens markingEnd = some after ∧
      ∀ selector token, scriptTokens (markingFunction kind selector token) =
        some (before ++ .literal (literal selector).toList ::
          (between ++ .literal (literal token).toList :: after))) ∧
    ∀ selector token selector' token',
      markingFunction kind selector token = markingFunction kind selector' token' →
        selector = selector' ∧ token = token' := by
  obtain ⟨hfirst, hsecond⟩ := isSome_findText h
  obtain ⟨start, hstart⟩ := Option.isSome_iff_exists.mp isSome_markingStart
  obtain ⟨first, hfirst⟩ := Option.isSome_iff_exists.mp hfirst
  obtain ⟨second, hsecond⟩ := Option.isSome_iff_exists.mp hsecond
  obtain ⟨middle, hmiddle⟩ := Option.isSome_iff_exists.mp isSome_markingMiddle
  obtain ⟨after, hafter⟩ := Option.isSome_iff_exists.mp isSome_markingEnd
  have hbefore := scriptTokens_append hstart hfirst
  have hbetween := scriptTokens_append hsecond hmiddle
  have hcut : ∀ selector token, scriptTokens (markingFunction kind selector token) =
      some (start ++ first ++ .literal (literal selector).toList ::
        (second ++ middle ++ .literal (literal token).toList :: after)) := by
    intro selector token
    rw [markingFunction_eq h, scriptTokens_splice token (scriptTokens_splice selector hbefore
      hbetween) hafter, List.append_assoc, List.cons_append]
  refine ⟨markingFunction_eq h, Json.isLiteral_literal, Json.escapeChar_eq_self_iff,
    ⟨_, _, _, hbefore, hbetween, hafter, hcut⟩, ?_⟩
  intro selector token selector' token' heq
  have htokens := hcut selector' token'
  rw [← heq, hcut selector token] at htokens
  obtain ⟨hselector, hrest⟩ := List.cons.inj (List.append_cancel_left (Option.some.inj htokens))
  obtain ⟨htoken, -⟩ := List.cons.inj (List.append_cancel_left hrest)
  exact ⟨eq_of_literal_eq hselector, eq_of_literal_eq htoken⟩

/-- A selector that tries to close its literal, to go on with code and to begin a new line. -/
theorem selector_confined_breakout : SelectorKind.css ≠ .script ∧
    ∃ before between after, scriptTokens (markingFunction .css "\\\");\n//" "t") =
      some (before ++ .literal ['"', '\\', '\\', '\\', '"', ')', ';', '\\', 'n', '/', '/', '"'] ::
        (between ++ .literal ['"', 't', '"'] :: after)) := by
  have hkind : SelectorKind.css ≠ .script := by decide
  obtain ⟨before, between, after, -, -, -, hcut⟩ := (selector_confined hkind).2.2.2.1
  have hselector : (literal "\\\");\n//").toList =
      ['"', '\\', '\\', '\\', '"', ')', ';', '\\', 'n', '/', '/', '"'] := by decide +kernel
  have htoken : (literal "t").toList = ['"', 't', '"'] := by decide +kernel
  have hsample := hcut "\\\");\n//" "t"
  rw [hselector, htoken] at hsample
  exact ⟨hkind, before, between, after, hsample⟩

end Chromium
end PageFlow
