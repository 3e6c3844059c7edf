import PageFlow.Proofs.RemoteCalls

/-! Lookups by marks. A script marks what it finds and counts it; the marked elements are looked up
and then the marks removed. If that second lookup fails, the whole lookup ends at once, and nobody
removes the marks. -/
namespace PageFlow
namespace Chromium

open DevTools
open Prog (Exec)

/-- How the document of a page is searched: there may be no document to search. -/
inductive Finds (p : Page) (selector : String) : Log → Except Fault (List String) → Prop
  | noDocument {answer f} : told answer = .error f →
      Finds p selector (waited (.page p) .document answer) (.error f)
  | searched {answer} : Finds p selector
      (⟨.send (.page p) .document, some (.ok ())⟩ :: waited (.page p) (.find none selector) answer)
      (told answer)

/-- How the marked elements of a page are collected: they are not found, or they are and the marks
are removed. -/
inductive Collects (p : Page) (token : String) : Log → Engine.Answer (List Element) → Prop
  | lost {log f} : Finds p (markSelector token) log (.error f) →
      Collects p token log (.error (.element f.text))
  | cleared {log nodes answer more all} : Finds p (markSelector token) log (.ok nodes) →
      Exec (handles p nodes) more all →
      Collects p token (log ++ (waited (.page p) (.evaluate (cleanupScript token)) answer ++ more))
        (.ok all)

section Collecting

variable {p : Page} {selector token : String} {log : Log}

theorem exec_find_iff {o : Except Fault (List String)} :
    Exec (find p selector) log o ↔ Finds p selector log o := by
  rw [find, exec_call_cases]
  constructor
  · rintro (⟨answer, f, rest, ht, rfl, hrest⟩ | ⟨⟨⟩, rest, rfl, hrest⟩)
    · obtain ⟨rfl, rfl⟩ := (Prog.exec_done_iff _ _).mp hrest
      rw [List.append_nil]
      exact .noDocument ht
    · obtain ⟨answer, rfl, rfl⟩ := exec_call_iff.mp hrest
      exact .searched
  · intro h
    cases h with
    | @noDocument answer f ht =>
      exact Or.inl ⟨answer, f, [], ht, (List.append_nil _).symm, .done _⟩
    | @searched answer => exact Or.inr ⟨(), _, rfl, exec_call_iff.mpr ⟨answer, rfl, rfl⟩⟩

theorem Finds.unique {o o' : Except Fault (List String)} {more : Log} (h : Finds p selector log o)
    (h' : Finds p selector (log ++ more) o') : o = o' :=
  ((exec_find_iff.mpr h).unique (exec_find_iff.mpr h') (List.append_nil (log ++ more)).symm).2.1

theorem exec_handles_ok_iff {nodes : List String} {r : Engine.Answer (List Element)} :
    Exec (handles p nodes >>= fun all => pure (.ok all)) log r ↔
      ∃ all, Exec (handles p nodes) log all ∧ r = .ok all := by
  simp only [Prog.exec_bind_iff, Prog.pure_eq, Prog.exec_done_iff]
  constructor
  · rintro ⟨first, all, _, rfl, hall, rfl, rfl⟩
    exact ⟨all, by rwa [List.append_nil], rfl⟩
  · rintro ⟨all, hall, rfl⟩
    exact ⟨log, all, [], (List.append_nil _).symm, hall, rfl, rfl⟩

theorem exec_collectMarked_iff {r : Engine.Answer (List Element)} :
    Exec (collectMarked p token) log r ↔ Collects p token log r := by
  rw [collectMarked, Prog.exec_bind_iff]
  simp only [exec_find_iff]
  constructor
  · rintro ⟨first, o, rest, rfl, hfinds, hrest⟩
    cases o with
    | error f =>
      obtain ⟨rfl, rfl⟩ := (Prog.exec_done_iff _ _).mp hrest
      rw [List.append_nil]
      exact .lost hfinds
    | ok nodes =>
      obtain ⟨answer, more, rfl, hmore⟩ := exec_call_bind_iff.mp hrest
      obtain ⟨all, hall, rfl⟩ := exec_handles_ok_iff.mp hmore
      exact .cleared hfinds hall
  · intro h
    cases h with
    | @lost log f hfinds => exact ⟨log, .error f, [], (List.append_nil _).symm, hfinds, .done _⟩
    | @cleared log nodes answer more all hfinds hall =>
      exact ⟨log, .ok nodes, _, rfl, hfinds,
        exec_call_bind_iff.mpr ⟨answer, more, rfl, exec_handles_ok_iff.mpr ⟨all, hall, rfl⟩⟩⟩

end Collecting

def pageOf : Root → Page
  | .page p => p
  | .element e => e.page

def marks : Root → SelectorKind → Bool
  | .page _, kind => kind = .script
  | .element _, kind => kind ≠ .css

def tokenOf (n : Nat) : String :=
  let digits := Nat.toDigits 16 n
  String.ofList (List.replicate (32 - digits.length) '0' ++ digits)

def marking (root : Root) (kind : SelectorKind) (selector token : String) :
    Option (Except Fault Returned) → Log :=
  match root with
  | .page p => waited (.page p) (.evaluate (markScript kind selector token))
  | .element e => waited (.page e.page) (.callOn e.node (markingFunction kind selector token))

def counted : Root → Except Fault Returned → Engine.Answer Json
  | .page _ => evaluated
  | .element _ => calledOn

/-- The calls of a lookup by marks up to the answer to the one that marks. -/
def marked (root : Root) (kind : SelectorKind) (selector : String) (n : Nat)
    (answer : Option (Except Fault Returned)) : Log :=
  ⟨.fresh, n⟩ :: marking root kind selector (tokenOf n) answer

/-- How a lookup by marks goes on: there is an error, or nothing is marked, or the marked elements
are collected. -/
inductive AfterMarking (p : Page) (token : String) :
    Engine.Answer Json → Log → Engine.Answer (List Element) → Prop
  | failed (e) : AfterMarking p token (.error e) [] (.error e)
  | nothing {count} : count.nat?.getD 0 = 0 → AfterMarking p token (.ok count) [] (.ok [])
  | some {count log r} : 0 < count.nat?.getD 0 → Collects p token log r →
      AfterMarking p token (.ok count) log r

/-- A marking call reports that it has marked an element; only whole numbers count. -/
def Reports (root : Root) (answer : Option (Except Fault Returned)) : Prop :=
  ∃ count, counted root (told answer) = .ok count ∧ 0 < count.nat?.getD 0

/-- The script that removes the marks of a token is sent. -/
def Cleared (p : Page) (token : String) (log : Log) : Prop :=
  ∃ x ∈ log, x.op = .send (.page p) (.evaluate (cleanupScript token))

section Marking

variable {root : Root} {kind : SelectorKind} {selector token : String} {log rest : Log} {p : Page}
  {r : Engine.Answer (List Element)} {n : Nat} {answer : Option (Except Fault Returned)}

theorem exec_afterMarking_iff {count : Engine.Answer Json} :
    Exec (afterMarking p token count) log r ↔ AfterMarking p token count log r := by
  constructor
  · intro h
    cases count with
    | error e =>
      obtain ⟨rfl, rfl⟩ := (Prog.exec_done_iff _ _).mp h
      exact .failed e
    | ok count =>
      rw [afterMarking] at h
      split at h
      case isTrue hzero =>
        obtain ⟨rfl, rfl⟩ := (Prog.exec_done_iff _ _).mp h
        exact .nothing hzero
      case isFalse hcount => exact .some (Nat.pos_of_ne_zero hcount) (exec_collectMarked_iff.mp h)
  · intro h
    cases h with
    | failed => exact .done _
    | nothing hzero =>
      rw [afterMarking, if_pos hzero]
      exact .done _
    | some hcount hcollects =>
      rw [afterMarking, if_neg (Nat.ne_of_gt hcount)]
      exact exec_collectMarked_iff.mpr hcollects

theorem exec_freshToken_bind_iff {f : String → Remote α} {a : α} :
    Exec (freshToken >>= f) log a ↔
      ∃ n rest, log = ⟨.fresh, (n : Nat)⟩ :: rest ∧ Exec (f (tokenOf n)) rest a :=
  Prog.exec_ask_iff _ _ _

/-- On a page as under an element a lookup by marks goes the same way, but for the call that
marks. -/
theorem exec_query_iff (hm : marks root kind = true) : Exec (query root kind selector) log r ↔
    ∃ n answer rest, log = marked root kind selector n answer ++ rest ∧
      AfterMarking (pageOf root) (tokenOf n) (counted root (told answer)) rest r := by
  simp only [← exec_afterMarking_iff]
  have hends : Exec (query root kind selector) log r ↔ ∃ n rest, log = ⟨.fresh, (n : Nat)⟩ :: rest ∧
      ∃ answer more, rest = marking root kind selector (tokenOf n) answer ++ more ∧
        Exec (afterMarking (pageOf root) (tokenOf n) (counted root (told answer))) more r := by
    cases root with
    | page p =>
      obtain rfl : kind = .script := by simpa [marks] using hm
      exact exec_freshToken_bind_iff.trans <| exists_congr fun n => exists_congr fun rest =>
        and_congr_right fun _ => exec_call_map_bind_iff
    | element e =>
      cases kind with
      | css => cases hm
      | _ =>
        exact exec_freshToken_bind_iff.trans <| exists_congr fun n => exists_congr fun rest =>
          and_congr_right fun _ => exec_call_map_bind_iff
  rw [hends]
  constructor
  · rintro ⟨n, _, rfl, answer, rest, rfl, h⟩
    exact ⟨n, answer, rest, rfl, h⟩
  · rintro ⟨n, answer, rest, rfl, h⟩
    exact ⟨n, _, rfl, answer, rest, rfl, h⟩

theorem marked_append_inj {n' : Nat} {answer' : Option (Except Fault Returned)} {rest' : Log}
    (h : marked root kind selector n answer ++ rest =
      marked root kind selector n' answer' ++ rest') :
    n = n' ∧ answer = answer' ∧ rest = rest' := by
  obtain ⟨hn, h⟩ := List.cons.inj h
  obtain rfl : n = n' := by injection hn
  refine ⟨rfl, ?_⟩
  cases root with
  | page p => exact waited_append_inj h
  | element e => exact waited_append_inj h

theorem exec_query_marked_iff (hm : marks root kind = true) :
    Exec (query root kind selector) (marked root kind selector n answer ++ rest) r ↔
      AfterMarking (pageOf root) (tokenOf n) (counted root (told answer)) rest r := by
  rw [exec_query_iff hm]
  constructor
  · rintro ⟨n', answer', rest', h, hafter⟩
    obtain ⟨rfl, rfl, rfl⟩ := marked_append_inj h
    exact hafter
  · intro hafter
    exact ⟨n, answer, rest, rfl, hafter⟩

@[simp] theorem not_cleared_nil : ¬ Cleared p token [] := by
  simp [Cleared]

@[simp] theorem cleared_cons_iff {x : Exchange} : Cleared p token (x :: log) ↔
    x.op = .send (.page p) (.evaluate (cleanupScript token)) ∨ Cleared p token log := by
  simp [Cleared]

@[simp] theorem cleared_append_iff {first second : Log} :
    Cleared p token (first ++ second) ↔ Cleared p token first ∨ Cleared p token second := by
  simp only [Cleared, List.mem_append, or_and_right, exists_or]

@[simp] theorem cleared_waited_iff {t : Target} {c : Call}
    {answer : Option (Except Fault (Returns c))} : Cleared p token (waited t c answer) ↔
      t = .page p ∧ c = .evaluate (cleanupScript token) := by
  cases answer <;> simp [Cleared, waited]

theorem not_cleared_of_finds {o : Except Fault (List String)} (h : Finds p selector log o)
    (q : Page) : ¬ Cleared q token log := by
  cases h <;> simp

theorem Collects.cleared_iff (h : Collects p token log r) :
    (Cleared p token log ↔ r.isOk = true) ∧
      ∀ e, r = .error e ↔
        ∃ f, Finds p (markSelector token) log (.error f) ∧ e = .element f.text := by
  cases h with
  | @lost log f hfinds =>
    refine ⟨iff_of_false (not_cleared_of_finds hfinds p) Bool.false_ne_true, fun e => ?_⟩
    constructor
    · rintro ⟨⟩
      exact ⟨f, hfinds, rfl⟩
    · rintro ⟨f', hfinds', rfl⟩
      obtain rfl := Except.error.inj (hfinds.unique ((List.append_nil log).symm ▸ hfinds'))
      rfl
  | @cleared log nodes answer more all hfinds hall =>
    refine ⟨iff_of_true (by simp) rfl, fun e => iff_of_false nofun ?_⟩
    rintro ⟨f, hfinds', -⟩
    cases hfinds.unique hfinds'

end Marking

theorem markScript_ne_cleanupScript (kind : SelectorKind) (selector token token' : String) :
    markScript kind selector token ≠ cleanupScript token' := by
  have hfirst (a b c d e f : String) :
      "(" ++ a ++ b ≠ "document.querySelectorAll('" ++ c ++ d ++ e ++ f := by
    intro h
    have hhead := congrArg (fun s => s.toList.head?) h
    simp at hhead
  exact hfirst _ _ _ _ _ _

theorem not_cleared_marking (root : Root) (kind : SelectorKind) (selector token : String)
    (answer : Option (Except Fault Returned)) (p : Page) (token' : String) :
    ¬ Cleared p token' (marking root kind selector token answer) := by
  cases root with
  | page q =>
    have hcleared := @cleared_waited_iff token' p (.page q)
      (.evaluate (markScript kind selector token)) answer
    intro h
    exact markScript_ne_cleanupScript kind selector token token'
      (Call.evaluate.inj (hcleared.mp h).2)
  | element e =>
    have hcleared := @cleared_waited_iff token' p (.page e.page)
      (.callOn e.node (markingFunction kind selector token)) answer
    intro h
    cases (hcleared.mp h).2

/-- Lookups by marks, with any answers of the browser. Each begins with a call that marks. Where
that call reports a marked element, the marked elements are looked up: if they are found, the marks
are removed before they are returned; if that fails, in whatever way, the lookup fails with the same
fault, and the marks stay. There is such a failure for every fault. -/
theorem marks_cleared_iff {root : Root} {kind : SelectorKind} (hm : marks root kind = true)
    (selector : String) :
    (∀ log r, Exec (query root kind selector) log r →
      ∃ n answer rest, log = marked root kind selector n answer ++ rest) ∧
    (∀ n answer rest r, Reports root answer →
      Exec (query root kind selector) (marked root kind selector n answer ++ rest) r →
      (Cleared (pageOf root) (tokenOf n) rest ↔ r.isOk = true) ∧
        ∀ e, r = .error e ↔
          ∃ f, Finds (pageOf root) (markSelector (tokenOf n)) rest (.error f) ∧
            e = .element f.text) ∧
    ∀ n answer (f : Fault), Reports root answer → ∃ rest,
      Exec (query root kind selector) (marked root kind selector n answer ++ rest)
        (.error (.element f.text)) ∧ ¬ Cleared (pageOf root) (tokenOf n) rest := by
  refine ⟨fun log r h => ?_, fun n answer rest r hreports h => ?_, fun n answer f hreports => ?_⟩
  · obtain ⟨n, answer, rest, rfl, -⟩ := (exec_query_iff hm).mp h
    exact ⟨n, answer, rest, rfl⟩
  · obtain ⟨count, hcount, hpos⟩ := hreports
    have hafter := (exec_query_marked_iff hm).mp h
    rw [hcount] at hafter
    cases hafter with
    | nothing hzero => omega
    | some _ hcollects => exact hcollects.cleared_iff
  · obtain ⟨count, hcount, hpos⟩ := hreports
    have hlost : Finds (pageOf root) (markSelector (tokenOf n))
        (waited (.page (pageOf root)) .document (some (.error f))) (.error f) := .noDocument rfl
    refine ⟨_, (exec_query_marked_iff hm).mpr ?_, not_cleared_of_finds hlost _⟩
    rw [hcount]
    exact .some hpos (.lost hlost)

section Samples

def oneMarked : Option (Except Fault Returned) := some (.ok (.value (.int 1)))

theorem reports_oneMarked (root : Root) : Reports root oneMarked := by
  cases root <;> exact ⟨.int 1, rfl, by decide⟩

def listItem : Element := ⟨⟨0⟩, 1, "li", "li"⟩

def foundMarked : Log :=
  [⟨.send (.page ⟨0⟩) .document, some (.ok ())⟩,
    ⟨.send (.page ⟨0⟩) (.find none (markSelector (tokenOf 7))), some (.ok ["b"])⟩,
    ⟨.send (.page ⟨0⟩) (.evaluate (cleanupScript (tokenOf 7))),
      some (.error (.refused (-32000) "no"))⟩,
    ⟨.fresh, (8 : Nat)⟩]

def lostMarked : Log :=
  [⟨.send (.page ⟨0⟩) .document, some (.ok ())⟩,
    ⟨.send (.page ⟨0⟩) (.find none (markSelector (tokenOf 7))),
      some (.error (.refused (-32000) "no"))⟩]

end Samples

/-- Under an element, by XPath: the script that removes the mark is sent, and its refusal does not
matter. -/
theorem marks_cleared_iff_under_element : marks (.element listItem) .xpath = true ∧
    Reports (.element listItem) oneMarked ∧ (∃ e, Exec (query (.element listItem) .xpath "./b")
      (marked (.element listItem) .xpath "./b" 7 oneMarked ++ foundMarked) (.ok [e])) ∧
    Cleared ⟨0⟩ (tokenOf 7) foundMarked := by
  have hreports := reports_oneMarked (.element listItem)
  obtain ⟨e, h⟩ : ∃ e, Exec (query (.element listItem) .xpath "./b")
      (marked (.element listItem) .xpath "./b" 7 oneMarked ++ foundMarked) (.ok [e]) :=
    ⟨_, by repeat (first | exact .done _ | refine .ask _ ?_)⟩
  have hm : marks (.element listItem) .xpath = true := rfl
  exact ⟨hm, hreports, ⟨e, h⟩, ((marks_cleared_iff hm "./b").2.1 _ _ _ _ hreports h).1.mpr rfl⟩

/-- A script marks the body of a page, and its mark stays there. -/
theorem mark_left_behind : Reports (.page ⟨0⟩) oneMarked ∧
    Exec (query (.page ⟨0⟩) .script "return root.body;")
      (marked (.page ⟨0⟩) .script "return root.body;" 7 oneMarked ++ lostMarked)
      (.error (.element "Error -32000: no")) ∧
    ¬ Cleared ⟨0⟩ (tokenOf 7)
      (marked (.page ⟨0⟩) .script "return root.body;" 7 oneMarked ++ lostMarked) := by
  refine ⟨reports_oneMarked _, ?_, ?_⟩
  · repeat (first | exact .done _ | refine .ask _ ?_)
  · have hmarking := not_cleared_marking (.page ⟨0⟩) .script "return root.body;" (tokenOf 7)
      oneMarked ⟨0⟩ (tokenOf 7)
    simp [marked, lostMarked, hmarking]

end Chromium
end PageFlow
