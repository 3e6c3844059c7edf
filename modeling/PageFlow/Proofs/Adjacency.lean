import PageFlow.Grammar
import Mathlib.Data.List.Chain
import Mathlib.Data.List.Induction

/-! What the grammar accepts, told without its loop: a navigation first, and neighbours that go
together. A refused flow is cut in front of the first step that does not fit. -/
namespace PageFlow
namespace Grammar

/-- The second step may stand directly after the first. -/
def Follows (a b : Step) : Prop := mayFollow a.action b.action = true

/-- A navigation first, and every step may follow the one before it. -/
def Accepted (steps : List Step) : Prop :=
  (∃ first rest, steps = first :: rest ∧ first.action = .navigate) ∧ steps.IsChain Follows

theorem follows_iff (a b : Step) :
    Follows a b ↔ allowedBefore b.action = [] ∨ a.action ∈ allowedBefore b.action := by
  simp [Follows, mayFollow]

theorem follows_navigate (a : Step) {b : Step} (h : b.action = .navigate) : Follows a b := by
  rw [follows_iff, h]; exact Or.inl rfl

def violation (k : Nat) (a b : Step) : FlowError :=
  .grammarViolation k b.action a.action (describe (allowedBefore b.action))

/-- Steps cut in front of the first one that does not fit. -/
structure Cut (steps before : List Step) (a b : Step) (after : List Step) : Prop where
  parts : steps = before ++ a :: b :: after
  fitting : (before ++ [a]).IsChain Follows
  unfit : ¬ Follows a b

theorem isChain_or_cut (steps : List Step) :
    steps.IsChain Follows ∨ ∃ before a b after, Cut steps before a b after := by
  induction steps with
  | nil => exact Or.inl .nil
  | cons s rest ih =>
    cases rest with
    | nil => exact Or.inl (.singleton s)
    | cons b rest =>
      by_cases h : Follows s b
      · rcases ih with hc | ⟨before, x, y, after, hp, hf, hu⟩
        · exact Or.inl (.cons_cons h hc)
        · refine Or.inr ⟨s :: before, x, y, after, by rw [hp]; rfl, ?_, hu⟩
          cases before with
          | nil => obtain ⟨rfl, -⟩ := List.cons.inj hp; exact List.isChain_pair.mpr h
          | cons z before => obtain ⟨rfl, -⟩ := List.cons.inj hp; exact .cons_cons h hf
      · exact Or.inr ⟨[], s, b, rest, rfl, .singleton s, h⟩

theorem checkPairs_cons {a b : Step} (h : Follows a b) (k : Nat) (rest : List Step) :
    checkPairs k (a :: b :: rest) = checkPairs (k + 1) (b :: rest) := if_pos h

theorem checkPairs_of_isChain {steps : List Step} (h : steps.IsChain Follows) (k : Nat) :
    checkPairs k steps = .ok () := by
  induction h generalizing k with
  | nil => rfl
  | singleton s => rfl
  | cons_cons hab _ ih => rw [checkPairs_cons hab]; exact ih (k + 1)

theorem checkPairs_of_cut {steps before : List Step} {a b : Step} {after : List Step}
    (h : Cut steps before a b after) (k : Nat) :
    checkPairs k steps = .error (violation (k + before.length) a b) := by
  obtain ⟨rfl, hf, hu⟩ := h
  induction before generalizing k with
  | nil => exact if_neg hu
  | cons s before ih =>
    have hk : k + (s :: before).length = k + 1 + before.length := by
      rw [List.length_cons]; omega
    rw [hk, ← ih (k + 1) hf.of_cons]
    cases before with
    | nil => exact checkPairs_cons (List.isChain_pair.mp hf) k (b :: after)
    | cons z before => exact checkPairs_cons (List.isChain_cons_cons.mp hf).1 k _

theorem checkPairs_ok_iff (k : Nat) (steps : List Step) :
    checkPairs k steps = .ok () ↔ steps.IsChain Follows := by
  constructor
  · intro h
    rcases isChain_or_cut steps with hc | ⟨before, a, b, after, hc⟩
    · exact hc
    · rw [checkPairs_of_cut hc] at h; cases h
  · intro h; exact checkPairs_of_isChain h k

theorem checkPairs_error {k : Nat} {steps : List Step} {e : FlowError}
    (h : checkPairs k steps = .error e) :
    ∃ before a b after, Cut steps before a b after ∧ e = violation (k + before.length) a b := by
  rcases isChain_or_cut steps with hc | ⟨before, a, b, after, hc⟩
  · rw [checkPairs_of_isChain hc] at h; cases h
  · rw [checkPairs_of_cut hc] at h
    exact ⟨before, a, b, after, hc, (Except.error.inj h).symm⟩

theorem validate_ok_iff (steps : List Step) : validate steps = .ok () ↔ Accepted steps := by
  cases steps with
  | nil => simp [validate, Accepted]
  | cons s rest =>
    by_cases h : s.action = .navigate
    · simp [validate, Accepted, h, checkPairs_ok_iff]
    · simp [validate, Accepted, h]

/-- A violation is reported iff a navigation stands first and the flow is cut there. -/
theorem validate_violation_iff (steps : List Step) (k : Nat) (action previous : Action)
    (allowed : String) :
    validate steps = .error (.grammarViolation k action previous allowed) ↔
      (∃ first rest, steps = first :: rest ∧ first.action = .navigate) ∧
      ∃ before a b after, Cut steps before a b after ∧
        .grammarViolation k action previous allowed = violation (2 + before.length) a b := by
  cases steps with
  | nil => simp [validate]
  | cons s rest =>
    by_cases h : s.action = .navigate
    · rw [validate, if_pos h]
      constructor
      · intro he; exact ⟨⟨s, rest, rfl, h⟩, checkPairs_error he⟩
      · rintro ⟨-, before, a, b, after, hc, he⟩
        rw [he]; exact checkPairs_of_cut hc 2
    · simp [validate, h]

/-- Position `k`, counted from 1, is the first whose step may not follow the one before it. -/
structure FirstMisfit (steps : List Step) (k : Nat) (a b : Step) : Prop where
  two_le : 2 ≤ k
  previous : steps[k - 2]? = some a
  current : steps[k - 1]? = some b
  unfit : ¬ Follows a b
  smallest : ∀ i x y, i + 2 < k → steps[i]? = some x → steps[i + 1]? = some y → Follows x y

namespace Cut

variable {steps before : List Step} {a b : Step} {after : List Step}

theorem take (h : Cut steps before a b after) :
    steps.take (2 + before.length) = before ++ [a, b] ∧
      steps.take (2 + before.length - 1) = before ++ [a] := by
  have hk : 2 + before.length - 1 = before.length + 1 := by omega
  rw [hk, Nat.add_comm 2, h.parts]
  simp [List.take_length_add_append]

theorem firstMisfit (h : Cut steps before a b after) :
    FirstMisfit steps (2 + before.length) a b := by
  have ha : steps[before.length]? = some a := by simp [h.parts]
  have hb : steps[before.length + 1]? = some b := by
    rw [h.parts, List.getElem?_append_right (by omega)]; simp
  refine ⟨by omega, ?_, ?_, h.unfit, ?_⟩
  · rwa [Nat.add_sub_cancel_left]
  · rwa [show 2 + before.length - 1 = before.length + 1 by omega]
  · intro i x y hi hx hy
    have hl : i + 1 < (before ++ [a]).length := by rw [List.length_append]; simp; omega
    have hp : steps = (before ++ [a]) ++ (b :: after) := by simp [h.parts]
    rw [hp, List.getElem?_append_left (by omega)] at hx
    rw [hp, List.getElem?_append_left hl] at hy
    obtain ⟨_, rfl⟩ := List.getElem_of_getElem? hx
    obtain ⟨_, rfl⟩ := List.getElem_of_getElem? hy
    exact h.fitting.getElem i hl

theorem of_take {other : List Step} (h : Cut steps before a b after)
    (ho : other.take (2 + before.length) = steps.take (2 + before.length)) :
    Cut other before a b (other.drop (2 + before.length)) := by
  refine ⟨?_, h.fitting, h.unfit⟩
  calc other
      = other.take (2 + before.length) ++ other.drop (2 + before.length) :=
        (List.take_append_drop _ _).symm
    _ = before ++ [a, b] ++ other.drop (2 + before.length) := by rw [ho, h.take.1]
    _ = before ++ a :: b :: other.drop (2 + before.length) := by simp

end Cut

theorem Accepted.of_append {xs ys : List Step} (h : Accepted (xs ++ ys)) (hx : xs ≠ []) :
    Accepted xs := by
  obtain ⟨⟨first, rest, he, hn⟩, hc⟩ := h
  refine ⟨?_, (List.isChain_append.mp hc).1⟩
  cases xs with
  | nil => exact absurd rfl hx
  | cons x xs =>
    obtain ⟨rfl, -⟩ := List.cons.inj he
    exact ⟨x, xs, rfl, hn⟩

theorem Accepted.append {xs ys : List Step} (hx : Accepted xs) (hy : Accepted ys) :
    Accepted (xs ++ ys) := by
  obtain ⟨⟨x, xs', rfl, hn⟩, hc⟩ := hx
  obtain ⟨⟨y, ys', rfl, hm⟩, hd⟩ := hy
  refine ⟨⟨x, xs' ++ y :: ys', rfl, hn⟩, List.isChain_append.mpr ⟨hc, hd, ?_⟩⟩
  intro a _ b hb
  obtain rfl : y = b := Option.some.inj hb
  exact follows_navigate a hm

theorem validate_violation {steps : List Step} {k : Nat} {action previous : Action}
    {allowed : String}
    (h : validate steps = .error (.grammarViolation k action previous allowed)) :
    ∃ a b, FirstMisfit steps k a b ∧ a.action = previous ∧ b.action = action ∧
      allowed = describe (allowedBefore action) ∧ Accepted (steps.take (k - 1)) ∧
      ∀ other : List Step, other.take k = steps.take k →
        validate other = .error (.grammarViolation k action previous allowed) := by
  obtain ⟨⟨first, rest, hs, hn⟩, before, a, b, after, hc, he⟩ :=
    (validate_violation_iff steps k action previous allowed).mp h
  obtain ⟨rfl, rfl, rfl, rfl⟩ := FlowError.grammarViolation.inj he
  refine ⟨a, b, hc.firstMisfit, rfl, rfl, rfl, ⟨?_, by rw [hc.take.2]; exact hc.fitting⟩, ?_⟩
  · rw [hs, show 2 + before.length - 1 = before.length + 1 by omega, List.take_succ_cons]
    exact ⟨first, _, rfl, hn⟩
  · intro other ho
    refine (validate_violation_iff other _ _ _ _).mpr ⟨?_, before, a, b, _, hc.of_take ho, rfl⟩
    rw [hs, Nat.add_comm 2, List.take_succ_cons] at ho
    cases other with
    | nil => cases ho
    | cons x xs =>
      rw [List.take_succ_cons] at ho
      obtain ⟨rfl, -⟩ := List.cons.inj ho
      exact ⟨x, xs, rfl, hn⟩

/-- The check of a flow, for all flows: what it accepts, what the position in a violation means,
and that it holds of every beginning of an accepted flow and of two accepted flows in a row. -/
theorem validate_laws :
    (∀ steps, validate steps = .ok () ↔ Accepted steps) ∧
    (∀ steps k action previous allowed,
      validate steps = .error (.grammarViolation k action previous allowed) →
        ∃ a b, FirstMisfit steps k a b ∧ a.action = previous ∧ b.action = action ∧
          allowed = describe (allowedBefore action) ∧ validate (steps.take (k - 1)) = .ok () ∧
          ∀ other : List Step, other.take k = steps.take k →
            validate other = .error (.grammarViolation k action previous allowed)) ∧
    (∀ xs ys, xs ≠ [] → validate (xs ++ ys) = .ok () → validate xs = .ok ()) ∧
    ∀ xs ys, validate xs = .ok () → validate ys = .ok () → validate (xs ++ ys) = .ok () := by
  refine ⟨validate_ok_iff, ?_, ?_, ?_⟩
  · intro steps k action previous allowed h
    obtain ⟨a, b, hm, hp, hc, hd, ht, ho⟩ := validate_violation h
    exact ⟨a, b, hm, hp, hc, hd, (validate_ok_iff _).mpr ht, ho⟩
  · intro xs ys hx h
    exact (validate_ok_iff _).mpr (((validate_ok_iff _).mp h).of_append hx)
  · intro xs ys hx hy
    exact (validate_ok_iff _).mpr (((validate_ok_iff _).mp hx).append ((validate_ok_iff _).mp hy))

/-- A text is read after a screenshot: step 4 does not fit, the three steps before it do. -/
theorem validate_laws_fourth_step :
    let flow := [Action.navigate, .findElement, .screenshot, .extractText].map (Step.ofAction · .null)
    validate flow = .error (.grammarViolation 4 .extractText .screenshot
      "findElement, extractText, extractAttribute, extractTable, clickElement, scrollIntoElement") ∧
    ∃ a b, FirstMisfit flow 4 a b ∧ a.action = .screenshot ∧ b.action = .extractText ∧
      validate (flow.take 3) = .ok () := by
  have h : validate ([Action.navigate, .findElement, .screenshot, .extractText].map
      (Step.ofAction · .null)) = .error (.grammarViolation 4 .extractText .screenshot
      "findElement, extractText, extractAttribute, extractTable, clickElement, scrollIntoElement") :=
    rfl
  obtain ⟨a, b, hm, hp, hc, -, ht, -⟩ := validate_laws.2.1 _ _ _ _ _ h
  exact ⟨h, a, b, hm, hp, hc, ht⟩

def reads : Action → Bool
  | .extractText | .extractTable | .extractAttribute => true
  | _ => false

def touches : Action → Bool
  | .click | .scrollIntoElement => true
  | _ => false

theorem consumesElement_iff (a : Action) : a.consumesElement = true ↔
    reads a = true ∨ touches a = true ∨ a = .inputText := by
  cases a <;> decide

theorem allowedBefore_of_touches {a : Action} (h : touches a = true ∨ a = .inputText) :
    allowedBefore a = [.findElement] := by
  cases a <;> simp_all [touches, allowedBefore]

theorem mem_allowedBefore_of_reads {a b : Action} (h : reads b = true) :
    (allowedBefore b ≠ []) ∧ (a ∈ allowedBefore b ↔
      a = .findElement ∨ reads a = true ∨ touches a = true) := by
  cases b <;> simp_all [reads, allowedBefore] <;> cases a <;> simp [touches]

/-- Steps between a lookup and a step that works on what it found: at most one click or scroll,
and then extractions. -/
def Between (between : List Step) : Prop :=
  ∃ acted extracted, between = acted ++ extracted ∧ acted.length ≤ 1 ∧
    (∀ s ∈ acted, touches s.action = true) ∧ ∀ s ∈ extracted, reads s.action = true

namespace Between

variable {between : List Step}

theorem nil : Between [] := ⟨[], [], rfl, by simp, by simp, by simp⟩

theorem singleton {s : Step} (h : touches s.action = true) : Between [s] :=
  ⟨[s], [], rfl, by simp, by simpa using h, by simp⟩

theorem concat (h : Between between) {s : Step} (hs : reads s.action = true) :
    Between (between ++ [s]) := by
  obtain ⟨acted, extracted, rfl, hl, ha, hr⟩ := h
  refine ⟨acted, extracted ++ [s], List.append_assoc _ _ _, hl, ha, ?_⟩
  intro x hx
  rcases List.mem_append.mp hx with hx | hx
  · exact hr x hx
  · rwa [List.mem_singleton.mp hx]

theorem ne_navigate (h : Between between) :
    ∀ s ∈ between, s.action ≠ .navigate ∧ s.action ≠ .findElement := by
  obtain ⟨acted, extracted, rfl, -, ha, hr⟩ := h
  intro s hs
  rcases List.mem_append.mp hs with hs | hs
  · have ht := ha s hs
    constructor <;> intro he <;> rw [he] at ht <;> cases ht
  · have ht := hr s hs
    constructor <;> intro he <;> rw [he] at ht <;> cases ht

end Between

theorem Accepted.last {before : List Step} {s : Step} {after : List Step}
    (h : Accepted (before ++ s :: after)) (hs : s.action ≠ .navigate) :
    ∃ init p, before = init ++ [p] ∧ Follows p s ∧ Accepted (init ++ [p]) := by
  rcases List.eq_nil_or_concat before with rfl | ⟨init, p, rfl⟩
  · obtain ⟨⟨first, rest, he, hn⟩, -⟩ := h
    obtain ⟨rfl, -⟩ := List.cons.inj he
    exact absurd hn hs
  · rw [List.concat_eq_append] at h ⊢
    refine ⟨init, p, rfl, ?_, h.of_append (by simp)⟩
    have hc := h.2
    rw [List.append_assoc, List.singleton_append, List.isChain_append_cons_cons] at hc
    exact hc.2.1

/-- Directly before a click, an input or a scroll stands a lookup. -/
theorem Accepted.lookup_directly {before : List Step} {s : Step} {after : List Step}
    (h : Accepted (before ++ s :: after)) (hs : touches s.action = true ∨ s.action = .inputText) :
    ∃ init find, before = init ++ [find] ∧ find.action = .findElement := by
  have hn : s.action ≠ .navigate := by intro he; rw [he] at hs; simp [touches] at hs
  obtain ⟨init, p, rfl, hf, -⟩ := h.last hn
  rw [follows_iff, allowedBefore_of_touches hs] at hf
  exact ⟨init, p, rfl, by simpa using hf⟩

/-- Before a step that works on elements stands a lookup, with nothing in between that could
change the page or the selection. Extractions lead back to it one by one. -/
theorem Accepted.lookup_before {before : List Step} {s : Step} {after : List Step}
    (h : Accepted (before ++ s :: after)) (hs : s.action.consumesElement = true) :
    ∃ earlier find between, before = earlier ++ find :: between ∧
      find.action = .findElement ∧ Between between := by
  induction before using List.reverseRecOn generalizing s after with
  | nil =>
    obtain ⟨⟨first, rest, he, hn⟩, -⟩ := h
    obtain ⟨rfl, -⟩ := List.cons.inj he
    rw [hn] at hs; cases hs
  | append_singleton init p ih =>
    rcases (consumesElement_iff _).mp hs with hr | ht
    · have hn : s.action ≠ .navigate := by intro he; rw [he] at hr; cases hr
      obtain ⟨init', p', he, hf, ha⟩ := h.last hn
      obtain ⟨rfl, hp⟩ := List.append_inj' he rfl
      obtain rfl := List.singleton_inj.mp hp
      rcases (follows_iff p s).mp hf with hf | hf
      · exact absurd hf (mem_allowedBefore_of_reads (a := p.action) hr).1
      · rcases (mem_allowedBefore_of_reads hr).2.mp hf with hp | hp | hp
        · exact ⟨init, p, [], rfl, hp, .nil⟩
        · -- the lookup of the extraction in front is also that of the step
          obtain ⟨earlier, find, between, rfl, hfind, hb⟩ :=
            ih ha ((consumesElement_iff _).mpr (Or.inl hp))
          exact ⟨earlier, find, between ++ [p], by simp, hfind, hb.concat hp⟩
        · obtain ⟨earlier, find, rfl, hfind⟩ := ha.lookup_directly (Or.inl hp)
          exact ⟨earlier, find, [p], by simp, hfind, .singleton hp⟩
    · obtain ⟨earlier, find, he, hfind⟩ := h.lookup_directly ht
      exact ⟨earlier, find, [], he, hfind, .nil⟩

end Grammar
end PageFlow
