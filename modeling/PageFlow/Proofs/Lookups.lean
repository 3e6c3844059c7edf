import PageFlow.Engine.Context
import PageFlow.Engine.Locator
import PageFlow.Proofs.Attempts

/-! What lookups can bring: only elements that a driver has just answered with, and no fault of
the flow, since what a driver says while a lookup waits is never an error of the lookup. -/
namespace PageFlow
namespace Engine

def Exchange.found : Exchange → List Element
  | ⟨.query _ _ _, .ok all⟩ => all
  | _ => []

def foundIn (log : Log) : List Element := log.flatMap Exchange.found

@[simp] theorem foundIn_append (first second : Log) :
    foundIn (first ++ second) = foundIn first ++ foundIn second := List.flatMap_append

/-- The elements in every value of the attempt were answered to its lookups. -/
def Finds (a : Attempt τ) (held : τ → List Element) : Prop :=
  ∀ log v, Ends a log (.ok v) → held v ⊆ foundIn log

section Finds

variable {a : Attempt τ} {f : τ → Attempt υ} {held : τ → List Element} {kept : υ → List Element}

theorem finds_pure {v : τ} (h : held v = []) : Finds (pure v) held := by
  intro log w hw
  obtain ⟨-, he⟩ := (ends_pure_iff v _).mp hw
  obtain rfl := Except.ok.inj he
  rw [h]; exact List.nil_subset _

theorem finds_throw (e : FlowError) : Finds (throw e) held := by
  intro log w hw
  obtain ⟨-, he⟩ := (ends_throw_iff e _).mp hw
  cases he

theorem finds_bind (ha : Finds a held)
    (hf : ∀ v log w, Ends (f v) log (.ok w) → kept w ⊆ held v ++ foundIn log) :
    Finds (a >>= f) kept := by
  intro log w hw
  rcases (ends_bind_iff a f _).mp hw with ⟨e, he, -⟩ | ⟨first, v, second, rfl, hv, hf'⟩
  · cases he
  · rw [foundIn_append]
    intro x hx
    rcases List.mem_append.mp (hf v second w hf' hx) with h | h
    · exact List.mem_append_left _ (ha first v hv h)
    · exact List.mem_append_right _ h

theorem finds_bind_of_yields (ha : Finds a held) (hf : ∀ v, Yields (f v) fun w => kept w ⊆ held v) :
    Finds (a >>= f) kept :=
  finds_bind ha fun v log w hw =>
    List.Subset.trans (hf v log w hw) (List.subset_append_left _ _)

theorem finds_last (hf : ∀ v, Finds (f v) kept) : Finds (a >>= f) kept := by
  have hn : Finds a fun _ => [] := fun _ _ _ => List.nil_subset _
  exact finds_bind hn fun v log w hw => hf v log w hw

end Finds
end Engine

namespace Locator

open Engine

theorem blameless_found (root : Root) (kind : SelectorKind) (selector : String) (o : Options) :
    Blameless (found root kind selector o) := by
  refine blameless_bind (blameless_outcome _) fun r => ?_
  rcases r with e | (_ | ⟨e, rest⟩) <;> exact blameless_pure _

theorem inherited_waitFor {P : ∀ {τ : Type}, Attempt τ → Prop} (hp : Inherited P) (hn : P now)
    (hs : ∀ d, P (sleep d)) {check : Attempt (Option τ)} (hc : P check) (timeout : Duration) :
    P (waitFor check timeout) := by
  have hu (deadline : Instant) (left : Nat) : P (pollUntil check deadline left) := by
    induction left with
    | zero => exact hc
    | succ left ih =>
      refine hp.bind hc fun v => ?_
      cases v with
      | some v => exact hp.pure _
      | none =>
        refine hp.bind hn fun t => ?_
        split
        · exact hp.pure _
        · exact hp.bind (hs _) fun _ => ih
  exact hp.bind hn fun start => hu _ _

theorem blameless_waitFor {check : Attempt (Option τ)} (h : Blameless check) (timeout : Duration) :
    Blameless (waitFor check timeout) :=
  inherited_waitFor inherited_blameless (blameless_lift _) (fun _ => blameless_lift _) h timeout

theorem blameless_resolve (root : Root) (kind : SelectorKind) (selector : String) (o : Options) :
    Blameless (resolve root kind selector o) := by
  refine blameless_bind (blameless_waitFor (blameless_found root kind selector o) _) fun v => ?_
  cases v with
  | some all => exact blameless_pure _
  | none =>
    change Blameless (if o.strict = true then _ else _)
    split
    · exact blameless_throw rfl
    · exact blameless_pure _

theorem blameless_waitUntilVisible (e : Element) (timeout : Duration) :
    Blameless (waitUntilVisible e timeout) := by
  have hs : Blameless (seen e) := by
    refine blameless_bind (blameless_outcome _) fun r => ?_
    rcases r with e | (_ | _) <;> exact blameless_pure _
  refine blameless_bind (blameless_waitFor hs timeout) fun v => ?_
  cases v with
  | some v => exact blameless_pure _
  | none => exact blameless_throw rfl

theorem visibleOf_subset (multiple : Bool) (candidates : List Element) :
    Yields (visibleOf multiple candidates) (· ⊆ candidates) := by
  induction candidates with
  | nil => exact yields_pure (List.nil_subset _)
  | cons e rest ih =>
    refine yields_last fun visible => ?_
    split
    · split
      · exact yields_bind ih fun more hm => yields_pure (List.cons_subset_cons e hm)
      · exact yields_pure (by simp)
    · exact fun log v hv => List.Subset.trans (ih log v hv) (List.subset_cons_self e rest)

theorem ready_subset (o : Options) (candidates : List Element) :
    Yields (ready o candidates) (· ⊆ candidates) := by
  unfold ready
  split
  · refine yields_pure ?_
    split
    · exact List.Subset.refl _
    · exact List.take_subset 1 candidates
  · exact visibleOf_subset o.multiple candidates

theorem finds_poll (root : Root) (kind : SelectorKind) (selector : String) (o : Options) :
    Finds (poll root kind selector o) id := by
  have hq : Finds (query root kind selector) id := by
    intro log all h
    obtain rfl := (@Prog.exec_call_iff Op Reply log (.query root kind selector) (.ok all)).mp h
    exact List.subset_append_left _ _
  exact finds_bind_of_yields hq fun candidates => ready_subset o candidates

theorem finds_found (root : Root) (kind : SelectorKind) (selector : String) (o : Options) :
    Finds (found root kind selector o) (·.getD []) := by
  intro log v hv
  obtain ⟨first, r, second, rfl, hp, hf⟩ := (ends_lift_bind_iff _ _ _).mp hv
  rw [foundIn_append]
  rcases r with e | (_ | ⟨e, rest⟩)
  all_goals
    obtain ⟨-, he⟩ := (ends_pure_iff _ _).mp hf
    obtain rfl := Except.ok.inj he
  · exact List.nil_subset _
  · exact List.nil_subset _
  · exact List.subset_append_of_subset_left _ (finds_poll root kind selector o first _ hp)

theorem finds_pollUntil {check : Attempt (Option τ)} {held : Option τ → List Element}
    (hn : held none = []) (h : Finds check held) (deadline : Instant) (left : Nat) :
    Finds (pollUntil check deadline left) held := by
  induction left with
  | zero => exact h
  | succ left ih =>
    refine finds_bind h fun v log w hw => ?_
    cases v with
    | some v =>
      obtain ⟨-, he⟩ := (ends_pure_iff _ _).mp hw
      obtain rfl := Except.ok.inj he
      exact List.subset_append_left _ _
    | none =>
      have hr : Finds (do
          let t ← now
          if deadline ≤ t then pure none
          else do
            sleep (.ofNanos (min interval (deadline - t)))
            pollUntil check deadline left) held := by
        refine finds_last fun t => ?_
        split
        · exact finds_pure hn
        · exact finds_last fun _ => ih
      exact List.Subset.trans (hr log w hw) (List.subset_append_right _ _)

/-- Whatever a lookup resolves to was answered to it. -/
theorem finds_resolve (root : Root) (kind : SelectorKind) (selector : String) (o : Options) :
    Finds (resolve root kind selector o) Resolved.toList := by
  have hw : Finds (waitFor (found root kind selector o) o.timeout) (·.getD []) :=
    finds_last fun start => finds_pollUntil rfl (finds_found root kind selector o) _ _
  refine finds_bind_of_yields hw fun v => ?_
  cases v with
  | some all =>
    refine yields_pure ?_
    split
    · exact List.Subset.refl all
    · split
      · exact fun x hx => by rw [List.mem_singleton.mp hx]; exact List.mem_cons_self
      · exact List.Subset.refl []
  | none =>
    change Yields (if o.strict = true then _ else _) _
    split
    · exact yields_throw _ _
    · exact yields_pure (by split <;> exact List.Subset.refl [])

end Locator
end PageFlow
