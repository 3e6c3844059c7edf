import PageFlow.Proofs.Selection

/-! Steps that are wrong by themselves. A structural error that no driver answered is raised before
the first call of its step, so the step has no effect, nothing in it is repeated, and it fails in
the same way whatever the driver would answer. -/
namespace PageFlow

open Engine

theorem Prog.Exec.eq_of_nil {Op : Type} {Reply : Op → Type} {α : Type} {p : Prog Op Reply α} {a : α}
    (h : Exec p [] a) {log : List (Prog.Exchange Op Reply)} {b : α} (hb : Exec p log b) :
    log = [] ∧ b = a := by
  cases h with
  | done a => exact (Prog.exec_done_iff a b).mp hb

namespace Engine

/-- What the attempt raised itself was raised before any call. -/
theorem Faults.silent {a : Attempt τ} {F : FlowError → Prop} (h : Faults a F) {log : Log}
    {e : FlowError} (he : Ends a log (.error e))
    (hd : ∀ x ∈ log, ∀ e' ∈ x.failures, e'.isStructural = false) (hs : e.isStructural = true) :
    log = [] ∧ F e := by
  rcases h log e he hs with ⟨x, hx, hm⟩ | h₁
  · have h₁ := hd x hx e hm
    rw [hs] at h₁
    cases h₁
  · exact h₁

end Engine

namespace Executor

/-- Whichever built-in executor it is, whatever the data of its step and whatever earlier steps
left: if it fails with a structural error and no call answered one, it made no call of any kind,
no wait between attempts included. The error is one of its own data or of missing elements, and no
other answers would have led it anywhere else. -/
theorem structural_fault_without_calls (extractor : Option PdfCommand) (a : Action) (c : Context)
    {log : Log} {e : FlowError} (he : Ends (builtIn extractor a c) log (.error e))
    (hd : ∀ x ∈ log, ∀ e' ∈ x.failures, e'.isStructural = false) (hs : e.isStructural = true) :
    log = [] ∧ Complaint a c e ∧
      ∀ log' r, Ends (builtIn extractor a c) log' r → log' = [] ∧ r = .error e := by
  obtain ⟨rfl, hc⟩ := (complaints_builtIn extractor a c).silent he hd hs
  exact ⟨rfl, hc, fun log' r hr => he.eq_of_nil hr⟩

open Interpreter in
/-- A click with nothing selected, and before it a captured value only. -/
theorem structural_fault_of_click :
    let c : Context := ⟨someSession, clicking, .value (.bytes [1]), .empty, .default⟩
    Ends (builtIn none .click c) [] (.error (.missingContext .click)) ∧
    ∀ log r, Ends (builtIn none .click c) log r →
      log = [] ∧ r = .error (.missingContext .click) := by
  intro c
  have he : Ends (builtIn none .click c) [] (.error (.missingContext .click)) := .done _
  exact ⟨he, (structural_fault_without_calls none .click c he (List.forall_mem_nil _) rfl).2.2⟩

end Executor
end PageFlow
