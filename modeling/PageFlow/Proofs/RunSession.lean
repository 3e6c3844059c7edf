import PageFlow.Proofs.PoolCalls
import PageFlow.Proofs.Selection
import PageFlow.Proofs.StepCalls

/-! The session of a run. A run of accepted steps takes at most one session and gives back what it
took, however its steps end and whatever becomes of the page; nothing that a step does comes after
that. Others may use the pool at the same time. -/
namespace PageFlow

open Engine
open Prog (Exec)

namespace Host

variable {others : Host → Host → Prop} {h h' : Host} {log : Log}

theorem Plays.active_of_stays (hp : Plays Eq h log h') (hl : left log = []) :
    h'.active = h.active + (entered log).length := by
  generalize ho : (Eq : Host → Host → Prop) = alone at hp
  induction hp with
  | nil => rfl
  | cons hm hx _ ih =>
    subst ho
    subst hm
    obtain ⟨hn, hr⟩ := List.append_eq_nil_iff.mp hl
    have ha := hx.active (by simp [hn])
    rw [ih hr, entered_cons, List.length_append]
    rw [hn, List.length_nil] at ha
    omega

theorem Plays.active_of_release {s : Session} {was closed : Bool} {answer : Except FlowError Unit}
    (hp : Plays Eq h (Pool.releaseCalls s was closed answer true) h') (ha : 0 < h.active) :
    h'.active + 1 = h.active := by
  obtain ⟨_, h₁, rfl, hm, hr⟩ := plays_cons_iff.mp hp
  obtain ⟨_, h₂, rfl, hl, hc⟩ := plays_cons_iff.mp hr
  have hn : left (Pool.closeCalls s closed answer ++ Pool.discardCalls s true) = [] := by
    cases closed <;> rfl
  have he : entered (Pool.closeCalls s closed answer ++ Pool.discardCalls s true) = [] := by
    cases closed <;> rfl
  have h₁a : h₁.active = h.active := hm.active (Nat.zero_le _)
  have h₂a : h₂.active + 1 = h₁.active := hl.active (by rw [h₁a]; exact ha)
  rw [hc.active_of_stays hn, he, ← h₁a, ← h₂a]
  rfl

theorem Plays.knows_of_acquire {s : Session} (hp : Plays others h log h')
    (ha : Ends Pool.acquire log (.ok s)) : h'.Knows s := by
  obtain ⟨body, ⟨e, -, he, -⟩ | ⟨page, api, t, -, ht, rfl⟩⟩ := Pool.ends_acquire ha
  · cases he
  · obtain rfl := Except.ok.inj ht
    obtain ⟨_, -, hl⟩ := plays_append_iff.mp hp
    obtain ⟨_, _, -, -, hl⟩ := plays_cons_iff.mp hl
    obtain ⟨_, _, -, he, hn⟩ := plays_cons_iff.mp hl
    cases hn
    exact he.enter_knows

theorem Plays.again_of_release {s : Session} {was closed again : Bool}
    {answer : Except FlowError Unit} (ho : ∀ g g', others g g' → g.Leads g') (hk : h.Knows s)
    (hp : Plays others h (Pool.releaseCalls s was closed answer again) h') : again = true := by
  obtain ⟨h₁, h₂, hb, hx, hr⟩ := plays_cons_iff.mp hp
  have hm : h₂.Marked s := hx.mark_marked ((ho _ _ hb).knows hk)
  obtain ⟨h₃, hc, hd⟩ := plays_append_iff.mp
    (show Plays others h₂ ((⟨.leave s, ()⟩ :: Pool.closeCalls s closed answer) ++ _) h' from hr)
  have hm : h₃.Marked s := (hc.leads ho).marked hm
  cases again with
  | true => rfl
  | false =>
    obtain ⟨h₄, _, hb, hx, -⟩ := plays_cons_iff.mp hd
    exact absurd (hx.mark_answer.mp rfl) ((ho _ _ hb).marked hm).2

end Host

namespace Interpreter

/-- How a run of accepted steps goes. Either no session can be had, which is all that is done, or
the steps are run on the one session that was taken, which is then released. -/
inductive Course (i : Interpreter) (steps : List Step) :
    Log → Except FlowError FlowReport → Prop where
  | refused {log text} (acquired : Ends Pool.acquire log (.error (.session text)))
      (counted : entered log = [] ∧ left log = []) :
      Course i steps log (.error (.session text))
  | ran {session opening middle report log was closed answer}
      (parts : log = opening ++ middle ++ Pool.releaseCalls session was closed answer true)
      (acquired : Ends Pool.acquire opening (.ok session))
      (stepped : Exec (i.runSteps session steps) middle report)
      (counted : i.KeepsToSteps → entered log = [session] ∧ left log = [session] ∧
        closings log = if closed then [] else [session.page]) :
      Course i steps log (.ok report)

variable {i : Interpreter} {request : FlowRequest} {log : Log} {r : Except FlowError FlowReport}

theorem isNeutral_of_isOfStep {op : Op} (h : op.isOfStep = true) : op.isNeutral = true := by
  cases op <;> first | rfl | cases h

/-- A run of rejected steps does nothing. -/
theorem ends_run_rejected_iff {e : FlowError} (hv : Grammar.validate request.steps = .error e) :
    Ends (i.run request) log r ↔ log = [] ∧ r = .error e := by
  rw [run, hv]
  exact Prog.exec_done_iff _ _

/-- The parts of a run of accepted steps. -/
theorem ends_run (hv : Grammar.validate request.steps = .ok ()) (h : Ends (i.run request) log r) :
    (∃ e, Ends Pool.acquire log (.error e) ∧ r = .error e) ∨
    ∃ session opening middle report was closed answer again,
      log = opening ++ middle ++ Pool.releaseCalls session was closed answer again ∧
      Ends Pool.acquire opening (.ok session) ∧
      Exec (i.runSteps session request.steps) middle report ∧ r = .ok report := by
  rw [run, hv] at h
  rcases (ends_bind_iff Pool.acquire _ _).mp h with
    ⟨e, rfl, ha⟩ | ⟨opening, session, _, rfl, ha, hs⟩
  · exact Or.inl ⟨e, ha, rfl⟩
  · obtain ⟨middle, report, _, rfl, hm, hr⟩ := (ends_lift_bind_iff _ _ _).mp hs
    obtain ⟨last, o, _, rfl, hl, hp⟩ := (ends_lift_bind_iff _ _ _).mp hr
    obtain ⟨rfl, rfl⟩ := (ends_pure_iff _ _).mp hp
    obtain ⟨was, closed, answer, again, rfl⟩ := Pool.ends_release hl
    exact Or.inr ⟨session, opening, middle, report, was, closed, answer, again, by simp, ha, hm,
      rfl⟩

/-- A run of accepted steps comes to its end on every host, whatever the driver does. Whoever else
uses the host, the run takes its course, and on a host of its own it leaves as many sessions as it
found. What is said of executors that keep to steps holds of the built-in ones. -/
theorem run_course (i : Interpreter) (request : FlowRequest)
    (hv : Grammar.validate request.steps = .ok ()) :
    ((∃ config, i = standard config) → i.KeepsToSteps) ∧
    (∀ (h : Host) (drive : Prog.Behaviour Op Reply), ∃ log r, Ends (i.run request) log r ∧
      (h.along drive).Gives [] log ∧ h.Plays Eq log (h.after log)) ∧
    ∀ (others : Host → Host → Prop) (h h' : Host) (log : Log) (r : Except FlowError FlowReport),
      (∀ g g', others g g' → g.Leads g') → h.Plays others log h' → Ends (i.run request) log r →
        Course i request.steps log r ∧
        (i.KeepsToSteps → others = Eq → h'.active = h.active) := by
  refine ⟨?_, fun h drive => Host.exists_plays h drive _, ?_⟩
  · rintro ⟨config, rfl⟩
    exact keepsToSteps_standard config
  intro others h h' log r ho hp hr
  rcases ends_run hv hr with ⟨e, ha, rfl⟩ |
    ⟨session, opening, middle, report, was, closed, answer, again, rfl, ha, hm, rfl⟩
  · obtain ⟨⟨text, rfl⟩, he, hl⟩ := Pool.projections_acquire_error ha
    refine ⟨.refused ha ⟨he, hl⟩, ?_⟩
    rintro - rfl
    rw [hp.active_of_stays hl, he]
    rfl
  · obtain ⟨g, hf, hl⟩ := Host.plays_append_iff.mp hp
    obtain ⟨g', hf, hg⟩ := Host.plays_append_iff.mp hf
    have hk : g.Knows session := (hg.leads ho).knows (hf.knows_of_acquire ha)
    obtain rfl := hl.again_of_release ho hk
    obtain ⟨he₁, hl₁, hc₁⟩ := Pool.projections_acquire ha
    have hs (hi : i.KeepsToSteps) :
        entered middle = [] ∧ left middle = [] ∧ closings middle = [] := by
      have hn : ∀ x ∈ middle, x.op.isNeutral = true := fun x hx =>
        isNeutral_of_isOfStep (hi.runSteps hm x hx)
      obtain ⟨he, hl⟩ := uncounted fun x hx => Pool.isUncounted_of_isNeutral (hn x hx)
      exact ⟨he, hl, closings_eq_nil hn⟩
    refine ⟨.ran rfl ha hm fun hi => ?_, ?_⟩
    · obtain ⟨he₂, hl₂, hc₂⟩ := hs hi
      simp only [entered_append, left_append, closings_append, he₁, hl₁, hc₁, he₂, hl₂, hc₂,
        Pool.entered_releaseCalls, Pool.left_releaseCalls, Pool.closings_releaseCalls]
      exact ⟨rfl, rfl, rfl⟩
    · rintro hi rfl
      obtain ⟨he₂, hl₂, -⟩ := hs hi
      have hm := hg.active_of_stays hl₂
      rw [hf.active_of_stays hl₁, he₁, he₂] at hm
      exact Nat.succ.inj ((hl.active_of_release (by rw [hm]; exact Nat.succ_pos _)).trans hm)

def firstRun : Log :=
  Pool.firstAcquire ++ [⟨.now, (0 : Instant)⟩,
    ⟨.goto ⟨2⟩ "u" .load (.ofSeconds 5.0), .ok ()⟩, ⟨.now, (0 : Instant)⟩] ++
  Pool.releaseCalls Pool.firstSession false true (.ok ()) true

theorem run_course_first : ∃ report,
    Ends ((standard .default).run ⟨[navigating]⟩) firstRun (.ok report) ∧
      Course (standard .default) [navigating] firstRun (.ok report) ∧
      (Host.start.after firstRun).active = 0 := by
  have hp : Host.start.Plays Eq firstRun (Host.start.after firstRun) := by
    repeat (first | exact .nil _ | refine .cons rfl ⟨rfl, by rintro f hf; cases hf <;> rfl⟩ ?_)
  have hr : Ends ((standard .default).run ⟨[navigating]⟩) firstRun
      (.ok ⟨true, [⟨navigating, secondsBetween 0 0, none, none⟩]⟩) := by
    repeat (first | exact .done _ | refine .ask _ ?_)
  obtain ⟨hk, -, hc⟩ := run_course (standard .default) ⟨[navigating]⟩ rfl
  obtain ⟨hcourse, hactive⟩ := hc Eq _ _ _ _ (fun g g' hg => hg ▸ .refl) hp hr
  exact ⟨_, hr, hcourse, hactive (hk ⟨_, rfl⟩) rfl⟩

end Interpreter
end PageFlow
