import PageFlow.Proofs.PooledBrowser
import PageFlow.Proofs.RunSession

/-! The browsers of a program that has its host to itself. What it launches or finds in the slot,
it closes or leaves in the slot; so do the calls of a pool, steps, and whole runs. A pool that was
empty and is shut down in the end has thus closed all that was launched, and each of it once. -/
namespace PageFlow

open Engine
open Prog (Begins)

namespace Engine

def launched (log : Log) : List Browser := log.flatMap Exchange.launched

def ended (log : Log) : List Browser := log.flatMap Exchange.ended

section Logs

variable {first second log : Log}

@[simp] theorem launched_cons (x : Exchange) : launched (x :: log) = x.launched ++ launched log :=
  rfl

@[simp] theorem ended_cons (x : Exchange) : ended (x :: log) = x.ended ++ ended log := rfl

@[simp] theorem launched_append : launched (first ++ second) = launched first ++ launched second :=
  List.flatMap_append

@[simp] theorem ended_append : ended (first ++ second) = ended first ++ ended second :=
  List.flatMap_append

/-- A program alone on a host loses no browser with these calls, and closes none twice. -/
def Balanced (log : Log) : Prop := ∀ h h' : Host, h.Plays Eq log h' →
  (launched log ++ h.pooled.toList).Perm (ended log ++ h'.pooled.toList)

theorem Balanced.append (hf : Balanced first) (hs : Balanced second) :
    Balanced (first ++ second) := by
  intro h h' hp
  obtain ⟨m, hpf, hps⟩ := Host.plays_append_iff.mp hp
  refine List.perm_iff_count.mpr fun b => ?_
  have hcf := (hf h m hpf).count_eq b
  have hcs := (hs m h' hps).count_eq b
  simp only [launched_append, ended_append, List.count_append] at hcf hcs ⊢
  omega

def Op.movesBrowser : Op → Bool
  | .launch | .closeBrowser _ | .setPooled _ => true
  | _ => false

theorem movesBrowser_of_isOfStep {op : Op} (h : op.isOfStep = true) : op.movesBrowser = false := by
  cases op <;> first | rfl | cases h

theorem Exchange.stays {x : Exchange} (hx : x.op.movesBrowser = false) :
    x.launched = [] ∧ x.ended = [] ∧ ∀ {h h' : Host}, h.Serves x h' → h'.pooled = h.pooled := by
  obtain ⟨op, r⟩ := x
  cases op <;> first
    | exact ⟨rfl, rfl, fun hs => by rw [hs.1]; rfl⟩
    | cases hx

theorem balanced_of_stays (hl : ∀ x ∈ log, x.op.movesBrowser = false) : Balanced log := by
  intro h h' hp
  induction log generalizing h with
  | nil =>
    cases hp
    exact .refl _
  | cons x rest ih =>
    obtain ⟨hx, hrest⟩ := List.forall_mem_cons.mp hl
    obtain ⟨_, m, rfl, hs, hp⟩ := Host.plays_cons_iff.mp hp
    obtain ⟨hlaunched, hended, hpooled⟩ := Exchange.stays hx
    have hkept := ih hrest m hp
    rw [hpooled hs] at hkept
    rw [launched_cons, ended_cons, hlaunched, hended]
    exact hkept

end Logs
end Engine

namespace Pool

variable {c : Call} {log past : Log} {h h' : Host}

theorem hands_kept (hb : Begins c.attempt.run (past ++ log)) (hs : (slotRules c).Seen [] past)
    (hd : (desk past).Right h) (hp : h.Plays Eq log h') :
    (slotRules c).Seen [] (past ++ log) ∧
      (launched log ++ ((desk past).hand.toList ++ h.pooled.toList)).Perm
        (ended log ++ ((desk (past ++ log)).hand.toList ++ h'.pooled.toList)) := by
  induction log generalizing past h with
  | nil =>
    cases hp
    rw [List.append_nil]
    exact ⟨hs, .refl _⟩
  | cons x rest ih =>
    obtain ⟨_, m, rfl, hx, hp⟩ := Host.plays_cons_iff.mp hp
    have hl : past ++ x :: rest = past ++ [x] ++ rest := by simp
    rw [hl] at hb ⊢
    have hm : Allowed c past (desk past) x.op := (follows_attempt c).next hb.left hs
    have hd' : (desk (past ++ [x])).Right m := by
      rw [desk_concat]
      exact hd.next hx hm
    have hs' : (slotRules c).Seen [] (past ++ [x]) :=
      Prog.Rules.seen_concat_iff.mpr ⟨hs, sees_of_right hx hd⟩
    obtain ⟨hseen, hrest⟩ := ih hb hs' hd' hp
    refine ⟨hseen, List.perm_iff_count.mpr fun b => ?_⟩
    have hone := (browsers_kept hd hx hm).count_eq b
    have hmore := hrest.count_eq b
    rw [desk_concat] at hmore
    simp only [launched_cons, ended_cons, List.count_append] at hone hmore ⊢
    omega

theorem balanced_attempt {r : Except FlowError c.Value} (he : Ends c.attempt log r) :
    Balanced log := by
  intro h h' hp
  have hright : (desk []).Right h := fun v hv => by cases hv
  have hbegins : Begins c.attempt.run ([] ++ log) := he.begins
  obtain ⟨hseen, hkept⟩ := hands_kept hbegins trivial hright hp
  have hdesk : desk log = .start := (follows_attempt c).ends he hseen
  rw [List.nil_append, hdesk] at hkept
  exact hkept

theorem balanced_acquire {r : Except FlowError Session} (he : Ends acquire log r) : Balanced log :=
  balanced_attempt (c := .acquire) he

theorem balanced_shutdown {r : Except FlowError Unit} (he : Ends shutdown log r) : Balanced log :=
  balanced_attempt (c := .shutdown) he

theorem balanced_releaseCalls (s : Session) (was closed : Bool) (answer : Except FlowError Unit)
    (again : Bool) : Balanced (releaseCalls s was closed answer again) := by
  apply balanced_of_stays
  cases closed <;> cases again <;> simp [releaseCalls, closeCalls, discardCalls, Op.movesBrowser]

end Pool

theorem Interpreter.balanced_run {i : Interpreter} (hi : i.KeepsToSteps) {request : FlowRequest}
    {log : Log} {r : Except FlowError FlowReport} (he : Ends (i.run request) log r) :
    Balanced log := by
  cases hv : Grammar.validate request.steps with
  | error e =>
    obtain ⟨rfl, -⟩ := (ends_run_rejected_iff hv).mp he
    exact balanced_of_stays nofun
  | ok v =>
    rcases ends_run hv he with ⟨e, ha, -⟩ |
      ⟨session, opening, middle, report, was, closed, answer, again, rfl, ha, hm, -⟩
    · exact Pool.balanced_acquire ha
    · have hmiddle : Balanced middle :=
        balanced_of_stays fun x hx => movesBrowser_of_isOfStep (hi.runSteps hm x hx)
      exact ((Pool.balanced_acquire ha).append hmiddle).append
        (Pool.balanced_releaseCalls session was closed answer again)

/-- Every browser that was launched has been closed, and if the driver never names two browsers
alike, it has been closed once. -/
def Engine.AllClosed (log : Log) : Prop :=
  (launched log).Perm (ended log) ∧
    ((launched log).Nodup → ∀ b ∈ launched log, (ended log).count b = 1)

/-- A pool that was empty is empty again after a shutdown, and all that was launched is closed. -/
theorem Engine.Balanced.allClosed {working closing : Log} {closed : Except FlowError Unit}
    {h h' : Host} (hb : Balanced working) (hs : Ends Pool.shutdown closing closed)
    (hp : h.Plays Eq (working ++ closing) h') (hn : h.pooled = none) :
    AllClosed (working ++ closing) ∧ h'.pooled = none := by
  have hempty : h'.pooled = none := by
    obtain ⟨m, -, hshut⟩ := Host.plays_append_iff.mp hp
    obtain ⟨slot, rfl, -⟩ := Pool.ends_shutdown_iff.mp hs
    obtain ⟨-, rfl⟩ := Host.plays_shutdownCalls_iff.mp hshut
    rfl
  have hperm : (launched (working ++ closing)).Perm (ended (working ++ closing)) := by
    have hkept := hb.append (Pool.balanced_shutdown hs) h h' hp
    rwa [hn, hempty, Option.toList_none, List.append_nil, List.append_nil] at hkept
  refine ⟨⟨hperm, fun hnodup b hmem => ?_⟩, hempty⟩
  rw [← hperm.count_eq b]
  exact List.count_eq_one_of_mem hnodup hmem

end PageFlow
