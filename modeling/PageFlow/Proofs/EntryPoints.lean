import Mathlib
import PageFlow.Proofs.Console
import PageFlow.Proofs.RunSession
import PageFlow.Proofs.ServiceCalls

/-! One verdict on a flow wherever it enters. A run, the service and the two commands all ask the
grammar first, and a flow that it rejects is rejected by each of them with the same error and
without a trace: nothing is launched, counted or stored. -/
namespace PageFlow

open Engine
open Prog (Exec)

def FlowError.isVerdict : FlowError → Bool
  | emptyFlow | firstNotNavigate _ | grammarViolation _ _ _ _ => true
  | _ => false

theorem Grammar.isVerdict_of_checkPairs {k : Nat} {steps : List Step} {e : FlowError}
    (h : checkPairs k steps = .error e) : e.isVerdict = true := by
  induction steps generalizing k with
  | nil => cases h
  | cons a rest ih =>
    cases rest with
    | nil => cases h
    | cons b rest =>
      rw [checkPairs] at h
      split at h
      · exact ih h
      · obtain rfl := Except.error.inj h
        rfl

theorem Grammar.isVerdict_of_validate {steps : List Step} {e : FlowError}
    (h : validate steps = .error e) : e.isVerdict = true := by
  cases steps with
  | nil =>
    obtain rfl := Except.error.inj h
    rfl
  | cons s rest =>
    rw [validate] at h
    split at h
    · exact isVerdict_of_checkPairs h
    · obtain rfl := Except.error.inj h
      rfl

namespace CommandLine

/-- All entry points reject the steps with this error, and leave no trace of them. -/
structure Rejected (i : Interpreter) (steps : List Step) (e : FlowError) : Prop where
  run : ∀ (h h' : Host) log r, Ends (i.run ⟨steps⟩) log r ∧ h.Plays Eq log h' ↔
    log = [] ∧ r = .error e ∧ h' = h
  runRequest : ∀ user (h h' : Host) log r,
    Ends (Service.runRequest i ⟨steps⟩ user) log r ∧ h.Plays Eq log h' ↔
      log = [] ∧ r = .error e ∧ h' = h
  saveFlow : ∀ name (h h' : Host) log r,
    Ends (Service.saveFlow name steps) log r ∧ h.Plays Eq log h' ↔
      log = [] ∧ r = .error e ∧ h' = h
  validateCommand : ∀ s arguments path reading rest status,
    parse s arguments = .ok (.validate path) → Reads path reading (.ok ⟨steps⟩) →
      (Exec (program s arguments) (reading ++ rest) status ↔
        ∃ date, rest = complaint e date ∧ status = 2)
  runCommand : ∀ s arguments a reading configuring config rest status h',
    parse s arguments = .ok (.run a) → Reads a.request reading (.ok ⟨steps⟩) →
      Configures a.config configuring (.ok config) →
      (Exec (program s arguments) (reading ++ (configuring ++ rest)) status ∧
        Host.start.Plays Eq (engineLog rest) h' ↔
          ∃ date, rest = engineCalls (a.browser config) (Pool.shutdownCalls none (.ok ())) ++
            complaint e date ∧ status = 2 ∧ h' = Host.start)

/-- Some entry point may do something else with the steps than to find fault with them. -/
inductive Accepts (i : Interpreter) (steps : List Step) : Prop
  | run {log r} : Ends (i.run ⟨steps⟩) log r → (∀ e, r = .error e → e.isVerdict = false) →
      Accepts i steps
  | runRequest {user log r} : Ends (Service.runRequest i ⟨steps⟩ user) log r →
      (∀ e, r = .error e → e.isVerdict = false) → Accepts i steps
  | saveFlow {name log r} : Ends (Service.saveFlow name steps) log r →
      (∀ e, r = .error e → e.isVerdict = false) → Accepts i steps
  | validateCommand {path reading rest r} : Reads path reading (.ok ⟨steps⟩) →
      Exec (perform (.validate path)).run (reading ++ rest) r →
      (∀ e, r = .error e → e.isVerdict = false) → Accepts i steps
  | runCommand {a reading configuring config rest r} : Reads a.request reading (.ok ⟨steps⟩) →
      Configures a.config configuring (.ok config) →
      Exec (perform (.run a)).run (reading ++ (configuring ++ rest)) r →
      (∀ e, r = .error e → e.isVerdict = false) → Accepts i steps

/-- No entry point finds fault with the steps: where one fails, it fails later. -/
structure Passes (i : Interpreter) (steps : List Step) : Prop where
  run : ∀ log e, Ends (i.run ⟨steps⟩) log (.error e) → Pool.IsSession e
  runRequest : ∀ user log e, Ends (Service.runRequest i ⟨steps⟩ user) log (.error e) →
    Pool.IsSession e
  saveFlow : ∀ name log r, Ends (Service.saveFlow name steps) log r →
    ∃ f : FlowDefinition, f.steps = steps ∧ r = .ok f
  validateCommand : ∀ path reading rest r, Reads path reading (.ok ⟨steps⟩) →
    Exec (perform (.validate path)).run (reading ++ rest) r → r = .ok true
  runCommand : ∀ a reading configuring config rest e, Reads a.request reading (.ok ⟨steps⟩) →
    Configures a.config configuring (.ok config) →
    Exec (perform (.run a)).run (reading ++ (configuring ++ rest)) (.error e) →
    Pool.IsSession e ∨ ∃ path text, (⟨.writeFile path text, .error e⟩ : Exchange) ∈ rest

section Rejections

variable {i : Interpreter} {steps : List Step} {e : FlowError} {log : Log}

theorem ends_runRequest_rejected_iff (hv : Grammar.validate steps = .error e) {user : String}
    {log : Engine.Log} {r : Except FlowError FlowResultRecord} :
    Ends (Service.runRequest i ⟨steps⟩ user) log r ↔ log = [] ∧ r = .error e := by
  rw [Service.runRequest, Service.ends_execute_iff]
  constructor
  · rintro (he | ⟨id, created, hb⟩)
    · obtain ⟨rfl, hr⟩ := (Interpreter.ends_run_rejected_iff hv).mp he
      exact ⟨rfl, congrArg Except.error (Except.error.inj hr)⟩
    · obtain ⟨-, hr⟩ := (Interpreter.ends_run_rejected_iff hv).mp hb
      cases hr
  · rintro ⟨rfl, rfl⟩
    exact .failed ((Interpreter.ends_run_rejected_iff hv).mpr ⟨rfl, rfl⟩)

theorem ends_saveFlow_rejected_iff (hv : Grammar.validate steps = .error e) {name : String}
    {log : Engine.Log} {r : Except FlowError FlowDefinition} :
    Ends (Service.saveFlow name steps) log r ↔ log = [] ∧ r = .error e := by
  rw [Service.saveFlow, hv]
  exact Prog.exec_done_iff _ _

theorem traceless_iff {a : Attempt τ} {h h' : Host} {log : Engine.Log} {r : Except FlowError τ}
    (ha : Ends a log r ↔ log = [] ∧ r = .error e) :
    Ends a log r ∧ h.Plays Eq log h' ↔ log = [] ∧ r = .error e ∧ h' = h := by
  rw [ha]
  constructor
  · rintro ⟨⟨rfl, rfl⟩, ⟨⟩⟩
    exact ⟨rfl, rfl, rfl⟩
  · rintro ⟨rfl, rfl, rfl⟩
    exact ⟨⟨rfl, rfl⟩, .nil _⟩

theorem program_validate_rejected_iff (hv : Grammar.validate steps = .error e) {s : Settings}
    {arguments : List String} {path : String} {reading rest : Log} {status : Nat}
    (hp : parse s arguments = .ok (.validate path)) (hr : Reads path reading (.ok ⟨steps⟩)) :
    Exec (program s arguments) (reading ++ rest) status ↔
      ∃ date, rest = complaint e date ∧ status = 2 := by
  rw [exec_program_iff hp]
  constructor
  · rintro (⟨good, hc, rfl⟩ | ⟨work, e', date, hl, hc, rfl⟩)
    · rcases (exec_validate_iff.mp hc).rest hr (List.append_nil _) with ⟨_, -, he, -⟩ | ⟨hn, -⟩
      · cases he
      · rw [hv] at hn
        cases hn
    · rcases (exec_validate_iff.mp hc).rest hr hl.symm with ⟨e, hv', he, rfl⟩ | ⟨hn, -⟩
      · obtain rfl := Except.error.inj he
        obtain rfl := Except.error.inj (hv.symm.trans hv')
        exact ⟨date, rfl, rfl⟩
      · rw [hv] at hn
        cases hn
  · rintro ⟨date, rfl, rfl⟩
    exact Or.inr ⟨reading, e, date, rfl, exec_validate_iff.mpr (.rejected hr hv), rfl⟩

/-- A rejected flow comes to no session, and the pool is shut down as it was set up. -/
theorem Runs.rejected (hv : Grammar.validate steps = .error e) {a : RunArguments}
    {r : Except FlowError Bool} {reading configuring rest tail : Log} {config : EngineConfig}
    (h : Runs a log r) (hr : Reads a.request reading (.ok ⟨steps⟩))
    (hc : Configures a.config configuring (.ok config))
    (hl : log ++ tail = reading ++ (configuring ++ rest)) :
    r = .error e ∧ ∃ slot answer, (slot = none → answer = .ok ()) ∧
      rest = engineCalls (a.browser config) (Pool.shutdownCalls slot answer) ++ tail := by
  obtain ⟨w, delivering, hrequest, rfl, hd, rfl⟩ := h.rest hr hc hl
  have hw := w.works
  rw [hrequest] at hw
  obtain ⟨hworking, houtcome⟩ := (Interpreter.ends_run_rejected_iff hv).mp hw
  obtain ⟨slot, hclosing, hn⟩ := Pool.ends_shutdown_iff.mp w.closes
  rw [houtcome] at hd
  cases hd
  refine ⟨rfl, slot, w.closed, hn, ?_⟩
  rw [Worked.engine, hworking, hclosing, List.nil_append, List.append_nil]

theorem program_run_rejected_iff (hv : Grammar.validate steps = .error e) {s : Settings}
    {arguments : List String} {a : RunArguments} {reading configuring rest : Log}
    {config : EngineConfig} {status : Nat} {h' : Host}
    (hp : parse s arguments = .ok (.run a)) (hr : Reads a.request reading (.ok ⟨steps⟩))
    (hc : Configures a.config configuring (.ok config)) :
    Exec (program s arguments) (reading ++ (configuring ++ rest)) status ∧
      Host.start.Plays Eq (engineLog rest) h' ↔
        ∃ date, rest = engineCalls (a.browser config) (Pool.shutdownCalls none (.ok ())) ++
          complaint e date ∧ status = 2 ∧ h' = Host.start := by
  have hlog (slot answer date) : engineLog (engineCalls (a.browser config)
      (Pool.shutdownCalls slot answer) ++ complaint e date) = Pool.shutdownCalls slot answer := by
    rw [engineLog_append, engineLog_engineCalls]
    exact List.append_nil _
  rw [exec_program_iff hp]
  constructor
  · rintro ⟨⟨good, hrun, -⟩ | ⟨work, e', date, hl, hrun, rfl⟩, hplays⟩
    · obtain ⟨he, -⟩ := (exec_run_iff.mp hrun).rejected hv hr hc (List.append_nil _)
      cases he
    · obtain ⟨he, slot, answer, hn, rfl⟩ := (exec_run_iff.mp hrun).rejected hv hr hc hl.symm
      obtain rfl := Except.error.inj he
      rw [hlog] at hplays
      obtain ⟨rfl, rfl⟩ := Host.plays_shutdownCalls_iff.mp hplays
      obtain rfl := hn rfl
      exact ⟨date, rfl, rfl, rfl⟩
  · rintro ⟨date, rfl, rfl, rfl⟩
    rw [hlog]
    have hworks : Ends ((a.interpreter config).run ⟨steps⟩) [] (.error e) :=
      (Interpreter.ends_run_rejected_iff hv).mpr ⟨rfl, rfl⟩
    have hcloses : Ends Pool.shutdown (Pool.shutdownCalls none (.ok ())) (.ok ()) :=
      Pool.ends_shutdown_iff.mpr ⟨none, rfl, fun _ => rfl⟩
    have hrun := Runs.worked ⟨reading, _, configuring, config, [], _, _, _, hr, hc, hworks, hcloses⟩
      (.failed e)
    refine ⟨Or.inr ⟨_, e, date, ?_, exec_run_iff.mpr hrun, rfl⟩,
      Host.plays_shutdownCalls_iff.mpr ⟨rfl, rfl⟩⟩
    simp [Worked.calls, Worked.engine]

end Rejections

theorem rejected_of_validate (i : Interpreter) {steps : List Step} {e : FlowError}
    (hv : Grammar.validate steps = .error e) : Rejected i steps e where
  run _ _ _ _ := traceless_iff (Interpreter.ends_run_rejected_iff hv)
  runRequest _ _ _ _ _ := traceless_iff (ends_runRequest_rejected_iff hv)
  saveFlow _ _ _ _ _ := traceless_iff (ends_saveFlow_rejected_iff hv)
  validateCommand _ _ _ _ _ _ hp hr := program_validate_rejected_iff hv hp hr
  runCommand _ _ _ _ _ _ _ _ _ hp hr hc := program_run_rejected_iff hv hp hr hc

theorem Accepts.validate {i : Interpreter} {steps : List Step} (h : Accepts i steps) :
    Grammar.validate steps = .ok () := by
  cases hv : Grammar.validate steps with
  | ok v => rfl
  | error e =>
    have hverdict : e.isVerdict = true := Grammar.isVerdict_of_validate hv
    have hn {τ : Type} {r : Except FlowError τ} (hr : r = .error e)
        (hk : ∀ e, r = .error e → e.isVerdict = false) : False := by
      rw [hk e hr] at hverdict
      cases hverdict
    exfalso
    cases h with
    | run he hk => exact hn ((Interpreter.ends_run_rejected_iff hv).mp he).2 hk
    | runRequest he hk => exact hn ((ends_runRequest_rejected_iff hv).mp he).2 hk
    | saveFlow he hk => exact hn ((ends_saveFlow_rejected_iff hv).mp he).2 hk
    | validateCommand hr he hk =>
      rcases (exec_validate_iff.mp he).rest hr (List.append_nil _) with ⟨e', hv', h, -⟩ | ⟨hv', -⟩
      · obtain rfl := Except.error.inj (hv.symm.trans hv')
        exact hn h hk
      · cases hv.symm.trans hv'
    | runCommand hr hc he hk =>
      exact hn ((exec_run_iff.mp he).rejected hv hr hc (List.append_nil _)).1 hk

section Acceptances

variable {i : Interpreter} {steps : List Step} {e : FlowError}

theorem isSession_of_run (hv : Grammar.validate steps = .ok ()) {log : Engine.Log}
    (h : Ends (i.run ⟨steps⟩) log (.error e)) : Pool.IsSession e := by
  rcases Interpreter.ends_run hv h with ⟨e', ha, he⟩ | ⟨_, _, _, _, _, _, _, _, -, -, -, he⟩
  · rw [Except.error.inj he]
    exact (Pool.projections_acquire_error ha).1
  · cases he

theorem ends_saveFlow_accepted (hv : Grammar.validate steps = .ok ()) {name : String}
    {log : Engine.Log} {r : Except FlowError FlowDefinition}
    (h : Ends (Service.saveFlow name steps) log r) :
    ∃ f : FlowDefinition, f.steps = steps ∧ r = .ok f := by
  rw [Service.saveFlow, hv] at h
  obtain ⟨id, _, rfl, hd⟩ := (ends_call_bind_iff .freshId _ _).mp h
  obtain ⟨created, _, rfl, hs⟩ := (ends_call_bind_iff .date _ _).mp hd
  obtain ⟨_, _, rfl, hp⟩ := (ends_call_bind_iff (.saveFlow _) _ _).mp hs
  obtain ⟨rfl, rfl⟩ := (ends_pure_iff _ _).mp hp
  exact ⟨_, rfl, rfl⟩

end Acceptances

theorem passes_of_validate (i : Interpreter) {steps : List Step}
    (hv : Grammar.validate steps = .ok ()) : Passes i steps where
  run _ _ h := isSession_of_run hv h
  runRequest user log e h := by
    cases Service.ends_execute_iff.mp h with
    | failed he => exact isSession_of_run hv he
  saveFlow _ _ _ h := ends_saveFlow_accepted hv h
  validateCommand path reading rest r hr h := by
    rcases (exec_validate_iff.mp h).rest hr (List.append_nil _) with ⟨e, he, -⟩ | ⟨-, hr⟩
    · cases hv.symm.trans he
    · exact hr
  runCommand a reading configuring config rest e hr hc h := by
    obtain ⟨w, delivering, hrequest, rfl, hd, rfl⟩ :=
      (exec_run_iff.mp h).rest hr hc (List.append_nil _)
    rcases hands_error_iff.mp hd with ⟨houtcome, -⟩ | ⟨report, path, -, -, rfl⟩
    · have hw := w.works
      rw [hrequest, houtcome] at hw
      exact Or.inl (isSession_of_run hv hw)
    · exact Or.inr ⟨path, report.toJson.pretty, by simp⟩

/-- One verdict for all entry points. -/
theorem entry_points_agree (i : Interpreter) (steps : List Step) :
    (∀ e, Grammar.validate steps = .error e → Rejected i steps e) ∧
    (Accepts i steps → Grammar.validate steps = .ok () ∧ Passes i steps) :=
  ⟨fun _ hv => rejected_of_validate i hv,
    fun ha => ⟨ha.validate, passes_of_validate i ha.validate⟩⟩

def clickingText : String :=
  "\x7b\"steps\":[\x7b\"label\":\"clickElement\",\"action\":\"clickElement\"\x7d]\x7d"

def navigatingText : String :=
  "\x7b\"steps\":[\x7b\"label\":\"navigateTo\",\"action\":\"navigateTo\"," ++
    "\"data\":\x7b\"url\":\"u\"\x7d\x7d]\x7d"

theorem reads_clickingText :
    Reads "flow" [⟨.readFile "flow", .ok clickingText⟩] (.ok ⟨[Interpreter.clicking]⟩) :=
  .read (by cbv)

theorem reads_navigatingText :
    Reads "flow" [⟨.readFile "flow", .ok navigatingText⟩] (.ok ⟨[Interpreter.navigating]⟩) :=
  .read (by cbv)

/-- A flow that begins with a click is rejected, by the command that checks it too; one that only
navigates, which this command accepts, passes everywhere. -/
theorem entry_points_agree_samples :
    Rejected (.standard .default) [Interpreter.clicking] (.firstNotNavigate .click) ∧
      (∀ date, Exec (program ⟨none, none⟩ ["validate", "flow"])
        ([⟨.readFile "flow", .ok clickingText⟩] ++ complaint (.firstNotNavigate .click) date) 2) ∧
      Passes (.standard .default) [Interpreter.navigating] := by
  have hr := (entry_points_agree (.standard .default) [Interpreter.clicking]).1 _ rfl
  have hc := exec_validate_iff.mpr (.accepted reads_navigatingText rfl)
  refine ⟨hr, fun date => ?_, ?_⟩
  · exact (hr.validateCommand _ _ _ _ _ _ rfl reads_clickingText).mpr ⟨date, rfl, rfl⟩
  · exact ((entry_points_agree _ _).2 (.validateCommand reads_navigatingText hc nofun)).2

end CommandLine
end PageFlow
