import PageFlow.CommandLine.Program
import PageFlow.Proofs.Execution

/-! What the command line does, as a list of its calls. The calls of the engine stand in it as they
are; every way in which a run goes is one of a few, told by how far it gets. -/
namespace PageFlow
namespace CommandLine

open Prog (Exec)

abbrev Exchange := Prog.Exchange Op Reply
abbrev Log := List Exchange

def engineCall (config : BrowserConfig) (x : Engine.Exchange) : Exchange :=
  ⟨.engine config x.op, x.reply⟩

def engineCalls (config : BrowserConfig) (log : Engine.Log) : Log := log.map (engineCall config)

def Exchange.engine? : Exchange → Option Engine.Exchange
  | ⟨.engine _ op, r⟩ => some ⟨op, r⟩
  | _ => none

def engineLog (log : Log) : Engine.Log := log.filterMap Exchange.engine?

@[simp] theorem engineLog_nil : engineLog [] = [] := rfl

@[simp] theorem engineLog_append (first second : Log) :
    engineLog (first ++ second) = engineLog first ++ engineLog second := List.filterMap_append

@[simp] theorem engineCalls_append (config : BrowserConfig) (first second : Engine.Log) :
    engineCalls config (first ++ second) = engineCalls config first ++ engineCalls config second :=
  List.map_append

@[simp] theorem engineLog_engineCalls (config : BrowserConfig) (log : Engine.Log) :
    engineLog (engineCalls config log) = log := by
  induction log with
  | nil => rfl
  | cons x log ih => exact congrArg (x :: ·) ih

variable {log : Log}

theorem exec_ask_iff {op : Op} {r : Reply op} : Exec (ask op) log r ↔ log = [⟨op, r⟩] :=
  Prog.exec_call_iff op r

theorem exec_engine_iff {config : BrowserConfig} {p : Job α} {a : α} :
    Exec (p.expand fun op => ask (.engine config op)) log a ↔
      ∃ calls, log = engineCalls config calls ∧ Exec p calls a := by
  have hask (op : Engine.Op) (next : Engine.Reply op → Job α) :
      (Prog.ask op next).expand (fun op => ask (.engine config op)) =
        Prog.ask (.engine config op) fun r =>
          (next r).expand fun op => ask (.engine config op) := rfl
  constructor
  · intro h
    induction p generalizing log with
    | done b =>
      obtain ⟨rfl, rfl⟩ := (Prog.exec_done_iff _ _).mp h
      exact ⟨[], rfl, .done _⟩
    | ask op next ih =>
      rw [hask] at h
      obtain ⟨r, rest, rfl, hr⟩ := (Prog.exec_ask_iff _ _ _).mp h
      obtain ⟨calls, rfl, hc⟩ := ih r hr
      exact ⟨⟨op, r⟩ :: calls, rfl, (Prog.exec_ask_iff op next a).mpr ⟨r, calls, rfl, hc⟩⟩
  · rintro ⟨calls, rfl, h⟩
    induction h with
    | done a => exact .done a
    | @ask op next log a r _ ih =>
      rw [hask, Prog.exec_ask_iff]
      exact ⟨r, engineCalls config log, rfl, ih⟩

theorem exec_inEngine_iff {config : BrowserConfig} {a : Attempt τ} {r : Except FlowError τ} :
    Exec (inEngine config a) log r ↔
      ∃ calls, log = engineCalls config calls ∧ Engine.Ends a calls r := exec_engine_iff

def complaint (e : FlowError) (date : Moment) : Log :=
  [⟨.date, date⟩, ⟨.printError ((ErrorBody.ofError e date.millisText).toJson.pretty ++ "\n"), ()⟩]

theorem exec_finish_error_iff {e : FlowError} {status : Nat} :
    Exec (finish (.error e)) log status ↔ ∃ date, log = complaint e date ∧ status = 2 := by
  have hfinish : finish (.error e) = Prog.ask .date fun date => Prog.ask
      (.printError ((ErrorBody.ofError e (Moment.millisText date)).toJson.pretty ++ "\n"))
        fun _ => Prog.done 2 := rfl
  rw [hfinish, Prog.exec_ask_iff]
  simp only [Prog.exec_ask_iff, Prog.exec_done_iff]
  constructor
  · rintro ⟨date, _, rfl, _, _, rfl, rfl, rfl⟩
    exact ⟨date, rfl, rfl⟩
  · rintro ⟨date, rfl, rfl⟩
    exact ⟨date, _, rfl, (), [], rfl, rfl, rfl⟩

theorem exec_program_iff {s : Settings} {arguments : List String} {c : Command} {status : Nat}
    (hp : parse s arguments = .ok c) : Exec (program s arguments) log status ↔
      (∃ good : Bool, Exec (perform c).run log (.ok good) ∧ status = if good then 0 else 1) ∨
        ∃ work e date, log = work ++ complaint e date ∧ Exec (perform c).run work (.error e) ∧
          status = 2 := by
  have hprogram : program s arguments = (perform c).run >>= finish := by rw [program, hp]
  rw [hprogram, Prog.exec_bind_iff]
  constructor
  · rintro ⟨work, r, last, rfl, hw, hf⟩
    rcases r with e | (_ | _)
    · obtain ⟨date, rfl, rfl⟩ := exec_finish_error_iff.mp hf
      exact Or.inr ⟨work, e, date, rfl, hw, rfl⟩
    · obtain ⟨rfl, rfl⟩ := (Prog.exec_done_iff _ _).mp hf
      exact Or.inl ⟨false, by rwa [List.append_nil], rfl⟩
    · obtain ⟨rfl, rfl⟩ := (Prog.exec_done_iff _ _).mp hf
      exact Or.inl ⟨true, by rwa [List.append_nil], rfl⟩
  · rintro (⟨good, hw, rfl⟩ | ⟨work, e, date, rfl, hw, rfl⟩)
    · refine ⟨log, .ok good, [], (List.append_nil _).symm, hw, ?_⟩
      cases good <;> exact .done _
    · exact ⟨work, .error e, _, rfl, hw, exec_finish_error_iff.mpr ⟨date, rfl, rfl⟩⟩

/-- How a request is read: it cannot be read, or what is read is decoded or not. -/
inductive Reads (path : String) : Log → Except FlowError FlowRequest → Prop
  | unreadable (e) : Reads path [⟨.readFile path, .error e⟩] (.error e)
  | undecodable {text flaw} : Json.ofText FlowRequest.read text = .error flaw →
      Reads path [⟨.readFile path, .ok text⟩] (.error (.json (flaw.messageIn text)))
  | read {text request} : Json.ofText FlowRequest.read text = .ok request →
      Reads path [⟨.readFile path, .ok text⟩] (.ok request)

theorem exec_readRequest_iff {path : String} {r : Except FlowError FlowRequest} :
    Exec (readRequest path).run log r ↔ Reads path log r := by
  constructor
  · intro h
    rcases (Prog.exec_then_iff _ _ _).mp h with ⟨e, rfl, he⟩ | ⟨first, text, rest, rfl, ht, hr⟩
    · obtain ⟨_, rfl, rfl⟩ := (Prog.exec_answer_iff rfl _).mp he
      exact .unreadable e
    · obtain ⟨_, rfl, rfl⟩ := (Prog.exec_answer_iff rfl _).mp ht
      split at hr
      · rename_i request hd
        obtain ⟨rfl, rfl⟩ := (Prog.exec_done_iff _ _).mp hr
        exact .read hd
      · rename_i flaw hd
        obtain ⟨rfl, rfl⟩ := (Prog.exec_done_iff _ _).mp hr
        exact .undecodable hd
  · intro h
    cases h with
    | unreadable e => exact .ask _ (.done _)
    | @undecodable text flaw hd =>
      refine (Prog.exec_then_iff _ _ _).mpr (Or.inr ⟨_, text, [], rfl, .ask _ (.done _), ?_⟩)
      rw [hd]
      exact .done _
    | @read text request hd =>
      refine (Prog.exec_then_iff _ _ _).mpr (Or.inr ⟨_, text, [], rfl, .ask _ (.done _), ?_⟩)
      rw [hd]
      exact .done _

/-- How a configuration is read, if there is one to read. -/
inductive Configures : Option String → Log → Except FlowError EngineConfig → Prop
  | default : Configures none [] (.ok .default)
  | file (path contents) : Configures (some path) [⟨.readFile path, contents⟩]
      (EngineConfig.ofFile path contents)

theorem exec_readConfig_iff {path : Option String} {r : Except FlowError EngineConfig} :
    Exec (readConfig path).run log r ↔ Configures path log r := by
  cases path with
  | none =>
    constructor
    · intro h
      obtain ⟨rfl, rfl⟩ := (Prog.exec_done_iff _ _).mp h
      exact .default
    · rintro ⟨⟩
      exact .done _
  | some path =>
    constructor
    · intro h
      obtain ⟨first, contents, rest, rfl, hc, hr⟩ := (Prog.exec_lift_then_iff _ _ _).mp h
      obtain rfl := exec_ask_iff.mp hc
      obtain ⟨rfl, rfl⟩ := (Prog.exec_done_iff _ _).mp hr
      exact .file path contents
    · rintro ⟨⟩
      exact .ask _ (.done _)

inductive Delivers (report : FlowReport) : Option String → Log → Except FlowError Unit → Prop
  | printed : Delivers report none [⟨.print (report.toJson.pretty ++ "\n"), ()⟩] (.ok ())
  | written (path answer) : Delivers report (some path)
      [⟨.writeFile path report.toJson.pretty, answer⟩] answer

theorem exec_deliver_iff {output : Option String} {report : FlowReport}
    {r : Except FlowError Unit} : Exec (deliver output report).run log r ↔ Delivers report output log r := by
  cases output with
  | none =>
    constructor
    · intro h
      obtain ⟨_, rfl, hc⟩ := (Prog.exec_lift_iff _ _).mp h
      obtain rfl := exec_ask_iff.mp hc
      exact .printed
    · rintro ⟨⟩
      exact .ask _ (.done _)
  | some path =>
    constructor
    · intro h
      obtain ⟨_, rfl, rfl⟩ := (Prog.exec_answer_iff rfl _).mp h
      exact .written path _
    · rintro ⟨⟩
      exact .ask _ (.done _)

/-- What follows the work of the engine: an error is passed on, a report is handed over. -/
inductive Hands (output : Option String) :
    Except FlowError FlowReport → Log → Except FlowError Bool → Prop
  | failed (e) : Hands output (.error e) [] (.error e)
  | handed {report delivering answer} : Delivers report output delivering answer →
      Hands output (.ok report) delivering (answer.map fun _ => report.success)

theorem exec_hands_iff {output : Option String} {outcome : Except FlowError FlowReport}
    {r : Except FlowError Bool} :
    Exec (do
      let report ← ofExcept outcome
      deliver output report
      pure report.success : ExceptT FlowError (Prog Op Reply) Bool).run log r ↔
      Hands output outcome log r := by
  cases outcome with
  | error e =>
    constructor
    · intro h
      obtain ⟨rfl, rfl⟩ := (Prog.exec_done_iff _ _).mp h
      exact .failed e
    · rintro ⟨⟩
      exact .done _
  | ok report =>
    have hgiven : (do
        let report ← ofExcept (.ok report)
        deliver output report
        pure report.success : ExceptT FlowError (Prog Op Reply) Bool) =
          deliver output report >>= fun _ => pure report.success := rfl
    rw [hgiven, Prog.exec_then_iff]
    simp only [exec_deliver_iff]
    constructor
    · rintro (⟨e, rfl, hd⟩ | ⟨delivering, v, _, rfl, hd, hp⟩)
      · exact .handed hd
      · obtain ⟨rfl, rfl⟩ := (Prog.exec_done_iff _ _).mp hp
        rw [List.append_nil]
        exact .handed hd
    · rintro ⟨⟩
      rename_i answer hd
      cases answer with
      | error e => exact Or.inl ⟨e, rfl, hd⟩
      | ok v => exact Or.inr ⟨log, v, [], (List.append_nil _).symm, hd, .done _⟩

theorem hands_ok_iff {output : Option String} {outcome : Except FlowError FlowReport}
    {good : Bool} : Hands output outcome log (.ok good) ↔
      ∃ report, outcome = .ok report ∧ Delivers report output log (.ok ()) ∧
        good = report.success := by
  constructor
  · generalize hr : (Except.ok good : Except FlowError Bool) = r
    rintro (e | @⟨report, delivering, answer, hd⟩)
    · cases hr
    · cases answer with
      | error e => cases hr
      | ok v => exact ⟨report, rfl, hd, Except.ok.inj hr⟩
  · rintro ⟨report, rfl, hd, rfl⟩
    exact .handed hd

theorem hands_error_iff {output : Option String} {outcome : Except FlowError FlowReport}
    {e : FlowError} : Hands output outcome log (.error e) ↔
      (outcome = .error e ∧ log = []) ∨ ∃ report path, outcome = .ok report ∧
        output = some path ∧ log = [⟨.writeFile path report.toJson.pretty, .error e⟩] := by
  constructor
  · generalize hr : (Except.error e : Except FlowError Bool) = r
    rintro (e' | @⟨report, delivering, answer, hd⟩)
    · obtain rfl := Except.error.inj hr
      exact Or.inl ⟨rfl, rfl⟩
    · cases answer with
      | ok v => cases hr
      | error e' =>
        obtain rfl := Except.error.inj hr
        cases hd with
        | written path => exact Or.inr ⟨report, path, rfl, rfl, rfl⟩
  · rintro (⟨rfl, rfl⟩ | ⟨report, path, rfl, rfl, rfl⟩)
    · exact .failed e
    · exact .handed (.written path (.error e))

def RunArguments.browser (a : RunArguments) (config : EngineConfig) : BrowserConfig :=
  browserOf config.browser a

def RunArguments.interpreter (a : RunArguments) (config : EngineConfig) : Interpreter :=
  .standard { config with browser := a.browser config }

/-- A run that has read its request and its configuration, with all that its engine then does: it
runs the request, and shuts its pool down. -/
structure Worked (a : RunArguments) where
  reading : Log
  request : FlowRequest
  configuring : Log
  config : EngineConfig
  working : Engine.Log
  outcome : Except FlowError FlowReport
  closing : Engine.Log
  closed : Except FlowError Unit
  reads : Reads a.request reading (.ok request)
  configures : Configures a.config configuring (.ok config)
  works : Engine.Ends ((a.interpreter config).run request) working outcome
  closes : Engine.Ends Pool.shutdown closing closed

def Worked.engine {a : RunArguments} (w : Worked a) : Engine.Log := w.working ++ w.closing

def Worked.calls {a : RunArguments} (w : Worked a) : Log :=
  w.reading ++ (w.configuring ++ engineCalls (a.browser w.config) w.engine)

/-- How a run goes. It ends where its request or its configuration cannot be read; otherwise the
report of its engine is handed over. -/
inductive Runs (a : RunArguments) : Log → Except FlowError Bool → Prop
  | unread {reading e} : Reads a.request reading (.error e) → Runs a reading (.error e)
  | unconfigured {reading request configuring e} : Reads a.request reading (.ok request) →
      Configures a.config configuring (.error e) → Runs a (reading ++ configuring) (.error e)
  | worked (w : Worked a) {delivering r} : Hands a.output w.outcome delivering r →
      Runs a (w.calls ++ delivering) r

theorem exec_run_iff {a : RunArguments} {r : Except FlowError Bool} :
    Exec (run a).run log r ↔ Runs a log r := by
  constructor
  · intro h
    rcases (Prog.exec_then_iff _ _ _).mp h with ⟨e, rfl, he⟩ | ⟨reading, request, _, rfl, hr, h₁⟩
    · exact .unread (exec_readRequest_iff.mp he)
    rcases (Prog.exec_then_iff _ _ _).mp h₁ with ⟨e, rfl, he⟩ | ⟨_, config, _, rfl, hc, h₂⟩
    · exact .unconfigured (exec_readRequest_iff.mp hr) (exec_readConfig_iff.mp he)
    obtain ⟨_, outcome, _, rfl, hw, h₃⟩ := (Prog.exec_lift_then_iff _ _ _).mp h₂
    obtain ⟨working, rfl, hends⟩ := exec_inEngine_iff.mp hw
    obtain ⟨_, closed, delivering, rfl, hs, h₄⟩ := (Prog.exec_lift_then_iff _ _ _).mp h₃
    obtain ⟨closing, rfl, hshut⟩ := exec_inEngine_iff.mp hs
    have hruns := Runs.worked ⟨_, request, _, config, working, outcome, closing, closed,
      exec_readRequest_iff.mp hr, exec_readConfig_iff.mp hc, hends, hshut⟩ (exec_hands_iff.mp h₄)
    simpa [Worked.calls, Worked.engine, RunArguments.browser] using hruns
  · intro h
    cases h with
    | unread hr =>
      exact (Prog.exec_then_iff _ _ _).mpr (Or.inl ⟨_, rfl, exec_readRequest_iff.mpr hr⟩)
    | unconfigured hr hc =>
      refine (Prog.exec_then_iff _ _ _).mpr (Or.inr ⟨_, _, _, rfl, exec_readRequest_iff.mpr hr, ?_⟩)
      exact (Prog.exec_then_iff _ _ _).mpr (Or.inl ⟨_, rfl, exec_readConfig_iff.mpr hc⟩)
    | @worked w delivering r hd =>
      have hl : w.calls ++ delivering = w.reading ++ (w.configuring ++
          (engineCalls (a.browser w.config) w.working ++
            (engineCalls (a.browser w.config) w.closing ++ delivering))) := by
        simp [Worked.calls, Worked.engine]
      rw [hl]
      refine (Prog.exec_then_iff _ _ _).mpr
        (Or.inr ⟨_, _, _, rfl, exec_readRequest_iff.mpr w.reads, ?_⟩)
      refine (Prog.exec_then_iff _ _ _).mpr
        (Or.inr ⟨_, _, _, rfl, exec_readConfig_iff.mpr w.configures, ?_⟩)
      refine (Prog.exec_lift_then_iff _ _ _).mpr
        ⟨_, _, _, rfl, exec_inEngine_iff.mpr ⟨_, rfl, w.works⟩, ?_⟩
      exact (Prog.exec_lift_then_iff _ _ _).mpr
        ⟨_, _, _, rfl, exec_inEngine_iff.mpr ⟨_, rfl, w.closes⟩, exec_hands_iff.mpr hd⟩

/-- What a run does after it has read its request and its configuration. -/
theorem Runs.rest {a : RunArguments} {r : Except FlowError Bool} (h : Runs a log r)
    {reading configuring rest tail : Log} {request : FlowRequest} {config : EngineConfig}
    (hr : Reads a.request reading (.ok request)) (hc : Configures a.config configuring (.ok config))
    (hl : log ++ tail = reading ++ (configuring ++ rest)) :
    ∃ (w : Worked a) (delivering : Log), w.request = request ∧ w.config = config ∧
      Hands a.output w.outcome delivering r ∧
      rest = engineCalls (a.browser config) w.engine ++ delivering ++ tail := by
  cases h with
  | unread hr' =>
    obtain ⟨-, he, -⟩ := (exec_readRequest_iff.mpr hr').unique (exec_readRequest_iff.mpr hr) hl
    cases he
  | unconfigured hr' hc' =>
    rw [List.append_assoc] at hl
    obtain ⟨-, -, hl⟩ := (exec_readRequest_iff.mpr hr').unique (exec_readRequest_iff.mpr hr) hl
    obtain ⟨-, he, -⟩ := (exec_readConfig_iff.mpr hc').unique (exec_readConfig_iff.mpr hc) hl
    cases he
  | @worked w delivering r hd =>
    rw [Worked.calls, List.append_assoc, List.append_assoc, List.append_assoc] at hl
    obtain ⟨-, hrequest, hl⟩ :=
      (exec_readRequest_iff.mpr w.reads).unique (exec_readRequest_iff.mpr hr) hl
    obtain ⟨-, hconfig, hl⟩ :=
      (exec_readConfig_iff.mpr w.configures).unique (exec_readConfig_iff.mpr hc) hl
    obtain rfl := Except.ok.inj hconfig
    exact ⟨w, delivering, Except.ok.inj hrequest, rfl, hd, by rw [← hl, List.append_assoc]⟩

theorem Runs.handed {a : RunArguments} {r : Except FlowError Bool} (h : Runs a log r)
    (w : Worked a) {last tail : Log} (hl : log ++ tail = w.calls ++ last) :
    ∃ delivering, Hands a.output w.outcome delivering r ∧ last = delivering ++ tail := by
  have hcalls : w.calls ++ last = w.reading ++ (w.configuring ++
      (engineCalls (a.browser w.config) w.engine ++ last)) := by simp [Worked.calls]
  obtain ⟨w', delivering, hrequest, hconfig, hd, hrest⟩ :=
    h.rest w.reads w.configures (hl.trans hcalls)
  have hworks := w'.works
  rw [hrequest, hconfig] at hworks
  simp only [Worked.engine, engineCalls_append, List.append_assoc] at hrest
  obtain ⟨-, houtcome, hrest⟩ := (exec_inEngine_iff.mpr ⟨_, rfl, w.works⟩).unique
    (exec_inEngine_iff.mpr ⟨_, rfl, hworks⟩) hrest
  obtain ⟨-, -, hrest⟩ := (exec_inEngine_iff.mpr ⟨_, rfl, w.closes⟩).unique
    (exec_inEngine_iff.mpr ⟨_, rfl, w'.closes⟩) hrest
  exact ⟨delivering, by rwa [houtcome], hrest⟩

/-- How a flow is checked: what is read is rejected, or it is said to be good. -/
inductive Checks (path : String) : Log → Except FlowError Bool → Prop
  | unread {reading e} : Reads path reading (.error e) → Checks path reading (.error e)
  | rejected {reading request e} : Reads path reading (.ok request) →
      Grammar.validate request.steps = .error e → Checks path reading (.error e)
  | accepted {reading request} : Reads path reading (.ok request) →
      Grammar.validate request.steps = .ok () →
      Checks path (reading ++
        [⟨.print ("ok: " ++ toString request.steps.length ++ " steps\n"), ()⟩]) (.ok true)

theorem exec_validate_iff {path : String} {r : Except FlowError Bool} :
    Exec (validate path).run log r ↔ Checks path log r := by
  constructor
  · intro h
    rcases (Prog.exec_then_iff _ _ _).mp h with ⟨e, rfl, he⟩ | ⟨reading, request, _, rfl, hr, h₁⟩
    · exact .unread (exec_readRequest_iff.mp he)
    cases hv : Grammar.validate request.steps with
    | error e =>
      rw [hv] at h₁
      obtain ⟨rfl, rfl⟩ := (Prog.exec_done_iff _ _).mp h₁
      rw [List.append_nil]
      exact .rejected (exec_readRequest_iff.mp hr) hv
    | ok v =>
      rw [hv] at h₁
      have hprint : Exec (print ("ok: " ++ toString request.steps.length ++ " steps\n") >>=
          fun _ => pure true).run _ r := h₁
      obtain ⟨_, _, _, rfl, ha, hp⟩ := (Prog.exec_lift_then_iff _ _ _).mp hprint
      obtain rfl := exec_ask_iff.mp ha
      obtain ⟨rfl, rfl⟩ := (Prog.exec_done_iff _ _).mp hp
      exact .accepted (exec_readRequest_iff.mp hr) hv
  · intro h
    cases h with
    | unread hr =>
      exact (Prog.exec_then_iff _ _ _).mpr (Or.inl ⟨_, rfl, exec_readRequest_iff.mpr hr⟩)
    | rejected hr hv =>
      refine (Prog.exec_then_iff _ _ _).mpr
        (Or.inr ⟨_, _, [], (List.append_nil _).symm, exec_readRequest_iff.mpr hr, ?_⟩)
      rw [hv]
      exact .done _
    | accepted hr hv =>
      refine (Prog.exec_then_iff _ _ _).mpr (Or.inr ⟨_, _, _, rfl, exec_readRequest_iff.mpr hr, ?_⟩)
      rw [hv]
      exact .ask _ (.done _)

theorem Checks.rest {path : String} {r : Except FlowError Bool} (h : Checks path log r)
    {reading rest tail : Log} {request : FlowRequest} (hr : Reads path reading (.ok request))
    (hl : log ++ tail = reading ++ rest) :
    (∃ e, Grammar.validate request.steps = .error e ∧ r = .error e ∧ rest = tail) ∨
      (Grammar.validate request.steps = .ok () ∧ r = .ok true) := by
  cases h with
  | unread hr' =>
    obtain ⟨-, he, -⟩ := (exec_readRequest_iff.mpr hr').unique (exec_readRequest_iff.mpr hr) hl
    cases he
  | rejected hr' hv =>
    obtain ⟨-, he, rfl⟩ := (exec_readRequest_iff.mpr hr').unique (exec_readRequest_iff.mpr hr) hl
    obtain rfl := Except.ok.inj he
    exact Or.inl ⟨_, hv, rfl, rfl⟩
  | accepted hr' hv =>
    rw [List.append_assoc] at hl
    obtain ⟨-, he, -⟩ := (exec_readRequest_iff.mpr hr').unique (exec_readRequest_iff.mpr hr) hl
    obtain rfl := Except.ok.inj he
    exact Or.inr ⟨hv, rfl⟩

end CommandLine
end PageFlow
