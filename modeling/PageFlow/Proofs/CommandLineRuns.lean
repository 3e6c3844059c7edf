import PageFlow.Proofs.EntryPoints
import PageFlow.Proofs.OwnBrowsers

/-! How the command that runs a flow ends. It either has a report and hands it over, or an error and
shows that; before it does either, it has closed every browser. What its pool says to the shutdown
is not heard. -/
namespace PageFlow
namespace CommandLine

open Prog (Exec)

def Op.speaks : Op → Bool
  | .print _ | .printError _ | .writeFile _ _ => true
  | _ => false

def Silent (log : Log) : Prop := ∀ x ∈ log, x.op.speaks = false

def Exchange.printed : Exchange → List String
  | ⟨.print text, _⟩ => [text]
  | _ => []

def printed (log : Log) : List String := log.flatMap Exchange.printed

/-- All that a run does before it speaks. -/
inductive Prepares (a : RunArguments) : Log → Prop
  | unread {reading e} : Reads a.request reading (.error e) → Prepares a reading
  | unconfigured {reading request configuring e} : Reads a.request reading (.ok request) →
      Configures a.config configuring (.error e) → Prepares a (reading ++ configuring)
  | worked (w : Worked a) : Prepares a w.calls

/-- A run ends with a report: it is handed over, and the status says whether it is of success. -/
inductive Reports (a : RunArguments) : Log → Log → Nat → Prop
  | mk (w : Worked a) {report last} : w.outcome = .ok report →
      Delivers report a.output last (.ok ()) →
      Reports a w.calls last (if report.success then 0 else 1)

/-- Why a run ends with an error: what it did, what it did in vain to hand over a report, and the
error. -/
inductive Fault (a : RunArguments) : Log → Log → FlowError → Prop
  | unread {reading e} : Reads a.request reading (.error e) → Fault a reading [] e
  | unconfigured {reading request configuring e} : Reads a.request reading (.ok request) →
      Configures a.config configuring (.error e) → Fault a (reading ++ configuring) [] e
  | rejected (w : Worked a) {e} : Grammar.validate w.request.steps = .error e →
      w.outcome = .error e → Fault a w.calls [] e
  | unacquired (w : Worked a) {e} : Grammar.validate w.request.steps = .ok () →
      Engine.Ends Pool.acquire w.working (.error e) → w.outcome = .error e → Fault a w.calls [] e
  | unwritten (w : Worked a) {report path e} : w.outcome = .ok report → a.output = some path →
      Fault a w.calls [⟨.writeFile path report.toJson.pretty, .error e⟩] e

/-- A run ends with an error, which is all that it shows. -/
inductive Fails (a : RunArguments) : Log → Log → Nat → Prop
  | mk {work attempt e} (date) : Fault a work attempt e →
      Fails a work (attempt ++ complaint e date) 2

variable {a : RunArguments} {work last log : Log} {status : Nat} {e : FlowError}

section Preparing

theorem silent_append {first second : Log} (hf : Silent first) (hs : Silent second) :
    Silent (first ++ second) := List.forall_mem_append.mpr ⟨hf, hs⟩

theorem printed_append (first second : Log) :
    printed (first ++ second) = printed first ++ printed second := List.flatMap_append

theorem Silent.printed_eq (h : Silent log) : printed log = [] := by
  refine List.flatMap_eq_nil_iff.mpr fun x hx => ?_
  have hn := h x hx
  obtain ⟨op, r⟩ := x
  cases op with
  | print => cases hn
  | _ => rfl

theorem Reads.silent {path : String} {r : Except FlowError FlowRequest} (h : Reads path log r) :
    Silent log ∧ engineLog log = [] := by
  cases h <;> exact ⟨List.forall_mem_singleton.mpr rfl, rfl⟩

theorem Configures.silent {path : Option String} {r : Except FlowError EngineConfig}
    (h : Configures path log r) : Silent log ∧ engineLog log = [] := by
  cases h with
  | default => exact ⟨List.forall_mem_nil _, rfl⟩
  | file path contents => exact ⟨List.forall_mem_singleton.mpr rfl, rfl⟩

theorem silent_engineCalls (config : BrowserConfig) (log : Engine.Log) :
    Silent (engineCalls config log) := by
  intro x hx
  obtain ⟨y, -, rfl⟩ := List.mem_map.mp hx
  rfl

theorem Worked.engineLog_calls (w : Worked a) : engineLog w.calls = w.engine := by
  rw [calls, engineLog_append, engineLog_append, w.reads.silent.2, w.configures.silent.2,
    engineLog_engineCalls]
  rfl

theorem Prepares.silent (h : Prepares a work) : Silent work := by
  cases h with
  | unread hr => exact hr.silent.1
  | unconfigured hr hc => exact silent_append hr.silent.1 hc.silent.1
  | worked w =>
    have hrest := silent_append w.configures.silent.1
      (silent_engineCalls (a.browser w.config) w.engine)
    exact silent_append w.reads.silent.1 hrest

theorem Prepares.allClosed {h' : Host} (h : Prepares a work)
    (hp : Host.start.Plays Eq (engineLog work) h') :
    Engine.AllClosed (engineLog work) ∧ h'.pooled = none := by
  have hidle (hn : engineLog work = []) :
      Engine.AllClosed (engineLog work) ∧ h'.pooled = none := by
    rw [hn] at hp ⊢
    cases hp
    exact ⟨⟨.refl _, fun _ b hb => by cases hb⟩, rfl⟩
  cases h with
  | unread hr => exact hidle hr.silent.2
  | unconfigured hr hc => exact hidle (by rw [engineLog_append, hr.silent.2, hc.silent.2]; rfl)
  | worked w =>
    rw [w.engineLog_calls] at hp ⊢
    have hsteps : (a.interpreter w.config).KeepsToSteps := Interpreter.keepsToSteps_standard _
    exact (Interpreter.balanced_run hsteps w.works).allClosed w.closes hp rfl

end Preparing

section Endings

theorem Delivers.engineLog_eq {report : FlowReport} {output : Option String}
    {r : Except FlowError Unit} (h : Delivers report output log r) : engineLog log = [] := by
  cases h <;> rfl

theorem Reports.prepares (h : Reports a work last status) :
    Prepares a work ∧ engineLog last = [] ∧ status < 2 := by
  obtain ⟨w, -, hd⟩ := h
  refine ⟨.worked w, hd.engineLog_eq, ?_⟩
  split <;> simp

theorem Fault.prepares {attempt : Log} (h : Fault a work attempt e) :
    Prepares a work ∧ engineLog attempt = [] ∧ printed attempt = [] := by
  cases h with
  | unread hr => exact ⟨.unread hr, rfl, rfl⟩
  | unconfigured hr hc => exact ⟨.unconfigured hr hc, rfl, rfl⟩
  | rejected w => exact ⟨.worked w, rfl, rfl⟩
  | unacquired w => exact ⟨.worked w, rfl, rfl⟩
  | unwritten w => exact ⟨.worked w, rfl, rfl⟩

theorem Fails.prepares (h : Fails a work last status) :
    Prepares a work ∧ engineLog last = [] ∧ printed last = [] ∧ status = 2 := by
  obtain ⟨date, hf⟩ := h
  obtain ⟨hw, hengine, hprinted⟩ := hf.prepares
  refine ⟨hw, ?_, ?_, rfl⟩
  · rw [engineLog_append, hengine]
    rfl
  · rw [printed_append, hprinted]
    rfl

/-- A run ends in one way only, and has done its work before. -/
theorem ends_one_way (h : Reports a work last status ∨ Fails a work last status) :
    Prepares a work ∧ engineLog last = [] ∧
      Xor (Reports a work last status)
        (Fails a work last status ∧ printed (work ++ last) = []) := by
  rcases h with h | h
  · obtain ⟨hw, hengine, hstatus⟩ := h.prepares
    refine ⟨hw, hengine, Or.inl ⟨h, fun hf => ?_⟩⟩
    have htwo : status = 2 := hf.1.prepares.2.2.2
    omega
  · obtain ⟨hw, hengine, hprinted, hstatus⟩ := h.prepares
    refine ⟨hw, hengine, Or.inr ⟨⟨h, ?_⟩, fun hr => ?_⟩⟩
    · rw [printed_append, hw.silent.printed_eq, hprinted]
      rfl
    · have hless : status < 2 := hr.prepares.2.2
      omega

theorem Worked.fault (w : Worked a) (ho : w.outcome = .error e) : Fault a w.calls [] e := by
  have hworks := w.works
  rw [ho] at hworks
  cases hv : Grammar.validate w.request.steps with
  | error e' =>
    obtain ⟨-, he⟩ := (Interpreter.ends_run_rejected_iff hv).mp hworks
    obtain rfl := Except.error.inj he
    exact .rejected w hv ho
  | ok v =>
    rcases Interpreter.ends_run hv hworks with ⟨e', ha, he⟩ | ⟨_, _, _, _, _, _, _, _, -, -, -, he⟩
    · obtain rfl := Except.error.inj he
      exact .unacquired w hv ha ho
    · cases he

theorem runs_error_iff : Runs a log (.error e) ↔
    ∃ work attempt, log = work ++ attempt ∧ Fault a work attempt e := by
  constructor
  · generalize hr : (Except.error e : Except FlowError Bool) = r
    intro h
    cases h with
    | unread hread =>
      obtain rfl := Except.error.inj hr
      exact ⟨log, [], (List.append_nil _).symm, .unread hread⟩
    | unconfigured hread hc =>
      obtain rfl := Except.error.inj hr
      exact ⟨_, [], (List.append_nil _).symm, .unconfigured hread hc⟩
    | worked w hd =>
      subst hr
      rcases hands_error_iff.mp hd with ⟨ho, rfl⟩ | ⟨report, path, ho, hpath, rfl⟩
      · exact ⟨_, [], rfl, w.fault ho⟩
      · exact ⟨_, _, rfl, .unwritten w ho hpath⟩
  · rintro ⟨work, attempt, rfl, hf⟩
    cases hf with
    | unread hr =>
      rw [List.append_nil]
      exact .unread hr
    | unconfigured hr hc =>
      rw [List.append_nil]
      exact .unconfigured hr hc
    | rejected w hv ho => exact .worked w (hands_error_iff.mpr (Or.inl ⟨ho, rfl⟩))
    | unacquired w hv ha ho => exact .worked w (hands_error_iff.mpr (Or.inl ⟨ho, rfl⟩))
    | unwritten w ho hpath =>
      exact .worked w (hands_error_iff.mpr (Or.inr ⟨_, _, ho, hpath, rfl⟩))

theorem runs_ok_iff : (∃ good : Bool, Runs a log (.ok good) ∧ status = if good then 0 else 1) ↔
    ∃ work last, log = work ++ last ∧ Reports a work last status := by
  constructor
  · rintro ⟨good, h, rfl⟩
    generalize hr : (Except.ok good : Except FlowError Bool) = r at h
    cases h with
    | unread => cases hr
    | unconfigured => cases hr
    | worked w hd =>
      subst hr
      obtain ⟨report, ho, hdelivered, rfl⟩ := hands_ok_iff.mp hd
      exact ⟨_, _, rfl, .mk w ho hdelivered⟩
  · rintro ⟨work, last, rfl, h⟩
    obtain ⟨w, ho, hd⟩ := h
    exact ⟨_, .worked w (hands_ok_iff.mpr ⟨_, ho, hd, rfl⟩), rfl⟩

variable {s : Settings} {arguments : List String}

theorem exec_program_run_iff (hp : parse s arguments = .ok (.run a)) :
    Exec (program s arguments) log status ↔ ∃ work last, log = work ++ last ∧
      (Reports a work last status ∨ Fails a work last status) := by
  rw [exec_program_iff hp]
  simp only [perform, exec_run_iff, runs_ok_iff, runs_error_iff]
  constructor
  · rintro (⟨work, last, rfl, h⟩ | ⟨_, e, date, rfl, ⟨work, attempt, rfl, hf⟩, rfl⟩)
    · exact ⟨work, last, rfl, Or.inl h⟩
    · exact ⟨work, _, List.append_assoc _ _ _, Or.inr (.mk date hf)⟩
  · rintro ⟨work, last, rfl, h | h⟩
    · exact Or.inl ⟨work, last, rfl, h⟩
    · obtain ⟨date, hf⟩ := h
      exact Or.inr ⟨_, _, date, (List.append_assoc _ _ _).symm, ⟨_, _, rfl, hf⟩, rfl⟩

/-- What follows the engine depends only on what came of the run, not on the shutdown. -/
theorem exec_program_worked_iff (hp : parse s arguments = .ok (.run a)) (w : Worked a) :
    Exec (program s arguments) (w.calls ++ last) status ↔
      (∃ good : Bool, Hands a.output w.outcome last (.ok good) ∧ status = if good then 0 else 1) ∨
        ∃ delivering e date, last = delivering ++ complaint e date ∧
          Hands a.output w.outcome delivering (.error e) ∧ status = 2 := by
  rw [exec_program_iff hp]
  simp only [perform, exec_run_iff]
  constructor
  · rintro (⟨good, h, rfl⟩ | ⟨work, e, date, hl, h, rfl⟩)
    · obtain ⟨delivering, hd, rfl⟩ := h.handed w (List.append_nil _)
      exact Or.inl ⟨good, by rwa [List.append_nil], rfl⟩
    · obtain ⟨delivering, hd, rfl⟩ := h.handed w hl.symm
      exact Or.inr ⟨delivering, e, date, rfl, hd, rfl⟩
  · rintro (⟨good, hd, rfl⟩ | ⟨delivering, e, date, rfl, hd, rfl⟩)
    · exact Or.inl ⟨good, .worked w hd, rfl⟩
    · exact Or.inr ⟨_, e, date, (List.append_assoc _ _ _).symm, .worked w hd, rfl⟩

end Endings

def Worked.shutBy (w : Worked a) {closing : Engine.Log} {closed : Except FlowError Unit}
    (h : Engine.Ends Pool.shutdown closing closed) : Worked a :=
  { w with closing := closing, closed := closed, closes := h }

def alone (drive : Prog.Behaviour Op Reply) : Prog.Behaviour Op Reply
  | past, .engine config op =>
    Host.start.along (fun _ op => drive past (.engine config op)) (engineLog past) op
  | past, op => drive past op

theorem serves_of_alone {drive : Prog.Behaviour Op Reply} {past : Log} {x : Exchange}
    (hx : x.reply = alone drive past x.op) : x.engine? = none ∨ ∃ y, x.engine? = some y ∧
      (Host.start.after (engineLog past)).Serves y (Host.start.after (engineLog past ++ [y])) := by
  obtain ⟨op, r⟩ := x
  cases op with
  | engine config op =>
    have hr : r = Host.start.along (fun _ op => drive past (.engine config op))
        (engineLog past) op := hx
    exact Or.inr ⟨⟨op, r⟩, rfl, Host.serves_of_along (x := ⟨op, r⟩) hr⟩
  | _ => exact Or.inl rfl

theorem plays_of_alone {drive : Prog.Behaviour Op Reply} {past : Log}
    (hg : (alone drive).Gives past log) :
    (Host.start.after (engineLog past)).Plays Eq (engineLog log)
      (Host.start.after (engineLog past ++ engineLog log)) := by
  induction log generalizing past with
  | nil =>
    rw [engineLog_nil, List.append_nil]
    exact .nil _
  | cons x rest ih =>
    obtain ⟨hx, hg⟩ := hg
    have hrest := ih hg
    rw [engineLog_append] at hrest
    rcases serves_of_alone hx with hn | ⟨y, hy, hserves⟩
    · have hcons (l : Log) : engineLog (x :: l) = engineLog l := List.filterMap_cons_none hn
      rw [hcons [], engineLog_nil, List.append_nil] at hrest
      rw [hcons rest]
      exact hrest
    · have hcons (l : Log) : engineLog (x :: l) = y :: engineLog l := List.filterMap_cons_some hy
      rw [hcons [], List.append_assoc] at hrest
      rw [hcons rest]
      exact .cons rfl hserves hrest

/-- Whatever its files hold and whatever the driver does, a run comes to its end, and it ends in one
of two ways: it hands over a report and tells by its status if that is of success, or it shows an
error and nothing else. Up to then it has not spoken, all browsers that it has launched are closed,
and it launches none later. Another answer to the shutdown would change nothing of it. -/
theorem run_reports_or_fails {s : Settings} {arguments : List String}
    (hp : parse s arguments = .ok (.run a)) :
    (∀ drive : Prog.Behaviour Op Reply, ∃ log status h', Exec (program s arguments) log status ∧
      (alone drive).Gives [] log ∧ Host.start.Plays Eq (engineLog log) h') ∧
    (∀ log status h', Exec (program s arguments) log status →
      Host.start.Plays Eq (engineLog log) h' → ∃ work last, log = work ++ last ∧
        Xor (Reports a work last status) (Fails a work last status ∧ printed log = []) ∧
        Silent work ∧ engineLog last = [] ∧ Engine.AllClosed (engineLog work) ∧
        h'.pooled = none) ∧
    ∀ (w : Worked a) closing closed (hs : Engine.Ends Pool.shutdown closing closed) last status,
      Exec (program s arguments) (w.calls ++ last) status ↔
        Exec (program s arguments) ((w.shutBy hs).calls ++ last) status := by
  refine ⟨fun drive => ?_, fun log status h' he hplays => ?_, ?_⟩
  · obtain ⟨log, status, he, hg⟩ := Prog.exists_exec (alone drive) (program s arguments) []
    exact ⟨log, status, _, he, hg, plays_of_alone hg⟩
  · obtain ⟨work, last, rfl, h⟩ := (exec_program_run_iff hp).mp he
    obtain ⟨hw, hengine, hxor⟩ := ends_one_way h
    rw [engineLog_append, hengine, List.append_nil] at hplays
    obtain ⟨hclosed, hempty⟩ := hw.allClosed hplays
    exact ⟨work, last, rfl, hxor, hw.silent, hengine, hclosed, hempty⟩
  · intro w closing closed hs last status
    rw [exec_program_worked_iff hp, exec_program_worked_iff hp]
    rfl

def plainArguments : RunArguments := ⟨"flow", none, false, none, none⟩

def stubbornRun : Worked plainArguments where
  reading := [⟨.readFile "flow", .ok navigatingText⟩]
  request := ⟨[Interpreter.navigating]⟩
  configuring := []
  config := .default
  working := Interpreter.firstRun
  outcome := .ok ⟨true, [⟨Interpreter.navigating, Interpreter.secondsBetween 0 0, none, none⟩]⟩
  closing := Pool.firstShutdown
  closed := .error (.session "browser is gone")
  reads := reads_navigatingText
  configures := .default
  works := by repeat (first | exact .done _ | refine .ask _ ?_)
  closes := by repeat (first | exact .done _ | refine .ask _ ?_)

/-- Its report is handed over all the same, with the status of success, and its only browser has
been told to close by then. -/
theorem run_reports_stubborn : ∃ work last,
    Exec (program ⟨none, none⟩ ["run", "flow"]) (work ++ last) 0 ∧
      Reports plainArguments work last 0 ∧ engineLog work = stubbornRun.engine ∧
      Engine.launched (engineLog work) = [⟨1⟩] ∧ (Engine.ended (engineLog work)).count ⟨1⟩ = 1 := by
  have hparse : parse ⟨none, none⟩ ["run", "flow"] = .ok (.run plainArguments) := rfl
  have hreports := Reports.mk stubbornRun rfl .printed
  have hexec := (exec_program_run_iff hparse).mpr ⟨_, _, rfl, Or.inl hreports⟩
  have hplays : Host.start.Plays Eq stubbornRun.engine (Host.start.after stubbornRun.engine) := by
    repeat (first | exact .nil _ | refine .cons rfl ⟨rfl, by rintro f hf; cases hf <;> rfl⟩ ?_)
  have hlog := stubbornRun.engineLog_calls
  obtain ⟨-, hends, -⟩ := run_reports_or_fails hparse
  obtain ⟨work, last, hl, hx, -, hlast, ⟨-, honce⟩, -⟩ := hends _ _ _ hexec
    (by rw [engineLog_append, hlog, hreports.prepares.2.1, List.append_nil]; exact hplays)
  have hengine : engineLog work = stubbornRun.engine := by
    have hboth := congrArg engineLog hl
    rw [engineLog_append, engineLog_append, hlog, hlast, hreports.prepares.2.1, List.append_nil,
      List.append_nil] at hboth
    exact hboth.symm
  have hlaunched : Engine.launched (engineLog work) = [⟨1⟩] := by
    rw [hengine]
    rfl
  refine ⟨work, last, hl ▸ hexec, ?_, hengine, hlaunched, ?_⟩
  · rcases hx with ⟨hr, -⟩ | ⟨⟨hf, -⟩, -⟩
    · exact hr
    · exact absurd hf.prepares.2.2.2 (by decide)
  · rw [hlaunched] at honce
    exact honce (List.nodup_singleton _) _ (List.mem_singleton_self _)

end CommandLine
end PageFlow
