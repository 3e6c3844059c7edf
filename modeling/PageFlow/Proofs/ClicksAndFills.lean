import PageFlow.Proofs.Polling
import PageFlow.Proofs.Selection
import PageFlow.Proofs.StepCalls

/-! When elements are clicked and filled. A step that does so goes through the selected elements in
order. On each it makes one call that alters the element, right after the answer that permits it,
and the first element that refuses or fails is the last that is touched. -/
namespace PageFlow

open Engine

/-- The step alters the element by the second call, right after the answer that permits it. -/
inductive Touches (step : Step) (e : Element) :
    (permit act : Exchange) → Except FlowError Unit → Prop
  | click (r) : step.action = .click →
      Touches step e ⟨.isVisible e, .ok true⟩ ⟨.click e, r⟩ r
  | fill (p r) : step.action = .inputText → step.params InputTextParams.read = .ok p →
      Touches step e ⟨.isEditable e, .ok true⟩ ⟨.fill e p.text, r⟩ r

inductive Share (step : Step) (e : Element) : Log → (goesOn : Bool) → Prop
  | refused {log} : (∀ x ∈ log, x.op.altered = none) → Share step e log false
  | touched {before permit act r} : (∀ x ∈ before, x.op.altered = none) →
      Touches step e permit act r → Share step e (before ++ [permit, act]) r.isOk

/-- The calls of a step on some elements in order, up to the first on which it does not go on. -/
inductive Rounds (step : Step) : List Element → Log → (goesOn : Bool) → Prop
  | nil : Rounds step [] [] true
  | stop {e rest log} : Share step e log false → Rounds step (e :: rest) log false
  | next {e rest first more goesOn} : Share step e first true → Rounds step rest more goesOn →
      Rounds step (e :: rest) (first ++ more) goesOn

/-- What a step does to the selected elements, and how it ends. -/
inductive Tends (step : Step) (selected : List Element) :
    Log → Except FlowError (Option Pending) → Prop
  | other {log r} : step.action ≠ .click → step.action ≠ .inputText →
      (∀ x ∈ log, x.op.altered = none) → Tends step selected log r
  | fault (e) : Tends step selected [] (.error e)
  | rounds {log r} : Rounds step selected log r.isOk → Tends step selected log r

def alteredIn (log : Log) : List Element := log.filterMap (·.op.altered)

section Calls

variable {step : Step} {e e' : Element} {selected : List Element} {log before after : Log}
  {x permit act : Exchange} {goesOn : Bool} {r : Except FlowError Unit}

theorem alteredIn_append (first second : Log) :
    alteredIn (first ++ second) = alteredIn first ++ alteredIn second := List.filterMap_append

theorem alteredIn_eq_nil (h : ∀ x ∈ log, x.op.altered = none) : alteredIn log = [] :=
  List.filterMap_eq_nil_iff.mpr h

theorem Touches.altered (h : Touches step e permit act r) :
    permit.op.altered = none ∧ act.op.altered = some e := by
  cases h <;> exact ⟨rfl, rfl⟩

theorem Share.touches (h : Share step e log goesOn) (hl : log = before ++ x :: after)
    (hx : x.op.altered = some e') : e' = e ∧
      ∃ earlier permit r, before = earlier ++ [permit] ∧ Touches step e permit x r := by
  -- before the last call nothing is altered
  have hquiet {quiet : Log} (hq : ∀ y ∈ quiet, y.op.altered = none) (hm : x ∈ quiet) : False := by
    rw [hq x hm] at hx
    cases hx
  cases h with
  | refused hn => exact (hquiet hn (by simp [hl])).elim
  | @touched first permit act r hn ht =>
    obtain ⟨hp, ha⟩ := ht.altered
    have hcalls : (first ++ [permit]) ++ [act] = before ++ x :: after := by simpa using hl
    have hfirst : ∀ y ∈ first ++ [permit], y.op.altered = none :=
      List.forall_mem_append.mpr ⟨hn, List.forall_mem_singleton.mpr hp⟩
    rcases append_split hcalls with ⟨outer, hq, -⟩ | ⟨inner, rfl, hi⟩
    · exact (hquiet hfirst (by simp [hq])).elim
    · cases inner with
      | nil =>
        obtain ⟨rfl, rfl⟩ := List.cons.inj hi
        rw [hx] at ha
        exact ⟨Option.some.inj ha, first, permit, r, by simp, ht⟩
      | cons y inner => simp at hi

theorem Rounds.touches (h : Rounds step selected log goesOn) (hl : log = before ++ x :: after)
    (hx : x.op.altered = some e) : e ∈ selected ∧
      ∃ earlier permit r, before = earlier ++ [permit] ∧ Touches step e permit x r := by
  induction h generalizing before with
  | nil => simp at hl
  | stop hs =>
    obtain ⟨rfl, ht⟩ := hs.touches hl hx
    exact ⟨List.mem_cons_self, ht⟩
  | next hs _ ih =>
    rcases append_split hl with ⟨outer, hf, -⟩ | ⟨inner, rfl, hm⟩
    · obtain ⟨rfl, ht⟩ := hs.touches hf hx
      exact ⟨List.mem_cons_self, ht⟩
    · obtain ⟨he, earlier, permit, r, rfl, ht⟩ := ih hm
      exact ⟨List.mem_cons_of_mem _ he, _, permit, r, (List.append_assoc _ _ _).symm, ht⟩

theorem Share.altered (h : Share step e log goesOn) :
    alteredIn log <+: [e] ∧ (goesOn = true → alteredIn log = [e]) := by
  cases h with
  | refused hn =>
    rw [alteredIn_eq_nil hn]
    exact ⟨List.nil_prefix, nofun⟩
  | @touched before permit act r hn ht =>
    obtain ⟨hp, ha⟩ := ht.altered
    have h : alteredIn (before ++ [permit, act]) = [e] := by
      rw [alteredIn_append, alteredIn_eq_nil hn]
      simp [alteredIn, hp, ha]
    rw [h]
    exact ⟨List.prefix_rfl, fun _ => rfl⟩

theorem Share.rounds (h : Share step e log goesOn) : Rounds step [e] log goesOn := by
  cases goesOn with
  | false => exact .stop h
  | true => simpa using Rounds.next h .nil

/-- The elements that a step alters are a beginning of the selected ones: each place of the
selection comes at most once, and in order. -/
theorem Rounds.altered (h : Rounds step selected log goesOn) : alteredIn log <+: selected := by
  induction h with
  | nil => exact List.nil_prefix
  | stop hs => exact hs.altered.1.trans (List.prefix_append _ _)
  | next hs _ ih =>
    rw [alteredIn_append, hs.altered.2 rfl]
    exact (List.prefix_append_right_inj _).mpr ih

variable {result : Except FlowError (Option Pending)}

theorem Tends.touches (h : Tends step selected log result) (hl : log = before ++ x :: after)
    (hx : x.op.altered = some e) : e ∈ selected ∧
      ∃ earlier permit r, before = earlier ++ [permit] ∧ Touches step e permit x r := by
  cases h with
  | other _ _ hn =>
    have h := hn x (by simp [hl])
    rw [hx] at h
    cases h
  | fault => simp at hl
  | rounds hr => exact hr.touches hl hx

theorem Tends.altered (h : Tends step selected log result) : alteredIn log <+: selected := by
  cases h with
  | other _ _ hn => exact alteredIn_eq_nil hn ▸ List.nil_prefix
  | fault => exact List.nil_prefix
  | rounds hr => exact hr.altered

end Calls

theorem Locator.waitUntilVisible_last {e : Element} {timeout : Duration} {log : Log}
    (h : Ends (waitUntilVisible e timeout) log (.ok ())) :
    ∃ before, log = before ++ [⟨.isVisible e, .ok true⟩] := by
  rcases (ends_bind_iff _ _ _).mp h with ⟨err, he, -⟩ | ⟨first, v, second, rfl, hv, hr⟩
  · cases he
  cases v with
  | none =>
    obtain ⟨-, he⟩ := (ends_throw_iff _ _).mp hr
    cases he
  | some v =>
    obtain ⟨rfl, -⟩ := (ends_pure_iff _ _).mp hr
    obtain ⟨before, last, after, rfl, hlast, ha⟩ := waitFor_last hv
    obtain rfl := ha nofun
    obtain ⟨asked, answer, rest, rfl, hask, hs⟩ := (ends_lift_bind_iff _ _ _).mp hlast
    obtain ⟨_, rfl, rfl⟩ := (ends_answer_iff rfl _).mp hask
    rcases answer with err | (_ | _)
    · obtain ⟨-, he⟩ := (ends_pure_iff _ _).mp hs
      cases he
    · obtain ⟨-, he⟩ := (ends_pure_iff _ _).mp hs
      cases he
    · obtain ⟨rfl, -⟩ := (ends_pure_iff _ _).mp hs
      exact ⟨before, by simp⟩

namespace Executor

open Actions

variable {step : Step} {e : Element} {log : Log} {f : Element → Attempt Unit} {c : Context}

theorem share_clickOne {timeout : Duration} {r : Except FlowError Unit} (hs : step.action = .click)
    (h : Ends (clickOne timeout e) log r) : Share step e log r.isOk := by
  have hquiet {first : Log} {r : Except FlowError Unit}
      (hw : Ends (Locator.waitUntilVisible e timeout) first r) : ∀ x ∈ first, x.op.altered = none :=
    fun x hx => ((Locator.harmless_waitUntilVisible e timeout first r hw).1 x hx).2
  obtain ⟨scrolled, _, more, rfl, hscroll, hmore⟩ := (ends_lift_bind_iff _ _ _).mp h
  obtain ⟨answer, rfl, -⟩ := (ends_answer_iff rfl _).mp hscroll
  rcases (ends_bind_iff _ _ _).mp hmore with ⟨err, rfl, he⟩ | ⟨waited, _, clicked, rfl, hw, hc⟩
  · exact .refused (List.forall_mem_cons.mpr ⟨rfl, hquiet he⟩)
  · obtain ⟨r, rfl, rfl⟩ := (ends_answer_iff rfl _).mp hc
    have hall := hquiet hw
    obtain ⟨before, rfl⟩ := Locator.waitUntilVisible_last hw
    have hb : ∀ x ∈ ⟨.scrollIntoView e, answer⟩ :: before, x.op.altered = none :=
      List.forall_mem_cons.mpr ⟨rfl, (List.forall_mem_append.mp hall).1⟩
    simpa using Share.touched hb (.click r hs)

theorem share_fillOne {p : InputTextParams} {r : Except FlowError Unit}
    (hs : step.action = .inputText) (hp : step.params InputTextParams.read = .ok p)
    (h : Ends (fillOne p.text e) log r) : Share step e log r.isOk := by
  obtain ⟨answer, more, rfl, hmore⟩ := (ends_answer_bind_iff rfl _ _).mp h
  rcases answer with err | (_ | _)
  · obtain ⟨rfl, rfl⟩ := (ends_throw_iff err _).mp hmore
    exact .refused (by simp [Op.altered])
  · obtain ⟨rfl, rfl⟩ := (ends_throw_iff (.element _) _).mp hmore
    exact .refused (by simp [Op.altered])
  · have hfill : Ends (Engine.fill e p.text) more r := hmore
    obtain ⟨r, rfl, rfl⟩ := (ends_answer_iff rfl _).mp hfill
    have hnone : ∀ x ∈ ([] : Log), x.op.altered = none := List.forall_mem_nil _
    exact .touched hnone (.fill p r hs hp)

/-- Elements are gone through in order, and none comes after one that fails. -/
theorem rounds_eachElement {all : List Element} {r : Except FlowError (List Unit)}
    (hf : ∀ e log r, Ends (f e) log r → Share step e log r.isOk)
    (h : Ends (eachElement f all) log r) : Rounds step all log r.isOk := by
  induction all generalizing log r with
  | nil =>
    obtain ⟨rfl, rfl⟩ := (ends_pure_iff _ _).mp h
    exact .nil
  | cons e rest ih =>
    rcases ends_eachElement_cons_iff.mp h with
      ⟨err, rfl, he⟩ | ⟨first, v, more, rfl, hv, o, ho, rfl⟩
    · exact .stop (hf e _ _ he)
    · rw [isOk_map]
      exact .next (hf e _ _ hv) (ih ho)

theorem rounds_forEachElement {r : Except FlowError (Fanned Unit)}
    (hf : ∀ e log r, Ends (f e) log r → Share step e log r.isOk)
    (h : Ends (forEachElement c f) log r) :
    (log = [] ∧ ∃ err, r = .error err) ∨ Rounds step c.elementTarget.held log r.isOk := by
  unfold forEachElement at h
  split at h
  · rename_i e ht
    right
    rw [ht]
    obtain ⟨o, ho, rfl⟩ := ends_map_iff.mp h
    rw [isOk_map]
    exact (hf e _ _ ho).rounds
  · rename_i all ht
    right
    obtain ⟨o, ho, rfl⟩ := ends_map_iff.mp h
    rw [ht, isOk_map]
    exact rounds_eachElement hf ho
  all_goals
    obtain ⟨rfl, rfl⟩ := (ends_throw_iff _ _).mp h
    exact Or.inl ⟨rfl, _, rfl⟩

theorem tends_forEachElement {r : Except FlowError (Option Pending)}
    (hf : ∀ e log r, Ends (f e) log r → Share step e log r.isOk)
    (h : Ends (forEachElement c f >>= fun _ => pure none) log r) :
    Tends step c.elementTarget.held log r := by
  obtain ⟨o, ho, rfl⟩ := ends_map_iff.mp h
  rcases rounds_forEachElement hf ho with ⟨rfl, err, rfl⟩ | hr
  · exact .fault err
  · exact .rounds (by rwa [isOk_map])

theorem tends_builtIn (extractor : Option PdfCommand) {r : Except FlowError (Option Pending)}
    (h : Ends (builtIn extractor c.step.action c) log r) :
    Tends c.step c.elementTarget.held log r := by
  by_cases hc : c.step.action = .click
  · rw [hc] at h
    exact tends_forEachElement (fun e _ _ => share_clickOne hc) h
  by_cases hf : c.step.action = .inputText
  · rw [hf] at h
    rcases (ends_bind_iff _ _ _).mp h with ⟨err, rfl, he⟩ | ⟨first, p, rest, rfl, hp, hr⟩
    · obtain ⟨rfl, -⟩ := (ends_ofAnswer_iff _ _).mp he
      exact .fault err
    · obtain ⟨rfl, hread⟩ := (ends_ofAnswer_iff _ _).mp hp
      exact tends_forEachElement (fun e _ _ => share_fillOne hf hread.symm) hr
  · exact .other hc hf fun x hx => ((harmless_builtIn extractor c hc hf log r h).1 x hx).2

end Executor

namespace Interpreter

/-- Every click and every fill of a run comes right after the answer that permits it, is made by a
step of that kind, with its text, on an element of the latest selection. Each step goes through that
selection in order, touches each place at most once and none after a failure. -/
theorem clicks_and_fills (config : EngineConfig) (session : Session) (steps : List Step) :
    (∀ log report, Prog.Exec ((standard config).runSteps session steps) log report →
      ∀ before x after e, log = before ++ x :: after → x.op.altered = some e →
        ∃ (s : Started (standard config) session steps) (earlier : Log) (permit : Exchange)
          (r : Except FlowError Unit), s.Makes before x ∧ before = earlier ++ [permit] ∧
            Touches s.step e permit x r ∧ e ∈ (latestFound s.past).held) ∧
    ∀ s : Started (standard config) session steps,
      Tends s.step (latestFound s.past).held s.calls s.result ∧
      alteredIn s.calls <+: (latestFound s.past).held := by
  have htends (s : Started (standard config) session steps) :
      Tends s.step (latestFound s.past).held s.calls s.result := by
    have h := Executor.tends_builtIn config.pdf.extractor
      (c := (standard config).context session s.threaded s.step) s.ends
    rwa [s.reaches.linked.elementTarget] at h
  constructor
  · intro log report hr before x after e hl hx
    have hn : x.op ≠ .now := fun h => by rw [h] at hx; cases hx
    have hd : x.op ≠ .date := fun h => by rw [h] at hx; cases hx
    obtain ⟨s, start, inner, outer, hcalls, rfl⟩ :=
      ((exec_runSteps_iff _ _ _ _ _).mp hr).makes hl hn hd
    obtain ⟨he, earlier, permit, r, rfl, ht⟩ := (htends s).touches hcalls hx
    refine ⟨s, s.past.flatMap Passed.calls ++ ⟨.now, start⟩ :: earlier, permit, r, ?_, ?_, ht, he⟩
    · exact ⟨start, _, outer, hcalls, rfl⟩
    · simp
  · exact fun s => ⟨htends s, (htends s).altered⟩

def beforeClick : Log :=
  [⟨.now, (0 : Instant)⟩, ⟨.now, (0 : Instant)⟩,
    ⟨.query (.page ⟨0⟩) .css "button", .ok [button]⟩, ⟨.now, (0 : Instant)⟩,
    ⟨.now, (0 : Instant)⟩, ⟨.scrollIntoView button, .error (.element "busy")⟩,
    ⟨.now, (0 : Instant)⟩, ⟨.isVisible button, .ok true⟩]

theorem clicks_and_fills_button :
    ∃ (s : Started (standard .default) someSession [finding, clicking]) (permit : Exchange)
      (r : Except FlowError Unit), s.Makes beforeClick ⟨.click button, .ok ()⟩ ∧
        Touches s.step button permit ⟨.click button, .ok ()⟩ r ∧
        button ∈ (latestFound s.past).held ∧ alteredIn s.calls <+: (latestFound s.past).held := by
  have h : Prog.Exec ((standard .default).runSteps someSession [finding, clicking])
      (beforeClick ++ ⟨.click button, .ok ()⟩ :: [⟨.now, (0 : Instant)⟩])
      ⟨true, [⟨finding, secondsBetween 0 0, captured finding (some (.element button)), none⟩,
        ⟨clicking, secondsBetween 0 0, none, none⟩]⟩ := by
    repeat (first | exact .done _ | refine .ask _ ?_)
  obtain ⟨hcalls, hsteps⟩ := clicks_and_fills .default someSession [finding, clicking]
  obtain ⟨s, earlier, permit, r, hm, -, ht, he⟩ := hcalls _ _ h _ _ _ button rfl rfl
  exact ⟨s, permit, r, hm, ht, he, (hsteps s).2⟩

end Interpreter
end PageFlow
