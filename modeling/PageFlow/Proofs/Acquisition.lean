import PageFlow.Proofs.OwnBrowsers

/-! Taking a session, call by call. An acquire looks at the slot, launches a browser where it finds
none that is connected, and asks it for a page. Only if that fails and the browser is lost by then
does it launch and ask once more. On every way out without a session the page that was opened is
closed, no session is counted, and the slot holds no browser that was told to close. -/
namespace PageFlow

open Engine

namespace Engine

def Exchange.asking : Exchange → List (Browser × Answer Page)
  | ⟨.newPage b, r⟩ => [(b, r)]
  | _ => []

def Exchange.opened : Exchange → List Page
  | ⟨.newPage _, .ok p⟩ => [p]
  | _ => []

def tried (log : Log) : List (Answer Browser) := log.flatMap Exchange.tried

def asking (log : Log) : List (Browser × Answer Page) := log.flatMap Exchange.asking
def opened (log : Log) : List Page := log.flatMap Exchange.opened

section Logs

variable {first second log : Log}

@[simp] theorem tried_nil : tried [] = [] := rfl
@[simp] theorem asking_nil : asking [] = [] := rfl
@[simp] theorem opened_nil : opened [] = [] := rfl
@[simp] theorem closings_nil : closings [] = [] := rfl
@[simp] theorem tried_cons (x : Exchange) : tried (x :: log) = x.tried ++ tried log := rfl
@[simp] theorem asking_cons (x : Exchange) : asking (x :: log) = x.asking ++ asking log := rfl
@[simp] theorem opened_cons (x : Exchange) : opened (x :: log) = x.opened ++ opened log := rfl

@[simp] theorem tried_append : tried (first ++ second) = tried first ++ tried second :=
  List.flatMap_append

@[simp] theorem asking_append : asking (first ++ second) = asking first ++ asking second :=
  List.flatMap_append

@[simp] theorem opened_append : opened (first ++ second) = opened first ++ opened second :=
  List.flatMap_append

end Logs
end Engine

namespace Host

theorem Plays.keep {others : Host → Host → Prop} {h h' : Host} {log : Log} {f : Host → α}
    (ho : ∀ g g', others g g' → f g' = f g)
    (hx : ∀ x ∈ log, ∀ g g' : Host, g.Serves x g' → f g' = f g) (hp : h.Plays others log h') :
    f h' = f h := by
  induction hp with
  | nil => rfl
  | cons hm hs _ ih =>
    obtain ⟨hfirst, hrest⟩ := List.forall_mem_cons.mp hx
    rw [ih hrest, hfirst _ _ hs, ho _ _ hm]

theorem Serves.pooled_eq {h h' : Host} {x : Exchange} (hs : h.Serves x h')
    (hx : ∀ slot, x.op ≠ .setPooled slot) : h'.pooled = h.pooled := by
  obtain ⟨op, r⟩ := x
  obtain ⟨rfl, -⟩ := hs
  cases op with
  | setPooled slot => exact absurd rfl (hx slot)
  | _ => rfl

end Host

namespace Pool

/-- The calls that replace the browser of the slot, by what they find there, what comes of closing
it and how the launch goes. -/
def relaunchCalls (slot : Option Browser) (closed : Answer Unit) (launched : Answer Browser) :
    Log :=
  ⟨.pooled, slot⟩ ::
    (slot.toList.flatMap fun b => [⟨.setPooled none, ()⟩, ⟨.closeBrowser b, closed⟩]) ++
    ⟨.launch, launched⟩ :: match launched with
      | .ok b => [⟨.countLaunch, ()⟩, ⟨.setPooled (some b), ()⟩]
      | .error _ => []

/-- The ways to a browser: the one in the slot is connected, or another is launched. -/
inductive Connects : Log → Except FlowError Browser → Prop
  | kept {b} : Connects [⟨.pooled, some b⟩, ⟨.isConnected b, true⟩] (.ok b)
  | stale {b slot closed launched} :
      Connects (⟨.pooled, some b⟩ :: ⟨.isConnected b, false⟩ :: relaunchCalls slot closed launched)
        (launched.mapError launchError)
  | absent {slot closed launched} :
      Connects (⟨.pooled, none⟩ :: relaunchCalls slot closed launched)
        (launched.mapError launchError)

/-- The ways to a page: the browser opens it, or another that is launched because the first one is
lost. -/
inductive Opens (b : Browser) : Log → Except FlowError (Browser × Page) → Prop
  | atOnce {page} : Opens b [⟨.newPage b, .ok page⟩] (.ok (b, page))
  | refused {e} :
      Opens b [⟨.newPage b, .error e⟩, ⟨.isConnected b, true⟩] (.error (openError e))
  | lost {e slot closed e'} :
      Opens b (⟨.newPage b, .error e⟩ :: ⟨.isConnected b, false⟩ ::
        relaunchCalls slot closed (.error e')) (.error (launchError e'))
  | again {e slot closed b' answer} :
      Opens b (⟨.newPage b, .error e⟩ :: ⟨.isConnected b, false⟩ ::
        relaunchCalls slot closed (.ok b') ++ [⟨.newPage b', answer⟩])
        ((answer.mapError openError).map (b', ·))

/-- All ways in which a page and a context are prepared under the lock. -/
inductive Provides : Log → Except FlowError (Page × ApiContext) → Prop
  | noBrowser {log e} : Connects log (.error e) → Provides log (.error e)
  | noPage {first second b e} : Connects first (.ok b) → Opens b second (.error e) →
      Provides (first ++ second) (.error e)
  | noContext {first second b b' page e closed} : Connects first (.ok b) →
      Opens b second (.ok (b', page)) →
      Provides (first ++ second ++ [⟨.newApi b', .error e⟩, ⟨.closePage page, closed⟩])
        (.error (apiError e))
  | ready {first second b b' page api} : Connects first (.ok b) →
      Opens b second (.ok (b', page)) →
      Provides (first ++ second ++ [⟨.newApi b', .ok api⟩]) (.ok (page, api))

section Ways

variable {log : Log}

theorem ends_mapError_iff {f : FlowError → FlowError} {a : Attempt τ} {r : Except FlowError τ} :
    Ends (mapError f a) log r ↔ ∃ o, Ends a log o ∧ r = o.mapError f := by
  have hanswer : mapError f a = outcome a >>= fun o => ofAnswer (o.mapError f) :=
    bind_congr fun o => by cases o <;> rfl
  rw [hanswer, ends_then_answer_iff]
  constructor
  · rintro ⟨_, hout, rfl⟩
    obtain ⟨o, rfl, ho⟩ := (ends_outcome_iff _ _).mp hout
    exact ⟨o, ho, rfl⟩
  · rintro ⟨o, ho, rfl⟩
    exact ⟨.ok o, (ends_outcome_iff _ _).mpr ⟨o, rfl, ho⟩, rfl⟩

theorem ends_launch {r : Except FlowError Browser}
    (h : Ends (do
      let browser ← mapError launchError launch
      countLaunch
      setPooled (some browser)
      pure browser) log r) :
    ∃ launched, r = launched.mapError launchError ∧ log = ⟨.launch, launched⟩ ::
      match launched with
      | .ok b => [⟨.countLaunch, ()⟩, ⟨.setPooled (some b), ()⟩]
      | .error _ => [] := by
  rcases (ends_bind_iff _ _ _).mp h with ⟨e, rfl, he⟩ | ⟨first, b, second, rfl, hb, hcount⟩
  · obtain ⟨o, ho, heq⟩ := ends_mapError_iff.mp he
    obtain rfl := (Prog.exec_call_iff _ _).mp ho
    cases o with
    | ok b => cases heq
    | error e' => exact ⟨.error e', heq, rfl⟩
  · obtain ⟨o, ho, heq⟩ := ends_mapError_iff.mp hb
    obtain rfl := (Prog.exec_call_iff _ _).mp ho
    cases o with
    | error e' => cases heq
    | ok b' =>
      obtain rfl := Except.ok.inj heq
      obtain ⟨_, _, rfl, hset⟩ := (ends_call_bind_iff .countLaunch _ _).mp hcount
      obtain ⟨_, _, rfl, hr⟩ := (ends_call_bind_iff (.setPooled (some b)) _ _).mp hset
      obtain ⟨rfl, rfl⟩ := (ends_pure_iff _ _).mp hr
      exact ⟨.ok b, rfl, rfl⟩

theorem ends_relaunch {r : Except FlowError Browser} (h : Ends relaunch log r) :
    ∃ slot closed launched, log = relaunchCalls slot closed launched ∧
      r = launched.mapError launchError := by
  obtain ⟨slot, _, rfl, hslot⟩ := (ends_call_bind_iff .pooled _ _).mp h
  cases slot with
  | none =>
    obtain ⟨launched, rfl, rfl⟩ := ends_launch hslot
    exact ⟨none, .ok (), launched, rfl, rfl⟩
  | some stale =>
    obtain ⟨_, _, rfl, hclose⟩ := (ends_call_bind_iff (.setPooled none) _ _).mp hslot
    obtain ⟨_, closed, _, rfl, hc, hlaunch⟩ := (ends_lift_bind_iff _ _ _).mp hclose
    obtain rfl := (Prog.exec_call_iff _ _).mp hc
    obtain ⟨launched, rfl, rfl⟩ := ends_launch hlaunch
    exact ⟨some stale, closed, launched, rfl, rfl⟩

theorem connects_of_ends {r : Except FlowError Browser} (h : Ends connected log r) :
    Connects log r := by
  obtain ⟨slot, _, rfl, hslot⟩ := (ends_call_bind_iff .pooled _ _).mp h
  cases slot with
  | none =>
    obtain ⟨slot, closed, launched, rfl, rfl⟩ := ends_relaunch hslot
    exact .absent
  | some b =>
    obtain ⟨up, _, rfl, hup⟩ := (ends_call_bind_iff (.isConnected b) _ _).mp hslot
    cases up with
    | true =>
      obtain ⟨rfl, rfl⟩ := (ends_pure_iff _ _).mp hup
      exact .kept
    | false =>
      obtain ⟨slot, closed, launched, rfl, rfl⟩ := ends_relaunch hup
      exact .stale

theorem opens_of_ends {b : Browser} {r : Except FlowError (Browser × Page)}
    (h : Ends (openPage b) log r) : Opens b log r := by
  obtain ⟨_, answer, _, rfl, hc, hanswer⟩ := (ends_lift_bind_iff _ _ _).mp h
  obtain rfl := (Prog.exec_call_iff _ _).mp hc
  cases answer with
  | ok page =>
    obtain ⟨rfl, rfl⟩ := (ends_pure_iff _ _).mp hanswer
    exact .atOnce
  | error e =>
    obtain ⟨up, _, rfl, hup⟩ := (ends_call_bind_iff (.isConnected b) _ _).mp hanswer
    cases up with
    | true =>
      obtain ⟨rfl, rfl⟩ := (ends_throw_iff _ _).mp hup
      exact .refused
    | false =>
      rcases (ends_bind_iff _ _ _).mp hup with ⟨e', rfl, he⟩ | ⟨first, b', second, rfl, hb, hpage⟩
      · obtain ⟨slot, closed, launched, rfl, heq⟩ := ends_relaunch he
        cases launched with
        | ok b' => cases heq
        | error e'' =>
          obtain rfl := Except.error.inj heq
          exact .lost
      · obtain ⟨slot, closed, launched, rfl, heq⟩ := ends_relaunch hb
        cases launched with
        | error e' => cases heq
        | ok b'' =>
          obtain rfl := Except.ok.inj heq
          obtain ⟨o, ho, rfl⟩ := ends_map_iff.mp hpage
          obtain ⟨answer, ha, rfl⟩ := ends_mapError_iff.mp ho
          obtain rfl := (Prog.exec_call_iff _ _).mp ha
          exact .again

theorem provides_of_ends {r : Except FlowError (Page × ApiContext)} (h : Ends prepare log r) :
    Provides log r := by
  rcases (ends_bind_iff _ _ _).mp h with ⟨e, rfl, he⟩ | ⟨first, b, rest, rfl, hb, hrest⟩
  · exact .noBrowser (connects_of_ends he)
  rcases (ends_bind_iff _ _ _).mp hrest with
    ⟨e, rfl, he⟩ | ⟨second, ⟨b', page⟩, third, rfl, hp, hthird⟩
  · exact .noPage (connects_of_ends hb) (opens_of_ends he)
  obtain ⟨o, ho, rfl⟩ := ends_map_iff.mp hthird
  obtain ⟨_, answer, _, rfl, hc, hanswer⟩ := (ends_lift_bind_iff _ _ _).mp ho
  obtain rfl := (Prog.exec_call_iff _ _).mp hc
  rw [← List.append_assoc]
  cases answer with
  | ok api =>
    obtain ⟨rfl, rfl⟩ := (ends_pure_iff _ _).mp hanswer
    exact .ready (connects_of_ends hb) (opens_of_ends hp)
  | error e =>
    obtain ⟨_, closed, _, rfl, hclose, ht⟩ := (ends_lift_bind_iff _ _ _).mp hanswer
    obtain rfl := (Prog.exec_call_iff _ _).mp hclose
    obtain ⟨rfl, rfl⟩ := (ends_throw_iff _ _).mp ht
    exact .noContext (connects_of_ends hb) (opens_of_ends hp)

end Ways

/-! ## What the ways have in common -/

/-- Few launches and few pages: at most two of either. For a second page the first must have failed
and its browser have been found lost, and it is asked of a browser that was launched since. -/
structure Sparing (log : Log) : Prop where
  tried_le : (tried log).length ≤ 2
  asking_le : (asking log).length ≤ 2
  asked_again : 1 < (asking log).length → ∃ front b e middle b' answer rest,
    log = front ++ ⟨.newPage b, .error e⟩ :: ⟨.isConnected b, false⟩ :: middle ++
      ⟨.newPage b', answer⟩ :: rest ∧ (⟨.launch, .ok b'⟩ : Exchange) ∈ middle

/-- What the error is about: a launch, a page or a context that failed. -/
inductive Explains (log : Log) : FlowError → Prop
  | launch {e} : (⟨.launch, .error e⟩ : Exchange) ∈ log → Explains log (launchError e)
  | page {b e} : (⟨.newPage b, .error e⟩ : Exchange) ∈ log → Explains log (openError e)
  | context {b e} : (⟨.newApi b, .error e⟩ : Exchange) ∈ log → Explains log (apiError e)

/-- No page was opened or closed, or one was opened, and it was closed once after that. -/
def Undone (log : Log) : Prop :=
  (opened log = [] ∧ closings log = []) ∨ ∃ page first answer last,
    log = first ++ ⟨.closePage page, answer⟩ :: last ∧ opened first = [page] ∧
      closings first = [] ∧ opened last = [] ∧ closings last = []

/-- The browser was in the slot before and none was told to close, or it was launched by these
calls and none was told to close since. -/
def Unclosed (slot : Option Browser) (log : Log) (b : Browser) : Prop :=
  (slot = some b ∧ ended log = []) ∨ ∃ front rest,
    log = front ++ ⟨.launch, .ok b⟩ :: rest ∧ ended rest = []

section Common

variable {slot : Option Browser} {closed : Answer Unit} {launched : Answer Browser} {b : Browser}
  {first second last log : Log} {h h' : Host} {others : Host → Host → Prop}

@[simp] theorem tried_relaunchCalls : tried (relaunchCalls slot closed launched) = [launched] := by
  cases slot <;> cases launched <;> rfl

@[simp] theorem asking_relaunchCalls : asking (relaunchCalls slot closed launched) = [] := by
  cases slot <;> cases launched <;> rfl

@[simp] theorem opened_relaunchCalls : opened (relaunchCalls slot closed launched) = [] := by
  cases slot <;> cases launched <;> rfl

@[simp] theorem closings_relaunchCalls : closings (relaunchCalls slot closed launched) = [] := by
  cases slot <;> cases launched <;> rfl

theorem launch_mem_relaunchCalls :
    (⟨.launch, launched⟩ : Exchange) ∈ relaunchCalls slot closed launched := by
  simp [relaunchCalls]

theorem Explains.isSession {e : FlowError} (he : Explains log e) : IsSession e := by
  cases he with
  | launch _ => exact isSession_launchError _
  | page _ => exact ⟨_, rfl⟩
  | context _ => exact ⟨_, rfl⟩

theorem Explains.mono {e : FlowError} (he : Explains first e)
    (hs : ∀ x ∈ first, x ∈ log) : Explains log e := by
  cases he with
  | launch hm => exact .launch (hs _ hm)
  | page hm => exact .page (hs _ hm)
  | context hm => exact .context (hs _ hm)

theorem Sparing.framed (hl : Sparing log) (first : Log) (hf : tried first = [] ∧ asking first = [])
    (hr : tried last = [] ∧ asking last = []) : Sparing (first ++ log ++ last) where
  tried_le := by simpa [hf.1, hr.1] using hl.tried_le
  asking_le := by simpa [hf.2, hr.2] using hl.asking_le
  asked_again hn := by
    obtain ⟨front, b, e, middle, b', answer, rest, rfl, hm⟩ :=
      hl.asked_again (by simpa [hf.2, hr.2] using hn)
    exact ⟨first ++ front, b, e, middle, b', answer, rest ++ last, by simp, hm⟩

theorem Undone.framed (hl : Undone log) (first : Log) (hf : opened first = [] ∧ closings first = [])
    (hr : opened last = [] ∧ closings last = []) : Undone (first ++ log ++ last) := by
  rcases hl with ⟨ho, hc⟩ | ⟨page, front, answer, rest, rfl, ho, hc, hor, hcr⟩
  · exact Or.inl ⟨by simp [hf.1, ho, hr.1], by simp [hf.2, hc, hr.2]⟩
  · exact Or.inr ⟨page, first ++ front, answer, rest ++ last, by simp, by simp [hf.1, ho],
      by simp [hf.2, hc], by simp [hor, hr.1], by simp [hcr, hr.2]⟩

theorem explains_relaunchCalls {e : FlowError} (hr : launched.mapError launchError = .error e)
    (front : Log) : Explains (front ++ relaunchCalls slot closed launched) e := by
  cases launched with
  | ok b => cases hr
  | error e' =>
    obtain rfl := Except.error.inj hr
    exact .launch (List.mem_append_right front launch_mem_relaunchCalls)

/-- On the way to a browser there is one launch at most, and no page. -/
theorem Connects.sparing {r : Except FlowError Browser} (hc : Connects log r) :
    (tried log).length ≤ 1 ∧ asking log = [] ∧ opened log = [] ∧ closings log = [] := by
  cases hc with
  | kept => exact ⟨Nat.zero_le 1, rfl, rfl, rfl⟩
  | stale | absent => simp [Exchange.tried, Exchange.asking, Exchange.opened, Exchange.closing]

theorem Connects.explains {r : Except FlowError Browser} {e : FlowError} (hc : Connects log r)
    (he : r = .error e) : Explains log e := by
  cases hc with
  | kept => cases he
  | stale => exact explains_relaunchCalls he [_, _]
  | absent => exact explains_relaunchCalls he [_]

/-- On the way to a page there is one more launch at most, and the page that is opened, if any, is
the one that is found. -/
theorem Opens.sparing {r : Except FlowError (Browser × Page)} (ho : Opens b log r) :
    (tried log).length ≤ 1 ∧ (asking log).length ≤ 2 ∧
      opened log = r.toOption.toList.map Prod.snd ∧ closings log = [] := by
  cases ho with
  | atOnce => exact ⟨Nat.zero_le 1, Nat.le_succ 1, rfl, rfl⟩
  | refused => exact ⟨Nat.zero_le 1, Nat.le_succ 1, rfl, rfl⟩
  | lost =>
    simp [Exchange.tried, Exchange.asking, Exchange.opened, Exchange.closing, Except.toOption]
  | @again e slot closed b' answer =>
    cases answer <;> simp [Exchange.tried, Exchange.asking, Exchange.opened, Exchange.closing,
      Except.toOption, Except.mapError, Except.map]

theorem Opens.asked_again {r : Except FlowError (Browser × Page)} (ho : Opens b log r)
    (hn : 1 < (asking log).length) : ∃ e middle b' answer,
      log = ⟨.newPage b, .error e⟩ :: ⟨.isConnected b, false⟩ :: middle ++
        [⟨.newPage b', answer⟩] ∧ (⟨.launch, .ok b'⟩ : Exchange) ∈ middle := by
  cases ho with
  | atOnce => exact absurd hn (Nat.lt_irrefl 1)
  | refused => exact absurd hn (Nat.lt_irrefl 1)
  | lost => simp [Exchange.asking] at hn
  | again => exact ⟨_, _, _, _, rfl, launch_mem_relaunchCalls⟩

theorem Opens.explains {r : Except FlowError (Browser × Page)} {e : FlowError} (ho : Opens b log r)
    (he : r = .error e) : Explains log e := by
  cases ho with
  | atOnce => cases he
  | refused =>
    obtain rfl := Except.error.inj he
    exact .page List.mem_cons_self
  | lost =>
    obtain rfl := Except.error.inj he
    exact explains_relaunchCalls rfl [_, _]
  | @again _ _ _ b' answer =>
    cases answer with
    | ok page => cases he
    | error e' =>
      obtain rfl := Except.error.inj he
      exact .page (b := b') (by simp)

theorem Provides.sparing {r : Except FlowError (Page × ApiContext)} (hp : Provides log r) :
    Sparing log := by
  have hpage {first second b} {o : Except FlowError (Browser × Page)} {found}
      (hc : Connects first found) (ho : Opens b second o) : Sparing (first ++ second) := by
    obtain ⟨hct, hca, -⟩ := hc.sparing
    obtain ⟨hot, hoa, -⟩ := ho.sparing
    refine ⟨by simp; omega, by simpa [hca] using hoa, fun hn => ?_⟩
    obtain ⟨e, middle, b', answer, rfl, hm⟩ := ho.asked_again (by simpa [hca] using hn)
    exact ⟨first, b, e, middle, b', answer, [], by simp, hm⟩
  cases hp with
  | noBrowser hc =>
    obtain ⟨ht, ha, -⟩ := hc.sparing
    exact ⟨by omega, by simp [ha], fun hn => by simp [ha] at hn⟩
  | noPage hc ho => exact hpage hc ho
  | noContext hc ho => exact (hpage hc ho).framed [] ⟨rfl, rfl⟩ ⟨rfl, rfl⟩
  | ready hc ho => exact (hpage hc ho).framed [] ⟨rfl, rfl⟩ ⟨rfl, rfl⟩

/-- Whatever fails, the page that was opened is closed. -/
theorem Provides.undone {r : Except FlowError (Page × ApiContext)} {e : FlowError}
    (hp : Provides log r) (he : r = .error e) : Explains log e ∧ Undone log := by
  cases hp with
  | noBrowser hc =>
    obtain ⟨-, -, ho, hcl⟩ := hc.sparing
    obtain rfl := Except.error.inj he
    exact ⟨hc.explains rfl, Or.inl ⟨ho, hcl⟩⟩
  | noPage hc ho =>
    obtain ⟨-, -, hco, hcc⟩ := hc.sparing
    obtain ⟨-, -, hoo, hoc⟩ := ho.sparing
    obtain rfl := Except.error.inj he
    refine ⟨(ho.explains rfl).mono fun x => List.mem_append_right _, Or.inl ⟨?_, ?_⟩⟩
    · rw [opened_append, hco, hoo]
      rfl
    · rw [closings_append, hcc, hoc]
      rfl
  | @noContext first second b b' page e' closed hc ho =>
    obtain ⟨-, -, hco, hcc⟩ := hc.sparing
    obtain ⟨-, -, hoo, hoc⟩ := ho.sparing
    obtain rfl := Except.error.inj he
    refine ⟨.context (b := b') (by simp), Or.inr ⟨page, first ++ second ++
      [⟨.newApi b', .error e'⟩], closed, [], by simp, ?_, ?_, rfl, rfl⟩⟩
    · rw [opened_append, opened_append, hco, hoo]
      rfl
    · rw [closings_append, closings_append, hcc, hoc]
      rfl
  | ready => cases he

theorem Provides.opened_of_ok {page : Page} {api : ApiContext}
    {r : Except FlowError (Page × ApiContext)} (hp : Provides log r) (hr : r = .ok (page, api)) :
    opened log = [page] := by
  cases hp with
  | ready hc ho =>
    obtain ⟨-, -, hco, -⟩ := hc.sparing
    obtain ⟨-, -, hoo, -⟩ := ho.sparing
    obtain ⟨rfl, rfl⟩ := Prod.mk.inj (Except.ok.inj hr)
    rw [opened_append, opened_append, hco, hoo]
    rfl
  | _ => cases hr

end Common

/-! ## The slot -/

/-- What the slot holds was not closed since it came there. -/
def SlotUnclosed (slot : Option Browser) (log : Log) (h : Host) : Prop :=
  ∀ b, h.pooled = some b → Unclosed slot log b

section Slot

variable {v slot : Option Browser} {closed : Answer Unit} {launched : Answer Browser} {b : Browser}
  {first log : Log} {h h' : Host} {others : Host → Host → Prop}

theorem slotUnclosed_nil : SlotUnclosed h.pooled [] h := fun _ hb => Or.inl ⟨hb, rfl⟩

theorem Unclosed.append (hu : Unclosed v first b) (hl : ended log = []) :
    Unclosed v (first ++ log) b := by
  rcases hu with ⟨hb, he⟩ | ⟨front, rest, rfl, he⟩
  · exact Or.inl ⟨hb, by rw [ended_append, he, hl]; rfl⟩
  · exact Or.inr ⟨front, rest ++ log, by simp, by rw [ended_append, he, hl]; rfl⟩

theorem SlotUnclosed.append (hk : SlotUnclosed v first h)
    (ho : ∀ g g', others g g' → g'.pooled = g.pooled) (hp : h.Plays others log h')
    (hs : ∀ x ∈ log, x.op.movesBrowser = false) : SlotUnclosed v (first ++ log) h' := by
  have hpooled : h'.pooled = h.pooled :=
    hp.keep ho fun x hx _ _ hserves => (Exchange.stays (hs x hx)).2.2 hserves
  have hended : ended log = [] :=
    List.flatMap_eq_nil_iff.mpr fun x hx => (Exchange.stays (hs x hx)).2.1
  intro b hb
  rw [hpooled] at hb
  exact (hk b hb).append hended

theorem pooled_of_relaunch (ho : ∀ g g', others g g' → g'.pooled = g.pooled)
    (hp : h.Plays others (relaunchCalls slot closed launched) h') :
    h'.pooled = launched.toOption := by
  have hkeep {g g' : Host} {rest : Log} (hr : g.Plays others rest g')
      (hs : ∀ x ∈ rest, ∀ v, x.op ≠ .setPooled v) : g'.pooled = g.pooled :=
    hr.keep ho fun x hx _ _ hserves => hserves.pooled_eq (hs x hx)
  cases launched with
  | ok b =>
    have hlast : relaunchCalls slot closed (.ok b) = ⟨.pooled, slot⟩ ::
        (slot.toList.flatMap fun b => [⟨.setPooled none, ()⟩, ⟨.closeBrowser b, closed⟩]) ++
        [⟨.launch, .ok b⟩, ⟨.countLaunch, ()⟩] ++ [⟨.setPooled (some b), ()⟩] := by
      simp [relaunchCalls]
    rw [hlast] at hp
    obtain ⟨_, -, hset⟩ := Host.plays_append_iff.mp hp
    obtain ⟨_, _, -, ⟨rfl, -⟩, hend⟩ := Host.plays_cons_iff.mp hset
    cases hend
    rfl
  | error e =>
    obtain ⟨_, g, -, hlook, hrest⟩ := Host.plays_cons_iff.mp hp
    cases slot with
    | none =>
      have hnone : none = g.pooled := by
        rw [hlook.pooled_eq nofun]
        exact hlook.2 _ rfl
      rw [hkeep hrest (by simp), ← hnone]
      rfl
    | some stale =>
      obtain ⟨_, _, -, ⟨rfl, -⟩, hend⟩ := Host.plays_cons_iff.mp hrest
      rw [hkeep hend (by simp)]
      rfl

/-- Whatever was called before a replacement, the browser in the slot is the one that it launched. -/
theorem slotUnclosed_relaunch (front : Log) (ho : ∀ g g', others g g' → g'.pooled = g.pooled)
    (hp : h.Plays others (front ++ relaunchCalls slot closed launched) h') :
    SlotUnclosed v (first ++ (front ++ relaunchCalls slot closed launched)) h' := by
  obtain ⟨_, -, hr⟩ := Host.plays_append_iff.mp hp
  intro b hb
  rw [pooled_of_relaunch ho hr] at hb
  cases launched with
  | error e => cases hb
  | ok b' =>
    obtain rfl := Option.some.inj hb
    cases slot with
    | none =>
      exact Or.inr ⟨first ++ front ++ [⟨.pooled, none⟩],
        [⟨.countLaunch, ()⟩, ⟨.setPooled (some b'), ()⟩], by simp [relaunchCalls], rfl⟩
    | some stale =>
      exact Or.inr ⟨first ++ front ++ [⟨.pooled, some stale⟩, ⟨.setPooled none, ()⟩,
        ⟨.closeBrowser stale, closed⟩],
        [⟨.countLaunch, ()⟩, ⟨.setPooled (some b'), ()⟩], by simp [relaunchCalls], rfl⟩

theorem Connects.slotUnclosed {r : Except FlowError Browser} (hk : SlotUnclosed v first h)
    (ho : ∀ g g', others g g' → g'.pooled = g.pooled) (hp : h.Plays others log h')
    (hc : Connects log r) : SlotUnclosed v (first ++ log) h' := by
  cases hc with
  | kept => exact hk.append ho hp (by simp [Op.movesBrowser])
  | stale => exact slotUnclosed_relaunch [_, _] ho hp
  | absent => exact slotUnclosed_relaunch [_] ho hp

theorem Opens.slotUnclosed {r : Except FlowError (Browser × Page)} (hk : SlotUnclosed v first h)
    (ho : ∀ g g', others g g' → g'.pooled = g.pooled) (hp : h.Plays others log h')
    (hopens : Opens b log r) : SlotUnclosed v (first ++ log) h' := by
  cases hopens with
  | atOnce | refused => exact hk.append ho hp (by simp [Op.movesBrowser])
  | lost => exact slotUnclosed_relaunch [_, _] ho hp
  | @again e slot closed b' answer =>
    obtain ⟨g, hr, hlast⟩ := Host.plays_append_iff.mp hp
    have hs : SlotUnclosed v (first ++ ([⟨.newPage b, .error e⟩, ⟨.isConnected b, false⟩] ++
        relaunchCalls slot closed (.ok b'))) g := slotUnclosed_relaunch _ ho hr
    have hl := hs.append ho hlast (by simp [Op.movesBrowser])
    rwa [List.append_assoc] at hl

theorem Provides.slotUnclosed {r : Except FlowError (Page × ApiContext)}
    (hk : SlotUnclosed v first h)
    (ho : ∀ g g', others g g' → g'.pooled = g.pooled) (hp : h.Plays others log h')
    (hr : Provides log r) : SlotUnclosed v (first ++ log) h' := by
  cases hr with
  | noBrowser hc => exact hc.slotUnclosed hk ho hp
  | noPage hc hopens =>
    obtain ⟨g, hf, hs⟩ := Host.plays_append_iff.mp hp
    rw [← List.append_assoc]
    exact hopens.slotUnclosed (hc.slotUnclosed hk ho hf) ho hs
  | noContext hc hopens | ready hc hopens =>
    obtain ⟨g', hfs, hl⟩ := Host.plays_append_iff.mp hp
    obtain ⟨g, hf, hs⟩ := Host.plays_append_iff.mp hfs
    rw [← List.append_assoc, ← List.append_assoc]
    have hopened := hopens.slotUnclosed (hc.slotUnclosed hk ho hf) ho hs
    exact hopened.append ho hl (by simp [Op.movesBrowser])

end Slot

/-- What an acquire has done without a session: the error is that of a failed launch, page or
context, what was opened is closed, and no session is counted in or out. -/
structure Refused (log : Log) (e : FlowError) : Prop where
  explained : Explains log e
  isSession : ∃ text, e = .session text
  undone : Undone log
  uncounted : entered log = [] ∧ left log = []

/-- What an acquire has done with a session: it owns the only page that was opened. -/
structure Granted (log : Log) (s : Session) : Prop where
  owned : opened log = [s.page]
  stays : closings log = []
  counted : entered log = [s] ∧ left log = []

section Acquire

variable {log : Log} {h h' : Host} {others : Host → Host → Prop}

theorem sparing_of_acquire {r : Except FlowError Session} (ha : Ends acquire log r) :
    Sparing log := by
  obtain ⟨body, ⟨e, hp, -, rfl⟩ | ⟨page, api, s, hp, -, rfl⟩⟩ := ends_acquire ha
  · exact (provides_of_ends hp).sparing.framed [⟨.lockPool, ()⟩] ⟨rfl, rfl⟩ ⟨rfl, rfl⟩
  · exact (provides_of_ends hp).sparing.framed [⟨.lockPool, ()⟩] ⟨rfl, rfl⟩ ⟨rfl, rfl⟩

theorem refused_of_acquire {e : FlowError} (ha : Ends acquire log (.error e)) : Refused log e := by
  obtain ⟨hsession, hcounted⟩ := projections_acquire_error ha
  obtain ⟨body, ⟨e', hp, he, rfl⟩ | ⟨page, api, s, -, hs, -⟩⟩ := ends_acquire ha
  · obtain rfl := Except.error.inj he
    obtain ⟨hexplained, hundone⟩ := (provides_of_ends hp).undone rfl
    exact ⟨hexplained.mono fun x hx => by simp [hx], hsession,
      hundone.framed [⟨.lockPool, ()⟩] ⟨rfl, rfl⟩ ⟨rfl, rfl⟩, hcounted⟩
  · cases hs

theorem granted_of_acquire {s : Session} (ha : Ends acquire log (.ok s))
    (hp : h.Plays others log h') : Granted log s := by
  obtain ⟨hentered, hleft, hclosings⟩ := projections_acquire ha
  obtain ⟨body, ⟨e, -, he, -⟩ | ⟨page, api, t, hbody, ht, rfl⟩⟩ := ends_acquire ha
  · cases he
  · obtain rfl := Except.ok.inj ht
    have hpage : s.page = page := by
      rw [locked_enter] at hp
      obtain ⟨g, -, hl⟩ := Host.plays_append_iff.mp hp
      obtain ⟨g', _, -, hs, -⟩ := Host.plays_cons_iff.mp hl
      have hanswer : s = ⟨g'.sessionCount + 1, page, api⟩ := hs.2 _ rfl
      rw [hanswer]
    refine ⟨?_, hclosings, hentered, hleft⟩
    have hopened : opened body = [page] := (provides_of_ends hbody).opened_of_ok rfl
    simp [hopened, hpage, Exchange.opened]

theorem slot_of_acquire {r : Except FlowError Session} (ha : Ends acquire log r)
    (ho : ∀ g g', others g g' → g'.pooled = g.pooled) (hp : h.Plays others log h') :
    SlotUnclosed h.pooled log h' := by
  have hbody {body last : Log} {o : Except FlowError (Page × ApiContext)} (hb : Ends prepare body o)
      (hp : h.Plays others ([⟨.lockPool, ()⟩] ++ body ++ last) h')
      (hl : ∀ x ∈ last, x.op.movesBrowser = false) :
      SlotUnclosed h.pooled ([⟨.lockPool, ()⟩] ++ body ++ last) h' := by
    obtain ⟨g', hfb, hlast⟩ := Host.plays_append_iff.mp hp
    obtain ⟨g, hf, hplays⟩ := Host.plays_append_iff.mp hfb
    have hlock : SlotUnclosed h.pooled [⟨.lockPool, ()⟩] g :=
      slotUnclosed_nil.append ho hf (by simp [Op.movesBrowser])
    exact ((provides_of_ends hb).slotUnclosed hlock ho hplays).append ho hlast hl
  obtain ⟨body, ⟨e, hb, -, rfl⟩ | ⟨page, api, s, hb, -, rfl⟩⟩ := ends_acquire ha
  · exact hbody hb hp (by simp [Op.movesBrowser])
  · exact hbody hb hp (by simp [Op.movesBrowser])

theorem active_of_refused (hu : entered log = [] ∧ left log = [])
    (ho : ∀ g g', others g g' → g'.active = g.active) (hp : h.Plays others log h') :
    h'.active = h.active := by
  refine hp.keep ho fun x hx g g' hs => ?_
  have hentered : x.entered = [] := List.flatMap_eq_nil_iff.mp hu.1 x hx
  have hleft : x.left = [] := List.flatMap_eq_nil_iff.mp hu.2 x hx
  have hactive := hs.active (by simp [hleft])
  simpa [hentered, hleft] using hactive

end Acquire

/-- Taking a session from a pool in any state, with any driver. It comes to its end. It launches
twice at most and asks for a page twice at most, and the second time only after the first has
failed and its browser was found lost, of a browser launched since. With a session, the one page
that was opened is the page of the session. Without one there is a session error about what failed,
the page that was opened, if any, has been closed once, and the number of active sessions stays.
Whatever becomes of it, the slot is empty or holds a browser that was not closed since it came
there; others may do anything meanwhile but change the slot, which is locked. -/
theorem acquisition_accounted :
    (∀ (h : Host) (drive : Prog.Behaviour Op Reply), ∃ log r, Ends acquire log r ∧
      (h.along drive).Gives [] log ∧ h.Plays Eq log (h.after log)) ∧
    ∀ (others : Host → Host → Prop) (h h' : Host) (log : Log) (r : Except FlowError Session),
      (∀ g g', others g g' → g'.pooled = g.pooled) → h.Plays others log h' → Ends acquire log r →
        Sparing log ∧ (∀ s, r = .ok s → Granted log s) ∧
        (∀ e, r = .error e → Refused log e ∧
          ((∀ g g', others g g' → g'.active = g.active) → h'.active = h.active)) ∧
        (h'.pooled = none ∨ ∃ b, h'.pooled = some b ∧ Unclosed h.pooled log b) := by
  refine ⟨fun h drive => Host.exists_plays h drive _, fun others h h' log r ho hp ha => ?_⟩
  refine ⟨sparing_of_acquire ha, ?_, ?_, ?_⟩
  · rintro s rfl
    exact granted_of_acquire ha hp
  · rintro e rfl
    have hrefused : Refused log e := refused_of_acquire ha
    exact ⟨hrefused, fun hactive => active_of_refused hrefused.uncounted hactive hp⟩
  · cases hslot : h'.pooled with
    | none => exact Or.inl rfl
    | some b => exact Or.inr ⟨b, rfl, slot_of_acquire ha ho hp b hslot⟩

section Samples

def staleHost : Host := { Host.start with pooled := some ⟨1⟩, launches := 1, active := 1 }

/-- An acquire on a bad day: the browser in the slot is stale, the next one is lost while it opens a
page, and the last one opens a page but no context. -/
def badDay : Log :=
  [⟨.lockPool, ()⟩, ⟨.pooled, some ⟨1⟩⟩, ⟨.isConnected ⟨1⟩, false⟩] ++
  relaunchCalls (some ⟨1⟩) (.error (.session "gone")) (.ok ⟨2⟩) ++
  [⟨.newPage ⟨2⟩, .error (.session "crashed")⟩, ⟨.isConnected ⟨2⟩, false⟩] ++
  relaunchCalls (some ⟨2⟩) (.ok ()) (.ok ⟨3⟩) ++
  [⟨.newPage ⟨3⟩, .ok ⟨7⟩⟩, ⟨.newApi ⟨3⟩, .error (.http "builder error")⟩,
    ⟨.closePage ⟨7⟩, .error (.devTools "gone")⟩, ⟨.unlockPool, ()⟩]

end Samples

/-- The page of the bad day is closed, and the last browser stays in the slot. -/
theorem acquisition_accounted_badDay :
    staleHost.Plays Eq badDay (staleHost.after badDay) ∧
    Refused badDay (.session "failed to create API context: HTTP error: builder error") ∧
    (tried badDay).length = 2 ∧ opened badDay = [⟨7⟩] ∧ closings badDay = [⟨7⟩] ∧
    (staleHost.after badDay).active = 1 ∧ (staleHost.after badDay).pooled = some ⟨3⟩ ∧
    Unclosed staleHost.pooled badDay ⟨3⟩ := by
  have hp : staleHost.Plays Eq badDay (staleHost.after badDay) := by
    repeat (first | exact .nil _ | refine .cons rfl ⟨rfl, by rintro f hf; cases hf <;> rfl⟩ ?_)
  have ha : Ends acquire badDay
      (.error (.session "failed to create API context: HTTP error: builder error")) := by
    repeat (first | exact .done _ | refine .ask _ ?_)
  obtain ⟨-, -, herror, hslot⟩ := acquisition_accounted.2 Eq _ _ _ _
    (fun g g' hg => by rw [hg]) hp ha
  obtain ⟨hrefused, hactive⟩ := herror _ rfl
  refine ⟨hp, hrefused, rfl, rfl, rfl, hactive fun g g' hg => by rw [hg], rfl, ?_⟩
  rcases hslot with hn | ⟨b, hb, hu⟩
  · cases hn
  · obtain rfl : (⟨3⟩ : Browser) = b := Option.some.inj hb
    exact hu

end Pool
end PageFlow
