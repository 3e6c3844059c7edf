import PageFlow.Engine.Pool
import PageFlow.Proofs.Attempts
import PageFlow.Proofs.Hosting

/-! What taking a session from the pool and giving it back comes to. Whatever fails on the way to
a session is a session error, only the last call of all counts the session in, and no page is
closed unless there is no session. A release always makes the same calls, but for the one that
closes the page. -/
namespace PageFlow
namespace Engine

def Exchange.entered : Exchange → List Session
  | ⟨.enter _ _, s⟩ => [s]
  | _ => []

def Exchange.left : Exchange → List Session
  | ⟨.leave s, _⟩ => [s]
  | _ => []

def Exchange.closing : Exchange → List Page
  | ⟨.closePage p, _⟩ | ⟨.closePageLater p, _⟩ => [p]
  | _ => []

def entered (log : Log) : List Session := log.flatMap Exchange.entered
def left (log : Log) : List Session := log.flatMap Exchange.left
def closings (log : Log) : List Page := log.flatMap Exchange.closing

section Projections

variable {first second log : Log}

@[simp] theorem entered_cons (x : Exchange) : entered (x :: log) = x.entered ++ entered log := rfl
@[simp] theorem left_cons (x : Exchange) : left (x :: log) = x.left ++ left log := rfl

@[simp] theorem closings_cons (x : Exchange) :
    closings (x :: log) = x.closing ++ closings log := rfl

@[simp] theorem entered_append : entered (first ++ second) = entered first ++ entered second :=
  List.flatMap_append

@[simp] theorem left_append : left (first ++ second) = left first ++ left second :=
  List.flatMap_append

@[simp] theorem closings_append : closings (first ++ second) = closings first ++ closings second :=
  List.flatMap_append

def Op.isUncounted : Op → Bool
  | .enter _ _ | .leave _ | .markReleased _ => false
  | _ => true

def Op.isNeutral : Op → Bool
  | .enter _ _ | .leave _ | .markReleased _ | .closePage _ | .closePageLater _ => false
  | _ => true

def Op.isOfPool : Op → Bool
  | .lockPool | .unlockPool | .pooled | .setPooled _ | .countLaunch | .launch | .isConnected _
  | .closeBrowser _ | .newPage _ | .newApi _ | .isClosed _ | .closePage _ | .closePageLater _
  | .enter _ _ | .leave _ | .markReleased _ => true
  | _ => false

theorem Exchange.uncounted {x : Exchange} (h : x.op.isUncounted = true) :
    x.entered = [] ∧ x.left = [] := by
  obtain ⟨op, r⟩ := x
  cases op <;> first | exact ⟨rfl, rfl⟩ | cases h

theorem uncounted (h : ∀ x ∈ log, x.op.isUncounted = true) : entered log = [] ∧ left log = [] :=
  ⟨List.flatMap_eq_nil_iff.mpr fun x hx => (Exchange.uncounted (h x hx)).1,
    List.flatMap_eq_nil_iff.mpr fun x hx => (Exchange.uncounted (h x hx)).2⟩

theorem Exchange.length_entered_le (x : Exchange) : x.entered.length ≤ 1 := by
  obtain ⟨op, r⟩ := x
  cases op <;> first | exact Nat.le_refl 1 | exact Nat.zero_le 1

theorem closings_eq_nil (h : ∀ x ∈ log, x.op.isNeutral = true) : closings log = [] := by
  refine List.flatMap_eq_nil_iff.mpr fun x hx => ?_
  obtain ⟨op, r⟩ := x
  have hn := h _ hx
  cases op <;> first | rfl | cases hn

end Projections
end Engine

namespace Pool

open Engine

def IsSession (e : FlowError) : Prop := ∃ text, e = .session text

/-- The attempt keeps to the pool, has nothing to do with sessions, closes no page and fails with
session errors. -/
abbrev Neutral (a : Attempt τ) : Prop :=
  Confined (fun op => op.isOfPool = true ∧ op.isNeutral = true) IsSession a

section Neutral

variable {f : FlowError → FlowError}

theorem neutral_mapError (hf : ∀ e, IsSession (f e)) {a : Attempt τ}
    (ha : AsksOnly (fun op => op.isOfPool = true ∧ op.isNeutral = true) a) : Neutral (mapError f a) := by
  refine confined_bind (confined_outcome ha) fun r => ?_
  cases r with
  | ok v => exact confined_pure v
  | error e => exact confined_throw (hf e)

theorem isSession_launchError (e : FlowError) : IsSession (launchError e) := by
  unfold launchError
  split <;> exact ⟨_, rfl⟩

theorem neutral_relaunch : Neutral relaunch := by
  refine confined_bind (confined_lift ⟨rfl, rfl⟩ rfl) fun slot => ?_
  have hr : Neutral (do
      let browser ← mapError launchError launch
      countLaunch
      setPooled (some browser)
      pure browser) :=
    confined_bind (neutral_mapError isSession_launchError (asksOnly_call ⟨rfl, rfl⟩ rfl)) fun _ =>
      confined_bind (confined_lift ⟨rfl, rfl⟩ rfl) fun _ =>
        confined_bind (confined_lift ⟨rfl, rfl⟩ rfl) fun _ => confined_pure _
  cases slot with
  | none => exact hr
  | some stale =>
    refine confined_bind (confined_lift ⟨rfl, rfl⟩ rfl) fun _ => ?_
    exact confined_bind (confined_outcome (asksOnly_call ⟨rfl, rfl⟩ rfl)) fun _ => hr

theorem neutral_connected : Neutral connected := by
  refine confined_bind (confined_lift ⟨rfl, rfl⟩ rfl) fun slot => ?_
  cases slot with
  | none => exact neutral_relaunch
  | some browser =>
    refine confined_bind (confined_lift ⟨rfl, rfl⟩ rfl) fun up => ?_
    split
    · exact confined_pure _
    · exact neutral_relaunch

theorem neutral_openPage (browser : Browser) : Neutral (openPage browser) := by
  refine confined_bind (confined_outcome (asksOnly_call ⟨rfl, rfl⟩ rfl)) fun r => ?_
  cases r with
  | ok page => exact confined_pure _
  | error e =>
    refine confined_bind (confined_lift ⟨rfl, rfl⟩ rfl) fun up => ?_
    split
    · exact confined_throw ⟨_, rfl⟩
    · refine confined_bind neutral_relaunch fun browser => ?_
      have hn : Neutral (mapError openError (newPage browser)) :=
        neutral_mapError (fun e => ⟨_, rfl⟩) (asksOnly_call ⟨rfl, rfl⟩ rfl)
      exact confined_bind hn fun _ => confined_pure _

end Neutral

theorem confined_openApi (browser : Browser) (page : Page) :
    Confined (fun op => op.isOfPool = true ∧ op.isUncounted = true) IsSession
      (openApi browser page) := by
  refine confined_bind (confined_outcome (asksOnly_call ⟨rfl, rfl⟩ rfl)) fun r => ?_
  cases r with
  | ok api => exact confined_pure _
  | error e =>
    refine confined_bind (confined_outcome (asksOnly_call ⟨rfl, rfl⟩ rfl)) fun _ => ?_
    exact confined_throw ⟨_, rfl⟩

theorem ends_openApi_ok {browser : Browser} {page : Page} {log : Log} {api : ApiContext}
    (h : Ends (openApi browser page) log (.ok api)) : log = [⟨.newApi browser, .ok api⟩] := by
  obtain ⟨first, r, second, rfl, hc, hr⟩ := (ends_lift_bind_iff _ _ _).mp h
  obtain rfl := (Prog.exec_call_iff _ _).mp hc
  cases r with
  | ok v =>
    obtain ⟨rfl, hv⟩ := (ends_pure_iff _ _).mp hr
    rw [Except.ok.inj hv]; rfl
  | error e =>
    obtain ⟨_, _, _, -, -, ht⟩ := (ends_lift_bind_iff _ _ _).mp hr
    obtain ⟨-, hv⟩ := (ends_throw_iff _ _).mp ht
    cases hv

theorem isUncounted_of_isNeutral {op : Op} (h : op.isNeutral = true) : op.isUncounted = true := by
  cases op <;> first | rfl | cases h

theorem confined_prepare :
    Confined (fun op => op.isOfPool = true ∧ op.isUncounted = true) IsSession prepare := by
  have hu (op : Op) (h : op.isOfPool = true ∧ op.isNeutral = true) :
      op.isOfPool = true ∧ op.isUncounted = true := ⟨h.1, isUncounted_of_isNeutral h.2⟩
  refine confined_bind (neutral_connected.mono hu) fun browser => ?_
  refine confined_bind ((neutral_openPage browser).mono hu) fun opened => ?_
  exact confined_bind (confined_openApi _ _) fun _ => confined_pure _

theorem closings_prepare {log : Log} {v : Page × ApiContext} (h : Ends prepare log (.ok v)) :
    closings log = [] := by
  rcases (ends_bind_iff _ _ _).mp h with ⟨e, he, -⟩ | ⟨first, browser, rest, rfl, hc, h⟩
  · cases he
  rcases (ends_bind_iff _ _ _).mp h with ⟨e, he, -⟩ | ⟨second, ⟨b, page⟩, rest, rfl, ho, h⟩
  · cases he
  rcases (ends_bind_iff _ _ _).mp h with ⟨e, he, -⟩ | ⟨third, api, rest, rfl, ha, h⟩
  · cases he
  obtain ⟨rfl, -⟩ := (ends_pure_iff _ _).mp h
  obtain rfl := ends_openApi_ok ha
  rw [closings_append, closings_append,
    closings_eq_nil fun x hx => ((neutral_connected _ _ hc).1 x hx).2,
    closings_eq_nil fun x hx => ((neutral_openPage _ _ _ ho).1 x hx).2]
  rfl

/-- All that taking a session does: the pool is locked while a page and a context are prepared, and
the session is counted in by the last call. -/
theorem ends_acquire {log : Log} {r : Except FlowError Session} (h : Ends acquire log r) :
    ∃ body,
      (∃ e, Ends prepare body (.error e) ∧ r = .error e ∧
        log = ⟨.lockPool, ()⟩ :: body ++ [⟨.unlockPool, ()⟩]) ∨
      ∃ page api s, Ends prepare body (.ok (page, api)) ∧ r = .ok s ∧
        log = ⟨.lockPool, ()⟩ :: body ++ [⟨.unlockPool, ()⟩, ⟨.enter page api, s⟩] := by
  obtain ⟨_, _, rfl, hp⟩ := (ends_call_bind_iff .lockPool _ _).mp h
  obtain ⟨body, prepared, _, rfl, hb, hu⟩ := (ends_lift_bind_iff _ _ _).mp hp
  obtain ⟨_, _, rfl, hr⟩ := (ends_call_bind_iff .unlockPool _ _).mp hu
  cases prepared with
  | error e =>
    obtain ⟨rfl, rfl⟩ := (ends_throw_iff e _).mp hr
    exact ⟨body, Or.inl ⟨e, hb, rfl, rfl⟩⟩
  | ok v =>
    obtain ⟨s, rfl, hs⟩ := (ends_lift_iff _ _).mp hr
    obtain rfl := (Prog.exec_call_iff _ _).mp hs
    exact ⟨body, Or.inr ⟨v.1, v.2, s, hb, rfl, rfl⟩⟩

theorem locked_enter (body : Log) (page : Page) (api : ApiContext) (s : Session) :
    ⟨.lockPool, ()⟩ :: body ++ [⟨.unlockPool, ()⟩, ⟨.enter page api, s⟩] =
      (⟨.lockPool, ()⟩ :: body ++ [⟨.unlockPool, ()⟩]) ++ [⟨.enter page api, s⟩] := by simp

theorem uncounted_locked {body : Log} {r : Except FlowError (Page × ApiContext)}
    (h : Ends prepare body r) :
    ∀ x ∈ ⟨.lockPool, ()⟩ :: body ++ [⟨.unlockPool, ()⟩], x.op.isUncounted = true := by
  refine List.forall_mem_append.mpr ⟨List.forall_mem_cons.mpr ⟨rfl, ?_⟩, ?_⟩
  · exact fun x hx => ((confined_prepare _ _ h).1 x hx).2
  · exact List.forall_mem_singleton.mpr rfl

theorem asksOnly_acquire :
    AsksOnly (fun op => op.isUncounted = true ∨ ∃ p a, op = .enter p a) acquire := by
  intro log r hr
  refine ⟨?_, fun _ _ => trivial⟩
  obtain ⟨body, ⟨e, hp, -, rfl⟩ | ⟨page, api, s, hp, -, rfl⟩⟩ := ends_acquire hr
  · exact fun x hx => Or.inl (uncounted_locked hp x hx)
  · rw [locked_enter]
    refine List.forall_mem_append.mpr ⟨fun x hx => Or.inl (uncounted_locked hp x hx), ?_⟩
    exact List.forall_mem_singleton.mpr (Or.inr ⟨page, api, rfl⟩)

theorem confined_acquire : Confined (fun op => op.isOfPool = true) IsSession acquire := by
  intro log r hr
  obtain ⟨body, ⟨e, hp, rfl, rfl⟩ | ⟨page, api, s, hp, rfl, rfl⟩⟩ := ends_acquire hr
  · obtain ⟨ho, he⟩ := confined_prepare _ _ hp
    refine ⟨?_, fun e' h => he e' (by rw [Except.error.inj h])⟩
    exact List.forall_mem_append.mpr ⟨List.forall_mem_cons.mpr ⟨rfl, fun x hx => (ho x hx).1⟩,
      List.forall_mem_singleton.mpr rfl⟩
  · obtain ⟨ho, -⟩ := confined_prepare _ _ hp
    refine ⟨?_, fun e' h => by cases h⟩
    exact List.forall_mem_append.mpr ⟨List.forall_mem_cons.mpr ⟨rfl, fun x hx => (ho x hx).1⟩,
      List.forall_mem_cons.mpr ⟨rfl, List.forall_mem_singleton.mpr rfl⟩⟩

theorem asksOnly_shutdown : AsksOnly (fun op => op.isUncounted = true) shutdown := by
  refine confined_bind (confined_lift rfl rfl) fun _ => ?_
  refine confined_bind (confined_lift rfl rfl) fun browser => ?_
  refine confined_bind (confined_lift rfl rfl) fun _ => ?_
  refine confined_bind (confined_lift rfl rfl) fun _ => ?_
  cases browser with
  | none => exact confined_pure _
  | some b => exact asksOnly_call rfl rfl

def discardCalls (s : Session) : Bool → Log
  | true => [⟨.markReleased s, true⟩]
  | false => [⟨.markReleased s, false⟩, ⟨.leave s, ()⟩, ⟨.closePageLater s.page, ()⟩]

def closeCalls (s : Session) (closed : Bool) (answer : Except FlowError Unit) : Log :=
  ⟨.isClosed s.page, closed⟩ :: if closed then [] else [⟨.closePage s.page, answer⟩]

def releaseCalls (s : Session) (was closed : Bool) (answer : Except FlowError Unit)
    (again : Bool) : Log :=
  ⟨.markReleased s, was⟩ :: ⟨.leave s, ()⟩ :: (closeCalls s closed answer ++ discardCalls s again)

theorem ends_discard {s : Session} {log : Log} {r : Except FlowError Unit}
    (h : Ends (discard s) log r) : ∃ was, log = discardCalls s was ∧ r = .ok () := by
  obtain ⟨was, _, rfl, hr⟩ := (ends_call_bind_iff (.markReleased s) _ _).mp h
  cases was with
  | true =>
    obtain ⟨rfl, rfl⟩ := (ends_pure_iff _ _).mp hr
    exact ⟨true, rfl, rfl⟩
  | false =>
    obtain ⟨_, _, rfl, hl⟩ := (ends_call_bind_iff (.leave s) _ _).mp hr
    obtain ⟨_, rfl, hc⟩ := (ends_lift_iff _ _).mp hl
    obtain rfl := (Prog.exec_call_iff _ _).mp hc
    exact ⟨false, rfl, rfl⟩

theorem ends_close {s : Session} {log : Log} {r : Except FlowError Unit}
    (h : Ends (do if ← isClosed s.page then pure () else closePage s.page) log r) :
    ∃ closed answer, log = closeCalls s closed answer := by
  obtain ⟨closed, _, rfl, hr⟩ := (ends_call_bind_iff (.isClosed s.page) _ _).mp h
  cases closed with
  | true =>
    obtain ⟨rfl, -⟩ := (ends_pure_iff _ _).mp hr
    exact ⟨true, .ok (), rfl⟩
  | false =>
    obtain rfl := (Prog.exec_call_iff _ _).mp hr
    exact ⟨false, r, rfl⟩

/-- All that a release does: the session is marked and counted out, its page is closed if it has
not closed itself, and last the session is given up, whatever became of its page. -/
theorem ends_release {s : Session} {log : Log} {r : Except FlowError Unit}
    (h : Ends (release s) log r) :
    ∃ was closed answer again, log = releaseCalls s was closed answer again := by
  obtain ⟨was, _, rfl, hl⟩ := (ends_call_bind_iff (.markReleased s) _ _).mp h
  obtain ⟨_, _, rfl, hp⟩ := (ends_call_bind_iff (.leave s) _ _).mp hl
  obtain ⟨first, o, second, rfl, hc, hr⟩ := (ends_lift_bind_iff _ _ _).mp hp
  obtain ⟨closed, answer, rfl⟩ := ends_close hc
  rcases (ends_bind_iff _ _ _).mp hr with ⟨e, -, hd⟩ | ⟨third, v, fourth, rfl, hd, ho⟩
  · obtain ⟨was, -, he⟩ := ends_discard hd
    cases he
  · obtain ⟨again, rfl, -⟩ := ends_discard hd
    obtain ⟨rfl, -⟩ := (ends_ofAnswer_iff _ _).mp ho
    exact ⟨was, closed, answer, again, by rw [List.append_nil]; rfl⟩

theorem asksOnly_release (s : Session) : AsksOnly (fun op => op.isOfPool = true) (release s) := by
  intro log r hr
  obtain ⟨was, closed, answer, again, rfl⟩ := ends_release hr
  refine ⟨?_, fun _ _ => trivial⟩
  cases closed <;> cases again <;> simp [releaseCalls, closeCalls, discardCalls, Op.isOfPool]

def shutdownCalls (slot : Option Browser) (answer : Except FlowError Unit) : Log :=
  [⟨.lockPool, ()⟩, ⟨.pooled, slot⟩, ⟨.setPooled none, ()⟩, ⟨.unlockPool, ()⟩] ++
    slot.toList.map fun b => ⟨.closeBrowser b, answer⟩

theorem ends_shutdown_iff {log : Log} {r : Except FlowError Unit} :
    Ends shutdown log r ↔ ∃ slot, log = shutdownCalls slot r ∧ (slot = none → r = .ok ()) := by
  constructor
  · intro h
    obtain ⟨_, _, rfl, hp⟩ := (ends_call_bind_iff .lockPool _ _).mp h
    obtain ⟨slot, _, rfl, hs⟩ := (ends_call_bind_iff .pooled _ _).mp hp
    obtain ⟨_, _, rfl, hu⟩ := (ends_call_bind_iff (.setPooled none) _ _).mp hs
    obtain ⟨_, _, rfl, hr⟩ := (ends_call_bind_iff .unlockPool _ _).mp hu
    cases slot with
    | none =>
      obtain ⟨rfl, rfl⟩ := (ends_pure_iff _ _).mp hr
      exact ⟨none, rfl, fun _ => rfl⟩
    | some b =>
      obtain ⟨_, rfl, rfl⟩ := (ends_answer_iff rfl _).mp hr
      exact ⟨some b, rfl, nofun⟩
  · rintro ⟨slot, rfl, hr⟩
    refine (ends_call_bind_iff .lockPool _ _).mpr ⟨(), _, rfl, ?_⟩
    refine (ends_call_bind_iff .pooled _ _).mpr ⟨slot, _, rfl, ?_⟩
    refine (ends_call_bind_iff (.setPooled none) _ _).mpr ⟨(), _, rfl, ?_⟩
    refine (ends_call_bind_iff .unlockPool _ _).mpr ⟨(), _, rfl, ?_⟩
    cases slot with
    | none =>
      rw [hr rfl]
      exact .done _
    | some b =>
      have hc : Ends (closeBrowser b) [⟨.closeBrowser b, r⟩] r :=
        (ends_answer_iff rfl _).mpr ⟨r, rfl, rfl⟩
      exact hc

variable {s : Session} {was closed : Bool} {answer : Except FlowError Unit}

theorem entered_releaseCalls : entered (releaseCalls s was closed answer true) = [] := by
  cases closed <;> rfl

theorem left_releaseCalls : left (releaseCalls s was closed answer true) = [s] := by
  cases closed <;> rfl

theorem closings_releaseCalls :
    closings (releaseCalls s was closed answer true) = if closed then [] else [s.page] := by
  cases closed <;> rfl

theorem projections_acquire {log : Log} (h : Ends acquire log (.ok s)) :
    entered log = [s] ∧ left log = [] ∧ closings log = [] := by
  obtain ⟨body, ⟨e, -, he, -⟩ | ⟨page, api, t, hp, ht, rfl⟩⟩ := ends_acquire h
  · cases he
  · obtain rfl := Except.ok.inj ht
    obtain ⟨he, hl⟩ := uncounted (uncounted_locked hp)
    rw [locked_enter, entered_append, left_append, he, hl, closings_append, closings_append, closings_cons,
      closings_prepare hp]
    exact ⟨rfl, rfl, rfl⟩

theorem projections_acquire_error {log : Log} {e : FlowError} (h : Ends acquire log (.error e)) :
    IsSession e ∧ entered log = [] ∧ left log = [] := by
  obtain ⟨body, ⟨e', hp, he, rfl⟩ | ⟨page, api, t, -, ht, -⟩⟩ := ends_acquire h
  · obtain rfl := Except.error.inj he
    exact ⟨(confined_prepare _ _ hp).2 _ rfl, uncounted (uncounted_locked hp)⟩
  · cases ht

def firstSession : Session := ⟨1, ⟨2⟩, ⟨3⟩⟩

def firstAcquire : Log :=
  [⟨.lockPool, ()⟩, ⟨.pooled, none⟩, ⟨.pooled, none⟩, ⟨.launch, .ok ⟨1⟩⟩, ⟨.countLaunch, ()⟩,
    ⟨.setPooled (some ⟨1⟩), ()⟩, ⟨.newPage ⟨1⟩, .ok ⟨2⟩⟩, ⟨.newApi ⟨1⟩, .ok ⟨3⟩⟩,
    ⟨.unlockPool, ()⟩, ⟨.enter ⟨2⟩ ⟨3⟩, firstSession⟩]

theorem ends_firstAcquire : Ends acquire firstAcquire (.ok firstSession) := by
  repeat (first | exact .done _ | refine .ask _ ?_)

end Pool

namespace Host

open Engine

variable {h h' : Host} {x : Exchange} {s : Session}

/-- The count follows the sessions that are counted in and out. -/
theorem Serves.active (hs : Serves h x h') (hp : x.left.length ≤ h.active) :
    h'.active + x.left.length = h.active + x.entered.length := by
  obtain ⟨op, r⟩ := x
  rw [hs.1]
  cases op with
  | leave s => exact Nat.sub_add_cancel hp
  | _ => rfl

theorem Serves.entered_new (hs : Serves h x h') (hx : s ∈ x.entered) :
    h'.Knows s ∧ h'.Open s ∧ s.number = h.sessionCount + 1 := by
  obtain ⟨op, r⟩ := x
  cases op with
  | enter p a =>
    obtain rfl := List.mem_singleton.mp hx
    exact ⟨hs.enter_knows, hs.enter_open, hs.enter_number⟩
  | _ => cases hx

theorem plays_shutdownCalls_iff {slot : Option Browser} {answer : Except FlowError Unit} :
    h.Plays Eq (Pool.shutdownCalls slot answer) h' ↔
      slot = h.pooled ∧ h' = { h with pooled := none } := by
  constructor
  · intro hp
    obtain ⟨_, _, rfl, ⟨rfl, -⟩, hp₁⟩ := plays_cons_iff.mp hp
    obtain ⟨_, _, rfl, ⟨rfl, hs⟩, hp₂⟩ := plays_cons_iff.mp hp₁
    obtain ⟨_, _, rfl, ⟨rfl, -⟩, hp₃⟩ := plays_cons_iff.mp hp₂
    obtain ⟨_, _, rfl, ⟨rfl, -⟩, hp₄⟩ := plays_cons_iff.mp hp₃
    have hslot := hs _ rfl
    cases slot with
    | none =>
      cases hp₄
      exact ⟨hslot, rfl⟩
    | some b =>
      obtain ⟨_, _, rfl, ⟨rfl, -⟩, hp₅⟩ := plays_cons_iff.mp hp₄
      cases hp₅
      exact ⟨hslot, rfl⟩
  · rintro ⟨rfl, rfl⟩
    refine .cons rfl ⟨rfl, by rintro f ⟨⟩; rfl⟩ (.cons rfl ⟨rfl, by rintro f ⟨⟩; rfl⟩ ?_)
    refine .cons rfl ⟨rfl, by rintro f ⟨⟩; rfl⟩ (.cons rfl ⟨rfl, by rintro f ⟨⟩; rfl⟩ ?_)
    cases hb : h.pooled with
    | none => exact .nil _
    | some b => exact .cons rfl ⟨rfl, nofun⟩ (.nil _)

end Host
end PageFlow
