import PageFlow.Proofs.Tasks

/-! How a call of the pool handles browsers. It hands them from a launch to the slot, and from the
slot to their end, under the lock; a shutdown takes one out and closes it after it has let the lock
go. What a call has in hand at any time can be told from its operations, and so can what it knows of
the slot, as long as nobody else changes that while the call has the lock. -/
namespace PageFlow
namespace Pool

open Engine

/-- What a call knows and holds between two operations. -/
structure Desk where
  inside : Bool
  /-- what the slot holds, as far as it was looked at or set -/
  known : Option (Option Browser)
  /-- a browser that is neither in the slot nor closed -/
  hand : Option Browser
  uncounted : Bool

namespace Desk

def start : Desk := ⟨false, none, none, false⟩

def next (d : Desk) : Exchange → Desk
  | ⟨.lockPool, _⟩ => { d with inside := true }
  | ⟨.unlockPool, _⟩ => { d with inside := false, known := none }
  | ⟨.pooled, slot⟩ => { d with known := some slot }
  | ⟨.setPooled none, _⟩ => { d with known := some none, hand := d.known.join }
  | ⟨.setPooled (some b), _⟩ => { d with known := some (some b), hand := none }
  | ⟨.launch, .ok b⟩ => { d with hand := some b, uncounted := true }
  | ⟨.countLaunch, _⟩ => { d with uncounted := false }
  | ⟨.closeBrowser _, _⟩ => { d with hand := none }
  | _ => d

end Desk

def desk (log : Log) : Desk := log.foldl Desk.next .start

theorem desk_concat (log : Log) (x : Exchange) : desk (log ++ [x]) = (desk log).next x := by
  rw [desk, List.foldl_append]; rfl

/-- The call has just looked at a browser in the slot that has reported itself disconnected. -/
def SlotStale (log : Log) : Prop :=
  ∃ front b, log = front ++ [⟨.isConnected b, false⟩] ++ [⟨.pooled, some b⟩]

/-- The call has just seen that the slot is empty, or it has emptied it of a browser that has
reported itself disconnected, and has closed that one. -/
def LaunchDue (log : Log) : Prop :=
  (∃ front, log = front ++ [⟨.pooled, none⟩]) ∨
  ∃ front b r, log = front ++ [⟨.isConnected b, false⟩] ++ [⟨.pooled, some b⟩] ++
    [⟨.setPooled none, ()⟩] ++ [⟨.closeBrowser b, r⟩]

/-- What a call may do after its operations so far. -/
def Allowed (c : Call) (log : Log) (d : Desk) : Op → Prop
  | .lockPool => d.inside = false ∧ d.known = none
  | .unlockPool | .pooled => d.inside = true
  | .setPooled none => d.inside = true ∧ d.hand = none ∧ d.known.isSome = true ∧
      (c.isShutdown = false → SlotStale log)
  | .setPooled (some b) => d.inside = true ∧ d.known = some none ∧ d.hand = some b
  | .launch => d.inside = true ∧ d.known = some none ∧ d.hand = none ∧ d.uncounted = false ∧
      LaunchDue log
  | .countLaunch => d.uncounted = true
  | .closeBrowser b => d.hand = some b
  | _ => True

/-- A call finds in the slot what it knows to be there. -/
def slotRules (c : Call) : Rules where
  may log op := Allowed c log (desk log) op
  sees log x := ∀ slot v, x = ⟨.pooled, slot⟩ → (desk log).known = some v → slot = v

section Calls

variable {past : Log} {c : Call} {d : Desk} {op : Op} {a : Attempt τ}

theorem follows_next {answer : Reply op → Except FlowError τ} {Q : Except FlowError τ → Log → Prop}
    (h : desk past = d) (ha : a.run = .ask op fun r => .done (answer r)) (hm : Allowed c past d op)
    (hq : ∀ r, desk (past ++ [⟨op, r⟩]) = d.next ⟨op, r⟩ → Q (answer r) (past ++ [⟨op, r⟩])) :
    Follows (slotRules c) past a Q := by
  subst h
  exact follows_call ha hm fun r _ => hq r (desk_concat past _)

theorem follows_next_bind {f : Reply op → Attempt υ} {Q : Except FlowError υ → Log → Prop}
    (h : desk past = d) (hm : Allowed c past d op)
    (hf : ∀ r, (slotRules c).sees past ⟨op, r⟩ → desk (past ++ [⟨op, r⟩]) = d.next ⟨op, r⟩ →
      Follows (slotRules c) (past ++ [⟨op, r⟩]) (f r) Q) :
    Follows (slotRules c) past (ExceptT.lift (ask op) >>= f) Q := by
  subst h
  exact follows_call_bind hm fun r hr => hf r hr (desk_concat past _)

/-- The call has the lock, no browser in hand, and knows this of the slot. -/
def Tidy (known : Option (Option Browser)) (log : Log) : Prop :=
  desk log = ⟨true, known, none, false⟩

/-- How a step of an acquire ends: with what it was for, or without anything in hand. -/
def EndsTidy (P : τ → Log → Prop) (r : Except FlowError τ) (log : Log) : Prop :=
  match r with
  | .ok v => P v log
  | .error _ => ∃ k, Tidy k log

theorem follows_mapError {R : Rules} {f : FlowError → FlowError} {P : τ → Log → Prop}
    (h : Follows R past a (EndsTidy P)) : Follows R past (mapError f a) (EndsTidy P) := by
  refine follows_outcome_bind h fun r log hr => ?_
  cases r with
  | ok v => exact follows_pure hr
  | error e => exact follows_throw hr

theorem follows_launch (h : Tidy (some none) past) (hd : LaunchDue past) :
    Follows (slotRules .acquire) past (do
      let browser ← mapError launchError launch
      countLaunch
      setPooled (some browser)
      pure browser) (EndsTidy fun b => Tidy (some (some b))) := by
  have hl : Follows (slotRules .acquire) past launch
      (EndsTidy fun b log => desk log = ⟨true, some none, some b, true⟩) := by
    refine follows_next h rfl ⟨rfl, rfl, rfl, rfl, hd⟩ fun r hr => ?_
    cases r with
    | ok b => exact hr
    | error e => exact ⟨_, hr⟩
  refine follows_bind (follows_mapError hl) (fun b log hb => ?_) fun _ _ he => he
  refine follows_next_bind hb rfl fun _ _ hc => ?_
  exact follows_next_bind hc ⟨rfl, rfl, rfl⟩ fun _ _ hp => follows_pure hp

/-- The slot is known to be empty, or to hold a browser that has just been found disconnected. -/
def Replaceable (slot : Option Browser) (log : Log) : Prop :=
  ∀ b, slot = some b → ∃ front, log = front ++ [⟨.isConnected b, false⟩]

theorem follows_relaunch {slot : Option Browser} (h : Tidy (some slot) past)
    (hr : Replaceable slot past) :
    Follows (slotRules .acquire) past relaunch (EndsTidy fun b => Tidy (some (some b))) := by
  refine follows_next_bind h rfl fun seen hs hp => ?_
  obtain rfl : seen = slot := hs seen slot rfl (by rw [h])
  cases seen with
  | none => exact follows_launch hp (Or.inl ⟨past, rfl⟩)
  | some b =>
    obtain ⟨front, rfl⟩ := hr b rfl
    refine follows_next_bind hp ⟨rfl, rfl, rfl, fun _ => ⟨front, b, rfl⟩⟩ fun _ _ ht => ?_
    have hc : Follows (slotRules .acquire) _ (closeBrowser b)
        fun _ log => Tidy (some none) log ∧ LaunchDue log :=
      follows_next ht rfl rfl fun r hc => ⟨hc, Or.inr ⟨front, b, r, rfl⟩⟩
    exact follows_outcome_bind hc fun _ _ hl => follows_launch hl.1 hl.2

theorem follows_connected (h : Tidy none past) :
    Follows (slotRules .acquire) past connected (EndsTidy fun b => Tidy (some (some b))) := by
  refine follows_next_bind h rfl fun slot _ hp => ?_
  cases slot with
  | none => exact follows_relaunch hp fun b hb => by cases hb
  | some b =>
    refine follows_next_bind hp trivial fun up _ hu => ?_
    cases up with
    | true => exact follows_pure hu
    | false =>
      refine follows_relaunch hu ?_
      rintro _ ⟨⟩
      exact ⟨_, rfl⟩

theorem follows_newPage {k : Option (Option Browser)} (b : Browser) (h : Tidy k past) :
    Follows (slotRules .acquire) past (newPage b) fun _ => Tidy k :=
  follows_next h rfl trivial fun _ hp => hp

theorem follows_openPage (b : Browser) (h : Tidy (some (some b)) past) :
    Follows (slotRules .acquire) past (openPage b) (EndsTidy fun _ log => ∃ k, Tidy k log) := by
  refine follows_outcome_bind (follows_newPage b h) fun r log hl => ?_
  cases r with
  | ok page => exact follows_pure ⟨_, hl⟩
  | error e =>
    refine follows_next_bind hl trivial fun up _ hu => ?_
    cases up with
    | true => exact follows_throw ⟨_, hu⟩
    | false =>
      have hr : Replaceable (some b) (log ++ [⟨.isConnected b, false⟩]) := by
        rintro _ ⟨⟩
        exact ⟨_, rfl⟩
      refine follows_bind (follows_relaunch hu hr) (fun b' log hl => ?_) fun _ _ he => he
      have hn : Follows (slotRules .acquire) log (newPage b')
          (EndsTidy fun _ log => ∃ k, Tidy k log) := by
        refine follows_next hl rfl trivial fun r hp => ?_
        cases r with
        | ok page => exact ⟨_, hp⟩
        | error e => exact ⟨_, hp⟩
      refine follows_bind (follows_mapError hn) (fun page log hl => ?_) fun _ _ he => he
      exact follows_pure hl

theorem follows_openApi {k : Option (Option Browser)} (b : Browser) (page : Page)
    (h : Tidy k past) : Follows (slotRules .acquire) past (openApi b page) fun _ => Tidy k := by
  have hn : Follows (slotRules .acquire) past (newApi b) fun _ => Tidy k :=
    follows_next h rfl trivial fun _ hl => hl
  refine follows_outcome_bind hn fun r log hl => ?_
  cases r with
  | ok api => exact follows_pure hl
  | error e =>
    have hc : Follows (slotRules .acquire) log (closePage page) fun _ => Tidy k :=
      follows_next hl rfl trivial fun _ hl => hl
    exact follows_outcome_bind hc fun _ _ hl => follows_throw hl

theorem follows_prepare (h : Tidy none past) :
    Follows (slotRules .acquire) past prepare fun _ log => ∃ k, Tidy k log := by
  refine follows_bind (follows_connected h) (fun b log hb => ?_) fun _ _ he => he
  refine follows_bind (follows_openPage b hb) (fun v log hv => ?_) fun _ _ he => he
  obtain ⟨k, hk⟩ := hv
  refine follows_bind (follows_openApi _ _ hk) (fun _ log hl => ?_) fun _ _ hl => ⟨k, hl⟩
  exact follows_pure ⟨k, hl⟩

theorem follows_acquire :
    Follows (slotRules .acquire) [] acquire fun _ log => desk log = .start := by
  refine follows_next_bind rfl ⟨rfl, rfl⟩ fun _ _ hl => ?_
  refine follows_outcome_bind (follows_prepare hl) fun r log hp => ?_
  obtain ⟨k, hk⟩ := hp
  refine follows_next_bind hk rfl fun _ _ hu => ?_
  cases r with
  | ok v => exact follows_next hu rfl trivial fun _ he => he
  | error e => exact follows_throw hu

theorem follows_shutdown :
    Follows (slotRules .shutdown) [] shutdown fun _ log => desk log = .start := by
  refine follows_next_bind rfl ⟨rfl, rfl⟩ fun _ _ hl => ?_
  refine follows_next_bind hl rfl fun slot _ hp => ?_
  refine follows_next_bind hp ⟨rfl, rfl, rfl, fun hc => by cases hc⟩ fun _ _ ht => ?_
  refine follows_next_bind ht rfl fun _ _ hu => ?_
  cases slot with
  | none => exact follows_pure hu
  | some b => exact follows_next hu rfl rfl fun _ hc => hc

theorem follows_drop (s : Session) (h : desk past = .start) :
    Follows (slotRules c) past (discard s) fun _ log => desk log = .start := by
  refine follows_next_bind h trivial fun was _ hm => ?_
  cases was with
  | true => exact follows_pure hm
  | false =>
    refine follows_next_bind hm trivial fun _ _ hl => ?_
    exact follows_next hl rfl trivial fun _ hc => hc

theorem follows_close (s : Session) (h : desk past = .start) :
    Follows (slotRules c) past (do if ← isClosed s.page then pure () else closePage s.page)
      fun _ log => desk log = .start := by
  refine follows_next_bind h trivial fun closed _ hi => ?_
  cases closed with
  | true => exact follows_pure hi
  | false => exact follows_next hi rfl trivial fun _ hc => hc

theorem follows_end (s : Session) :
    Follows (slotRules c) [] (release s) fun _ log => desk log = .start := by
  refine follows_next_bind rfl trivial fun was _ hm => ?_
  refine follows_next_bind hm trivial fun _ _ hl => ?_
  refine follows_outcome_bind (follows_close s hl) fun r log hl => ?_
  exact follows_bind (follows_drop s hl) (fun _ _ hl => follows_ofAnswer hl) fun _ _ hl => hl

/-- Every call keeps to the rules, and has nothing in hand at its end. -/
theorem follows_attempt (c : Call) :
    Follows (slotRules c) [] c.attempt fun _ log => desk log = .start := by
  cases c with
  | acquire => exact follows_acquire
  | release s => exact follows_end s
  | drop s => exact follows_drop s rfl
  | shutdown => exact follows_shutdown

end Calls
end Pool
end PageFlow
