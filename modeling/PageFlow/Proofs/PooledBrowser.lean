import Mathlib.Data.List.Nodup
import Mathlib.Data.List.Perm.Basic
import PageFlow.Proofs.SlotRules

/-! The browser of a pool. While tasks hand browsers from launches to the slot and on to their end,
all of them together lose none: each that was launched is in the slot, in the hand of one task or
closed, and it is closed once. None is launched while the one in the slot is connected. -/
namespace PageFlow
namespace Engine

def Exchange.tried : Exchange → List (Except FlowError Browser)
  | ⟨.launch, r⟩ => [r]
  | _ => []

def Exchange.launched : Exchange → List Browser
  | ⟨.launch, .ok b⟩ => [b]
  | _ => []

def Exchange.ended : Exchange → List Browser
  | ⟨.closeBrowser b, _⟩ => [b]
  | _ => []

def Exchange.lost : Exchange → List Browser
  | ⟨.isConnected b, false⟩ => [b]
  | _ => []

end Engine

namespace Pool

open Engine

def Call.empties : Call → Exchange → List Unit
  | .shutdown, ⟨.setPooled none, _⟩ => [()]
  | _, _ => []

def Desk.due (d : Desk) : List Unit := if d.uncounted then [()] else []

/-- What is known of the slot is so, and the lock is held. -/
def Desk.Right (d : Desk) (h : Host) : Prop :=
  ∀ v, d.known = some v → d.inside = true ∧ h.pooled = v

section Operations

variable {c : Call} {log : Log} {x : Exchange} {h h' : Host}

theorem pooled_eq_of_outside (hs : h.Serves x h') (hm : Allowed c log (desk log) x.op)
    (hi : (desk log).inside = false) : h'.pooled = h.pooled := by
  obtain ⟨op, r⟩ := x
  obtain ⟨rfl, -⟩ := hs
  cases op with
  | setPooled v =>
    cases v with
    | none => rw [hm.1] at hi; cases hi
    | some b => rw [hm.1] at hi; cases hi
  | _ => rfl

theorem sees_of_right (hs : h.Serves x h') (hd : (desk log).Right h) :
    (slotRules c).sees log x := by
  rintro slot v rfl hv
  have hp : slot = h.pooled := hs.2 _ rfl
  rw [hp, (hd v hv).2]

theorem Desk.Right.next (hd : (desk log).Right h) (hs : h.Serves x h')
    (hm : Allowed c log (desk log) x.op) : ((desk log).next x).Right h' := by
  obtain ⟨op, r⟩ := x
  obtain ⟨rfl, hr⟩ := hs
  intro v hv
  cases op with
  | lockPool => exact ⟨rfl, (hd v hv).2⟩
  | unlockPool => cases hv
  | pooled =>
    obtain rfl := Option.some.inj hv
    have hp : r = h.pooled := hr _ rfl
    exact ⟨hm, hp.symm⟩
  | setPooled slot =>
    cases slot with
    | none =>
      obtain rfl := Option.some.inj hv
      exact ⟨hm.1, rfl⟩
    | some b =>
      obtain rfl := Option.some.inj hv
      exact ⟨hm.1, rfl⟩
  | launch =>
    cases r with
    | ok b => exact hd v hv
    | error e => exact hd v hv
  | _ => exact hd v hv

/-- A call loses no browser: what it launches it holds, what it holds it puts into the slot or
closes, and what it takes from the slot it holds. -/
theorem browsers_kept (hd : (desk log).Right h) (hs : h.Serves x h')
    (hm : Allowed c log (desk log) x.op) :
    (x.launched ++ ((desk log).hand.toList ++ h.pooled.toList)).Perm
      (x.ended ++ (((desk log).next x).hand.toList ++ h'.pooled.toList)) := by
  obtain ⟨op, r⟩ := x
  obtain ⟨rfl, -⟩ := hs
  cases op with
  | launch =>
    cases r with
    | ok b =>
      obtain ⟨-, -, hh, -⟩ := hm
      rw [hh]
      exact .refl _
    | error e => exact .refl _
  | setPooled slot =>
    cases slot with
    | none =>
      obtain ⟨-, hh, hk, -⟩ := hm
      obtain ⟨v, hv⟩ := Option.isSome_iff_exists.mp hk
      have hn : ((desk log).next ⟨.setPooled none, r⟩).hand = h.pooled := by
        rw [(hd v hv).2]
        exact congrArg Option.join hv
      rw [hh, hn]
      exact .of_eq (List.append_nil _).symm
    | some b =>
      obtain ⟨-, hk, hh⟩ := hm
      rw [hh, (hd none hk).2]
      exact .refl _
  | closeBrowser b =>
    have hh : (desk log).hand = some b := hm
    rw [hh]
    exact .refl _
  | _ => exact .refl _

theorem launches_kept (hs : h.Serves x h') (hm : Allowed c log (desk log) x.op) :
    h'.launches + ((desk log).next x).due.length =
      x.launched.length + (h.launches + (desk log).due.length) := by
  obtain ⟨op, r⟩ := x
  obtain ⟨rfl, -⟩ := hs
  cases op with
  | launch =>
    cases r with
    | ok b =>
      obtain ⟨-, -, -, hu, -⟩ := hm
      rw [Desk.due, Desk.due, hu]
      exact Nat.add_comm _ _
    | error e => exact (Nat.zero_add _).symm
  | countLaunch =>
    have hu : (desk log).uncounted = true := hm
    rw [Desk.due, Desk.due, hu]
    exact (Nat.zero_add _).symm
  | setPooled slot =>
    cases slot with
    | none => exact (Nat.zero_add _).symm
    | some b => exact (Nat.zero_add _).symm
  | _ => exact (Nat.zero_add _).symm

end Operations

theorem SlotStale.mem {log : Log} {host : Host} {b : Browser} (h : SlotStale log)
    (hd : (desk log).Right host) (hb : host.pooled = some b) :
    (⟨.isConnected b, false⟩ : Exchange) ∈ log := by
  obtain ⟨front, b', rfl⟩ := h
  have hp := (hd (some b') (by rw [desk_concat]; rfl)).2
  obtain rfl := Option.some.inj (hp.symm.trans hb)
  simp

theorem inside_next_iff {i : Nat} {d : Desk} {holder : Option Nat}
    (h : d.inside = true ↔ holder = some i) (x : Exchange) :
    (d.next x).inside = true ↔ System.grant i holder x.op = some i := by
  obtain ⟨op, r⟩ := x
  cases op with
  | lockPool => exact iff_of_true rfl rfl
  | unlockPool => exact iff_of_false Bool.false_ne_true (Option.some_ne_none i).symm
  | setPooled slot => cases slot <;> exact h
  | launch => cases r <;> exact h
  | _ => exact h

/-- To another task it makes no difference. -/
theorem grant_eq_other_iff {i j : Nat} {holder : Option Nat} {op : Op} (hn : i ≠ j)
    (hl : op = .lockPool → holder = none) (hu : op = .unlockPool → holder = some i) :
    System.grant i holder op = some j ↔ holder = some j := by
  cases op with
  | lockPool => simp [System.grant, hl rfl, hn]
  | unlockPool => simp [System.grant, hu rfl, hn]
  | _ => exact Iff.rfl

namespace Task

/-- What holds of a task at its place, while calls are not given up. -/
structure Placed (host : Host) (holder : Option Nat) (i : Nat) (t : Task) : Prop where
  running : t.cleared = none
  seen : (slotRules t.call).Seen [] t.log
  locked : (desk t.log).inside = true ↔ holder = some i
  right : (desk t.log).Right host

variable {t t' u : Task} {x : Exchange} {host host' : Host} {holder : Option Nat} {i j : Nat}

theorem placed_begun (c : Call) (h : holder ≠ some i) : Placed host holder i ⟨c, [], none⟩ where
  running := rfl
  seen := trivial
  locked := iff_of_false Bool.false_ne_true h
  right v hv := by cases hv

theorem Placed.allowed (h : t.Placed host holder i) (hm : t.Makes x t') :
    Allowed t.call t.log (desk t.log) x.op := by
  cases hm with
  | own hb => exact (follows_attempt _).next hb h.seen
  | clear => cases h.running

theorem Placed.log_eq (h : t.Placed host holder i) (hm : t.Makes x t') :
    t'.log = t.log ++ [x] := by
  cases hm with
  | own => rfl
  | clear => cases h.running

theorem Placed.holder_of_unlock (h : t.Placed host holder i) (hm : t.Makes x t')
    (hx : x.op = .unlockPool) : holder = some i := by
  have ha := h.allowed hm
  rw [hx] at ha
  exact h.locked.mp ha

theorem Placed.makes (h : t.Placed host holder i) (hm : t.Makes x t')
    (hs : host.Serves x host') : t'.Placed host' (System.grant i holder x.op) i where
  running := by
    cases hm with
    | own => rfl
    | clear => cases h.running
  seen := by
    rw [h.log_eq hm, hm.call_eq]
    exact Prog.Rules.seen_concat_iff.mpr ⟨h.seen, sees_of_right hs h.right⟩
  locked := by
    rw [h.log_eq hm, desk_concat]
    exact inside_next_iff h.locked x
  right := by
    rw [h.log_eq hm, desk_concat]
    exact h.right.next hs (h.allowed hm)

/-- What one task does leaves alone what another one knows: only one of them has the lock. -/
theorem Placed.beside (hu : u.Placed host holder j) (h : t.Placed host holder i) (hij : i ≠ j)
    (hm : t.Makes x t') (hs : host.Serves x host') (hl : x.op = .lockPool → holder = none) :
    u.Placed host' (System.grant i holder x.op) j where
  running := hu.running
  seen := hu.seen
  locked := hu.locked.trans (grant_eq_other_iff hij hl (h.holder_of_unlock hm)).symm
  right v hv := by
    obtain ⟨hi, hv⟩ := hu.right v hv
    have ho : (desk t.log).inside = false := by
      refine Bool.eq_false_iff.mpr fun hn => ?_
      exact hij (Option.some.inj ((h.locked.mp hn).symm.trans (hu.locked.mp hi)))
    exact ⟨hi, (pooled_eq_of_outside hs (h.allowed hm) ho).trans hv⟩

end Task

namespace System

variable {σ σ' : System}

def tried (σ : System) : List (Except FlowError Browser) := gather (fun _ => Exchange.tried) σ.tasks

def launched (σ : System) : List Browser := gather (fun _ => Exchange.launched) σ.tasks
def closed (σ : System) : List Browser := gather (fun _ => Exchange.ended) σ.tasks
def lost (σ : System) : List Browser := gather (fun _ => Exchange.lost) σ.tasks

def emptied (σ : System) : List Unit := gather Call.empties σ.tasks

def hands (σ : System) : List Browser := σ.tasks.flatMap fun t => (desk t.log).hand.toList

def due (σ : System) : List Unit := σ.tasks.flatMap fun t => (desk t.log).due

/-- What keeps the browsers of a pool together. -/
structure Tended (σ : System) : Prop where
  placed : ∀ i (t : Task), σ.tasks[i]? = some t → t.Placed σ.host σ.holder i
  held : ∀ i, σ.holder = some i → i < σ.tasks.length
  browsers : σ.launched.Perm (σ.closed ++ (σ.hands ++ σ.host.pooled.toList))
  counted : σ.launched.length = σ.host.launches + σ.due.length

theorem Tended.start : System.start.Tended where
  placed i t ht := by cases ht
  held i hi := by cases hi
  browsers := .refl _
  counted := rfl

section Steps

variable {i j : Nat} {t t' u : Task} {x : Exchange} {host : Host}

theorem Tended.begin (h : σ.Tended) (c : Call) :
    Tended { σ with tasks := σ.tasks ++ [⟨c, [], none⟩] } := by
  constructor
  case placed =>
    intro i t ht
    simp only [List.getElem?_append] at ht
    split at ht
    · exact h.placed i t ht
    · rename_i hi
      obtain rfl := List.mem_singleton.mp (List.mem_of_getElem? ht)
      exact Task.placed_begun c fun hn => hi (h.held i hn)
  case held =>
    intro i hi
    rw [List.length_append]
    exact Nat.lt_add_right 1 (h.held i hi)
  case browsers =>
    have hh : hands { σ with tasks := σ.tasks ++ [⟨c, [], none⟩] } = σ.hands := by
      simp [hands, desk, Desk.start]
    rw [hh, launched, closed, gather_begin, gather_begin]
    exact h.browsers
  case counted =>
    have hd : due { σ with tasks := σ.tasks ++ [⟨c, [], none⟩] } = σ.due := by
      simp [due, desk, Desk.start, Desk.due]
    rw [hd, launched, gather_begin]
    exact h.counted

theorem Tended.act (h : σ.Tended) (ht : σ.tasks[i]? = some t) (hm : t.Makes x t')
    (hs : σ.host.Serves x host) (hl : x.op = .lockPool → σ.holder = none) :
    Tended ⟨host, grant i σ.holder x.op, σ.tasks.set i t'⟩ := by
  have hp := h.placed i t ht
  have hmay := hp.allowed hm
  have hlog := hp.log_eq hm
  have hlaunched := gather_act (f := fun _ => Exchange.launched) ht hm
  have hclosed := gather_act (f := fun _ => Exchange.ended) ht hm
  constructor
  case placed =>
    intro j u hu
    by_cases hij : i = j
    · subst hij
      rw [List.getElem?_set_self (List.getElem?_eq_some_iff.mp ht).1] at hu
      obtain rfl := Option.some.inj hu
      exact hp.makes hm hs
    · rw [List.getElem?_set_ne hij] at hu
      exact (h.placed j u hu).beside hp hij hm hs hl
  case held =>
    intro j hj
    rw [List.length_set]
    by_cases hij : i = j
    · exact hij ▸ (List.getElem?_eq_some_iff.mp ht).1
    · exact h.held j ((grant_eq_other_iff hij hl (hp.holder_of_unlock hm)).mp hj)
  case browsers =>
    refine List.perm_iff_count.mpr fun b => ?_
    have hhands := (flatMap_set_perm ht t' fun t => (desk t.log).hand.toList).count_eq b
    have hkept := (browsers_kept hp.right hs hmay).count_eq b
    have hb := h.browsers.count_eq b
    rw [hlog, desk_concat] at hhands
    simp only [List.count_append] at hhands hkept hb ⊢
    have hl := hlaunched.count_eq b
    have hc := hclosed.count_eq b
    rw [List.count_append] at hl hc
    simp only [launched, closed, hands] at hb ⊢
    omega
  case counted =>
    have hdue := (flatMap_set_perm ht t' fun t => (desk t.log).due).length_eq
    have hkept := launches_kept hs hmay
    have hc := h.counted
    rw [hlog, desk_concat] at hdue
    have hl := hlaunched.length_eq
    simp only [List.length_append] at hdue hl
    simp only [launched, due] at hc ⊢
    omega

theorem mem_lost {b : Browser} (ht : σ.tasks[i]? = some t)
    (hx : (⟨.isConnected b, false⟩ : Exchange) ∈ t.log) : b ∈ σ.lost := by
  have hc : (⟨.isConnected b, false⟩ : Exchange) ∈ t.calls := List.mem_append_left _ hx
  exact List.mem_flatMap.mpr ⟨t, List.mem_of_getElem? ht,
    List.mem_flatMap.mpr ⟨_, hc, List.mem_singleton_self b⟩⟩

/-- A browser that stays connected stays in the slot, and none is launched beside it. -/
theorem Tended.slot_kept (h : σ.Tended) {b : Browser} (hb : σ.host.pooled = some b)
    (hs : Step σ σ') (hl : b ∉ σ'.lost) (he : σ'.emptied.length = σ.emptied.length) :
    σ'.host.pooled = some b ∧ σ'.tried.Perm σ.tried := by
  obtain ⟨more, hmore⟩ := hs.gather (f := fun _ => Exchange.lost)
  have hlost : b ∉ σ.lost := fun hm => hl (hmore.symm.subset (List.mem_append_right _ hm))
  cases hs with
  | begin c _ => exact ⟨hb, by rw [tried, gather_begin]; rfl⟩
  | @act i t x t' host ht hm hs hg =>
    have hp := h.placed i t ht
    have hmay := hp.allowed hm
    have htried := gather_act (f := fun _ => Exchange.tried) ht hm
    obtain ⟨op, r⟩ := x
    obtain ⟨rfl, -⟩ := hs
    cases op with
    | launch =>
      have hn := (hp.right none hmay.2.1).2
      rw [hb] at hn
      cases hn
    | setPooled slot =>
      cases slot with
      | some b' =>
        have hn := (hp.right none hmay.2.1).2
        rw [hb] at hn
        cases hn
      | none =>
        cases hc : t.call with
        | shutdown =>
          have hn := (gather_act (f := Call.empties) ht hm).length_eq
          rw [hc, List.length_append] at hn
          have hn : 1 + σ.emptied.length = σ.emptied.length := hn.symm.trans he
          omega
        | acquire | release | drop =>
          have hx := (hmay.2.2.2 (by rw [hc]; rfl)).mem hp.right hb
          exact absurd (mem_lost ht hx) hlost
    | _ => exact ⟨hb, htried⟩

end Steps

theorem tended (h : σ.Reachable) : σ.Tended := by
  induction h with
  | refl => exact Tended.start
  | tail _ hstep ih =>
    cases hstep with
    | begin c _ => exact ih.begin c
    | act ht hm hs hl => exact ih.act ht hm hs hl

theorem slot_kept (h : σ.Reachable) {b : Browser} (hb : σ.host.pooled = some b)
    (hs : Relation.ReflTransGen Step σ σ') (hl : b ∉ σ'.lost)
    (he : σ'.emptied.length = σ.emptied.length) :
    σ'.host.pooled = some b ∧ σ'.tried.Perm σ.tried := by
  induction hs with
  | refl => exact ⟨hb, .refl _⟩
  | @tail σ₁ σ₂ hs hstep ih =>
    obtain ⟨more, hlost⟩ := hstep.gather (f := fun _ => Exchange.lost)
    obtain ⟨first, hfirst⟩ := steps_gather (f := Call.empties) hs
    obtain ⟨second, hsecond⟩ := hstep.gather (f := Call.empties)
    have hf : σ₁.emptied.length = first.length + σ.emptied.length :=
      hfirst.length_eq.trans List.length_append
    have hn : σ₂.emptied.length = second.length + σ₁.emptied.length :=
      hsecond.length_eq.trans List.length_append
    have hl₁ : b ∉ σ₁.lost := fun hm => hl (hlost.symm.subset (List.mem_append_right _ hm))
    obtain ⟨hb₁, ht₁⟩ := ih hl₁ (by omega)
    obtain ⟨hb₂, ht₂⟩ := (tended (h.trans hs)).slot_kept hb₁ hstep hl (by omega)
    exact ⟨hb₂, ht₂.trans ht₁⟩

theorem Tended.desk_over (h : σ.Tended) {t : Task} (ht : t ∈ σ.tasks) (ho : t.Over) :
    desk t.log = .start := by
  obtain ⟨i, hi⟩ := List.mem_iff_getElem?.mp ht
  have hp := h.placed i t hi
  rw [Task.Over, hp.running] at ho
  obtain ⟨r, hr⟩ := ho
  simpa using (follows_attempt t.call).ends hr hp.seen

theorem Tended.settled (h : σ.Tended) (ho : ∀ t ∈ σ.tasks, t.Over) :
    σ.host.launches = σ.launched.length ∧
      σ.launched.Perm (σ.closed ++ σ.host.pooled.toList) := by
  have hhands : σ.hands = [] := List.flatMap_eq_nil_iff.mpr fun t ht => by
    rw [h.desk_over ht (ho t ht)]; rfl
  have hdue : σ.due = [] := List.flatMap_eq_nil_iff.mpr fun t ht => by
    rw [h.desk_over ht (ho t ht)]; rfl
  have hc := h.counted
  have hb := h.browsers
  rw [hdue, List.length_nil, Nat.add_zero] at hc
  rw [hhands, List.nil_append] at hb
  exact ⟨hc.symm, hb⟩

end System

/-- What was launched once is in the slot and not closed, or closed once. -/
theorem pooled_or_closed_once {launched closed : List Browser} {slot : Option Browser} {b : Browser}
    (hp : launched.Perm (closed ++ slot.toList)) (hn : launched.Nodup) (hb : b ∈ launched) :
    (slot = some b ∧ b ∉ closed) ∨ (slot ≠ some b ∧ closed.count b = 1) := by
  have hone := List.count_eq_one_of_mem hn hb
  rw [hp.count_eq, List.count_append] at hone
  by_cases hs : slot = some b
  · rw [hs, Option.toList_some, List.count_singleton_self] at hone
    exact Or.inl ⟨hs, List.count_eq_zero.mp (by omega)⟩
  · have hz : slot.toList.count b = 0 := List.count_eq_zero.mpr (by simpa using hs)
    exact Or.inr ⟨hs, by omega⟩

/-- Whatever calls are made of a pool, in whatever order they go on, and whatever the driver
answers. Once all of them are over, the launches that succeeded were counted, and each of their
browsers is in the slot or has been closed, but not both. A browser is launched only if the slot was
empty or what it held had reported itself disconnected. So no other is launched as long as the
browser in the slot stays connected and is not shut down. -/
theorem pooled_browser {σ : System} (h : σ.Reachable) :
    ((∀ t ∈ σ.tasks, t.Over) →
      σ.host.launches = σ.launched.length ∧
      σ.launched.Perm (σ.closed ++ σ.host.pooled.toList) ∧
      (σ.launched.Nodup → ∀ b ∈ σ.launched, (σ.host.pooled = some b ∧ b ∉ σ.closed) ∨
        (σ.host.pooled ≠ some b ∧ σ.closed.count b = 1))) ∧
    (∀ t ∈ σ.tasks, ∀ r t', t.Makes ⟨.launch, r⟩ t' → σ.host.pooled = none ∧ LaunchDue t.log) ∧
    ∀ b, σ.host.pooled = some b → ∀ σ', Relation.ReflTransGen System.Step σ σ' →
      b ∉ σ'.lost → σ'.emptied.length = σ.emptied.length →
      σ'.host.pooled = some b ∧ σ'.tried.Perm σ.tried := by
  have ht := System.tended h
  refine ⟨fun ho => ?_, ?_, fun b hb σ' => System.slot_kept h hb⟩
  · obtain ⟨hc, hp⟩ := ht.settled ho
    exact ⟨hc, hp, fun hn b hb => pooled_or_closed_once hp hn hb⟩
  · intro t hm r t' hmakes
    obtain ⟨i, hi⟩ := List.mem_iff_getElem?.mp hm
    have hp := ht.placed i t hi
    obtain ⟨-, hk, -, -, hd⟩ := hp.allowed hmakes
    exact ⟨(hp.right none hk).2, hd⟩

def firstShutdown : Log :=
  [⟨.lockPool, ()⟩, ⟨.pooled, some ⟨1⟩⟩, ⟨.setPooled none, ()⟩, ⟨.unlockPool, ()⟩,
    ⟨.closeBrowser ⟨1⟩, .error (.session "browser is gone")⟩]

/-- The browser of the first acquire is told to close once by a shutdown, even if it does not. -/
theorem pooled_browser_shut_down : ∃ σ : System, σ.Reachable ∧
    σ.tasks.map (·.call) = [.acquire, .shutdown] ∧ σ.host.pooled = none ∧
    σ.host.launches = 1 ∧ σ.closed.Perm [⟨1⟩] := by
  have hd : Ends shutdown firstShutdown (.error (.session "browser is gone")) := by
    repeat (first | exact .done _ | refine .ask _ ?_)
  have hp : (Host.start.after firstAcquire).Plays Eq firstShutdown
      (Host.start.after (firstAcquire ++ firstShutdown)) := by
    repeat (first | exact .nil _ | refine .cons rfl ⟨rfl, by rintro f hf; cases hf <;> rfl⟩ ?_)
  have hs := System.steps_alone (σ := ⟨Host.start.after firstAcquire, none,
    [⟨.acquire, firstAcquire, none⟩, ⟨.shutdown, [], none⟩]⟩) (i := 1) (c := .shutdown) rfl
    hd.begins hp (by simp [System.Lockable, System.grant])
  have hbegun := System.Step.begin (σ := ⟨Host.start.after firstAcquire, none,
    [⟨.acquire, firstAcquire, none⟩]⟩) .shutdown fun s hs => by cases hs
  have hr := (System.reachable_firstAcquire.tail hbegun).trans hs
  have ho : ∀ t ∈ [(⟨.acquire, firstAcquire, none⟩ : Task), ⟨.shutdown, firstShutdown, none⟩],
      t.Over := by
    rintro t ht
    rcases List.mem_pair.mp ht with rfl | rfl
    · exact ⟨_, ends_firstAcquire⟩
    · exact ⟨_, hd⟩
  obtain ⟨hn, hb, -⟩ := (pooled_browser hr).1 ho
  rw [show System.launched _ = [⟨1⟩] from rfl] at hn hb
  exact ⟨_, hr, rfl, rfl, hn, hb.symm⟩

end Pool
end PageFlow
