import Mathlib.Data.List.Perm.Subperm
import Mathlib.Data.List.Nodup
import Mathlib.Data.List.Pairwise
import PageFlow.Proofs.Tasks

/-! The number of active sessions. Whatever tasks do with a pool, in any order, calls given up on
their way included, it is the number of sessions that were taken and neither released nor dropped.
A task that ends a session marks it first and counts it out next; the mark keeps it from doing so
twice, and the uses of sessions keep tasks apart. -/
namespace PageFlow
namespace Pool

open Engine
open Prog (Begins Exec)

/-- How a session is ended: it is marked, then counted out, and after that at most marked again.
Only the first to mark it is told that it was not marked. -/
def sessionRules (s : Session) : Rules where
  may past op := match past.length with
    | 0 => op = .markReleased s
    | 1 => op = .leave s
    | _ + 2 => op.isUncounted = true ∨ op = .markReleased s
  sees past x := ∀ was : Bool, x = ⟨.markReleased s, was⟩ → was = !past.isEmpty

section Ending

variable {s : Session} {past : Log}

theorem follows_discard (h : past.length ≠ 1) :
    Follows (sessionRules s) past (discard s) fun _ log => 2 ≤ log.length := by
  match past with
  | [] =>
    refine follows_call_bind rfl fun was hw => ?_
    have hw : was = false := hw was rfl
    subst hw
    refine follows_call_bind rfl fun _ _ => follows_call rfl ?_ fun _ _ => ?_
    · exact Or.inl rfl
    · simp
  | x :: y :: rest =>
    refine follows_call_bind (Or.inr rfl) fun was hw => ?_
    have hw : was = true := hw was rfl
    subst hw
    exact follows_pure (by simp)

theorem follows_release :
    Follows (sessionRules s) [] (release s) fun _ log => 2 ≤ log.length := by
  refine follows_call_bind rfl fun _ _ => follows_call_bind rfl fun _ _ => ?_
  have hc (past : Log) (h : 2 ≤ past.length) : Follows (sessionRules s) past
      (do if ← isClosed s.page then pure () else closePage s.page) fun _ log => 2 ≤ log.length := by
    match past, h with
    | x :: y :: rest, h =>
      refine follows_call_bind (Or.inl rfl) fun closed _ => ?_
      cases closed with
      | true => exact follows_pure (by simp)
      | false => exact follows_call rfl (Or.inl rfl) fun _ _ => by simp
  refine follows_outcome_bind (hc _ (by simp)) fun r log hl => ?_
  refine follows_bind (follows_discard (by omega)) ?_ fun _ _ hl => hl
  exact fun _ _ hl => follows_ofAnswer hl

end Ending

namespace Task

def ending (n : Nat) (t : Task) : List Session :=
  if n ≤ t.calls.length then t.call.session?.toList else []

/-- What holds of a task wherever it stands. -/
structure Sound (t : Task) : Prop where
  seen : ∀ s, t.call.session? = some s → (sessionRules s).Seen [] t.calls
  cut : t.cleared.isSome → ∀ s, t.call.session? = some s → t.log.length ≠ 1
  taken : t.call = .acquire → ∀ s ∈ entered t.calls,
    t.cleared = none ∧ Ends Pool.acquire t.log (.ok s)
  left_eq : left t.calls = t.ending 2
  enters : t.call ≠ .acquire → entered t.calls = []

variable {t t' : Task} {x : Exchange} {s : Session}

theorem Makes.may (h : t.Makes x t') (hs : t.Sound) (hc : t.call.session? = some s) :
    (sessionRules s).may t.calls x.op := by
  have hseen := hs.seen s hc
  cases h with
  | @own call log x hb =>
    have hk : (sessionRules s).Seen [] log := by simpa [calls] using hseen
    cases call with
    | release u =>
      obtain rfl := Option.some.inj hc
      simpa [calls] using follows_release.next hb hk
    | drop u =>
      obtain rfl := Option.some.inj hc
      have hf : Follows (sessionRules u) [] (discard u) _ := follows_discard (by simp)
      simpa [calls] using hf.next hb hk
    | acquire => cases hc
    | shutdown => cases hc
  | @clear call log done x hb =>
    have hk : (sessionRules s).Seen log done := (Prog.Rules.seen_append_iff.mp hseen).2
    have hb : Begins (discard s).run (done ++ [x]) := by rwa [Call.cleanup, hc] at hb
    exact (follows_discard (hs.cut rfl s hc)).next hb hk

theorem asksOnly_cleanup {c : Call} (hc : c.session? = none) (log : Log) :
    AsksOnly (fun op => op.isUncounted = true) (c.cleanup log) := by
  rw [Call.cleanup, hc]
  simp only
  split
  · exact confined_lift rfl rfl
  · exact confined_pure _

theorem Makes.uncounted (h : t.Makes x t') (hc : t.call.session? = none) :
    x.op.isUncounted = true ∨ t.call = .acquire ∧ ∃ p a, x.op = .enter p a := by
  cases h with
  | @own call log x hb =>
    cases call with
    | acquire => exact (asksOnly_acquire.begins hb).imp_right fun h => ⟨rfl, h⟩
    | shutdown => exact Or.inl (asksOnly_shutdown.begins hb)
    | release u => cases hc
    | drop u => cases hc
  | @clear call log done x hb => exact Or.inl ((asksOnly_cleanup hc log).begins hb)

theorem ends_of_entered {log : Log} (hb : Begins Pool.acquire.run log) (h : s ∈ entered log) :
    Ends Pool.acquire log (.ok s) := by
  obtain ⟨rest, r, hr⟩ := hb.exec
  have hn {l : Log} (hl : entered l = []) (hp : log <+: l) : s ∉ entered log := by
    obtain ⟨more, rfl⟩ := hp
    rw [entered_append] at hl
    rw [(List.append_eq_nil_iff.mp hl).1]
    exact List.not_mem_nil
  obtain ⟨body, ⟨e, hp, -, hl⟩ | ⟨page, api, t, hp, rfl, hl⟩⟩ := ends_acquire hr
  · exact absurd h (hn (uncounted (uncounted_locked hp)).1 ⟨rest, hl⟩)
  · rcases List.eq_nil_or_concat rest with rfl | ⟨rest, y, rfl⟩
    · rw [List.append_nil] at hr
      rw [(projections_acquire hr).1] at h
      rwa [List.mem_singleton.mp h]
    · have hs : (log ++ rest) ++ [y] = (⟨.lockPool, ()⟩ :: body ++ [⟨.unlockPool, ()⟩]) ++
          [⟨.enter page api, t⟩] := by simpa using hl
      exact absurd h (hn (uncounted (uncounted_locked hp)).1 ⟨rest, (List.append_inj' hs rfl).1⟩)

theorem Makes.ending_eq (h : t.Makes x t') (n : Nat) : t'.ending n =
    t.ending n ++ if t.calls.length + 1 = n then t.call.session?.toList else [] := by
  rw [ending, ending, h.call_eq, h.calls_eq, List.length_append, List.length_singleton]
  rcases Nat.lt_trichotomy n (t.calls.length + 1) with hn | rfl | hn
  · rw [if_pos (by omega), if_pos (by omega), if_neg (by omega), List.append_nil]
  · rw [if_pos (Nat.le_refl _), if_neg (by omega), if_pos rfl, List.nil_append]
  · rw [if_neg (by omega), if_neg (by omega), if_neg (by omega), List.nil_append]

theorem Makes.left_eq (h : t.Makes x t') (hs : t.Sound) :
    x.left = if t.calls.length + 1 = 2 then t.call.session?.toList else [] := by
  cases hc : t.call.session? with
  | none =>
    have hx : x.left = [] := by
      rcases h.uncounted hc with hu | ⟨-, p, a, hx⟩
      · exact (Exchange.uncounted hu).2
      · obtain ⟨op, r⟩ := x
        subst hx
        rfl
    rw [hx]
    simp
  | some s =>
    have hm := h.may hs hc
    obtain ⟨op, r⟩ := x
    simp only [sessionRules] at hm
    split at hm
    · rename_i hl
      subst hm
      rw [hl]; rfl
    · rename_i hl
      subst hm
      rw [hl]; rfl
    · rename_i n hl
      rw [if_neg (by omega)]
      rcases hm with hu | rfl
      · exact (Exchange.uncounted hu).2
      · rfl

theorem Makes.entered_eq (h : t.Makes x t') (hs : t.Sound) (ha : t.call ≠ .acquire) :
    x.entered = [] := by
  cases hc : t.call.session? with
  | none =>
    rcases h.uncounted hc with hu | ⟨hn, -⟩
    · exact (Exchange.uncounted hu).1
    · exact absurd hn ha
  | some s =>
    have hm := h.may hs hc
    obtain ⟨op, r⟩ := x
    simp only [sessionRules] at hm
    split at hm
    · subst hm; rfl
    · subst hm; rfl
    · rcases hm with hu | rfl
      · exact (Exchange.uncounted hu).1
      · rfl

theorem Makes.sound (h : t.Makes x t') (hs : t.Sound)
    (hv : ∀ s, t.call.session? = some s → (sessionRules s).sees t.calls x) : t'.Sound where
  seen s hc := by
    rw [h.call_eq] at hc
    rw [h.calls_eq]
    exact Prog.Rules.seen_concat_iff.mpr ⟨hs.seen s hc, hv s hc⟩
  cut := by
    cases h with
    | own => intro hn; cases hn
    | clear => exact fun _ => hs.cut rfl
  taken := by
    cases h with
    | own hb =>
      rintro rfl s hm
      rw [calls, Option.getD_none, List.append_nil] at hm
      exact ⟨rfl, ends_of_entered hb hm⟩
    | @clear call log done x hb =>
      rintro rfl s hm
      have hx := (Exchange.uncounted ((asksOnly_cleanup rfl log).begins hb)).1
      have hm : s ∈ entered (log ++ done) := by
        simpa [calls, hx, entered] using hm
      cases (hs.taken rfl s hm).1
  left_eq := by
    rw [h.calls_eq, left_append, hs.left_eq, left_cons, h.left_eq hs, h.ending_eq]
    exact congrArg _ (List.append_nil _)
  enters ha := by
    rw [h.call_eq] at ha
    rw [h.calls_eq, entered_append, entered_cons, hs.enters ha, h.entered_eq hs ha]
    rfl

theorem sound_begun (c : Call) : Sound ⟨c, [], none⟩ where
  seen s hc := trivial
  cut h := by cases h
  taken _ s h := by cases h
  left_eq := rfl
  enters _ := rfl

/-- A call that is given up was not at its mark, and had not taken a session. -/
theorem Waits.sound (h : t.Waits) (hs : t.Sound) : Sound { t with cleared := some [] } := by
  cases h with
  | @start u =>
    exact ⟨fun s hc => trivial, fun _ s hc => by simp, fun hc => (by cases hc), rfl, fun _ => rfl⟩
  | @next call log x hb hx =>
    have hc : calls ⟨call, log, some []⟩ = calls ⟨call, log, none⟩ := rfl
    constructor
    · exact hs.seen
    · intro _ s hc hl
      -- the next operation would be the count, at which nothing waits
      have hm := (Makes.own hb).may hs hc
      obtain ⟨op, r⟩ := x
      have hm : op = .leave s := by simpa [sessionRules, calls, hl] using hm
      subst hm
      cases hx
    · rintro rfl s hm
      exact absurd hb ((hs.taken rfl s hm).2.not_begins x)
    · exact hs.left_eq
    · exact hs.enters

end Task

namespace System

variable {σ : System}

def ending (n : Nat) (σ : System) : List Session := σ.tasks.flatMap (Task.ending n)

/-- The sessions that were taken and neither released nor dropped yet: no task has made the two
operations that mark the session and count it out. -/
def live (σ : System) : List Session := σ.handed.filter (· ∉ σ.ending 2)

theorem mem_ending_iff {n : Nat} {s : Session} : s ∈ σ.ending n ↔
    ∃ t ∈ σ.tasks, t.call.session? = some s ∧ n ≤ t.calls.length := by
  simp only [ending, List.mem_flatMap, Task.ending]
  constructor
  · rintro ⟨t, ht, hs⟩
    split at hs
    · exact ⟨t, ht, by simpa using hs, ‹_›⟩
    · cases hs
  · rintro ⟨t, ht, hs, hn⟩
    exact ⟨t, ht, by simp [hn, hs]⟩

theorem ending_sublist {m n : Nat} (h : m ≤ n) (σ : System) :
    (σ.ending n).Sublist (σ.ending m) := by
  obtain ⟨host, holder, tasks⟩ := σ
  induction tasks with
  | nil => exact List.Sublist.refl _
  | cons t rest ih =>
    refine List.Sublist.append ?_ ih
    unfold Task.ending
    split
    · rw [if_pos (by omega)]
    · exact List.nil_sublist _

/-- What keeps the count of a pool right. -/
structure Counted (σ : System) : Prop where
  sound : ∀ t ∈ σ.tasks, t.Sound
  known : ∀ s ∈ σ.handed, σ.host.Knows s
  distinct : (σ.handed.map Session.number).Nodup
  ended_handed : σ.ending 0 ⊆ σ.handed
  ended_once : (σ.ending 0).Nodup
  open_iff : ∀ s ∈ σ.handed, σ.host.Open s ↔ s ∉ σ.ending 1
  count : σ.host.active + (σ.ending 2).length = σ.handed.length

theorem Counted.congr {σ' : System} (h : σ.Counted) (sound : ∀ t ∈ σ'.tasks, t.Sound)
    (host : σ'.host = σ.host) (handed : σ'.handed.Perm σ.handed)
    (ending : ∀ n, (σ'.ending n).Perm (σ.ending n)) : σ'.Counted where
  sound := sound
  known s hs := by rw [host]; exact h.known s (handed.subset hs)
  distinct := (handed.map _).nodup_iff.mpr h.distinct
  ended_handed s hs := handed.symm.subset (h.ended_handed ((ending 0).subset hs))
  ended_once := (ending 0).nodup_iff.mpr h.ended_once
  open_iff s hs := by
    rw [host, (ending 1).mem_iff]
    exact h.open_iff s (handed.subset hs)
  count := by rw [host, (ending 2).length_eq, handed.length_eq]; exact h.count

theorem Counted.start : System.start.Counted :=
  ⟨by simp [System.start], by simp [System.start, handed], List.nodup_nil,
    List.nil_subset _, List.nodup_nil, by simp [System.start, handed], rfl⟩

section Steps

variable {i : Nat} {t t' : Task} {x : Exchange} {s : Session} {host : Host} {holder : Option Nat}

/-- A session is ended by one task. -/
theorem Counted.task_unique (h : σ.Counted) {u : Task} (ht : t ∈ σ.tasks) (hu : u ∈ σ.tasks)
    (hc : t.call.session? = some s) (hc' : u.call.session? = some s) : t = u := by
  by_contra hn
  have : Std.Symm (Function.onFun List.Disjoint (Task.ending 0)) :=
    ⟨fun _ _ hd => List.disjoint_symm hd⟩
  have hd : List.Disjoint (t.ending 0) (u.ending 0) :=
    (List.nodup_flatMap.mp h.ended_once).2.forall ht hu hn
  have hs {v : Task} (hv : v.call.session? = some s) : s ∈ v.ending 0 := by
    simp [Task.ending, hv]
  exact hd (hs hc) (hs hc')

theorem Counted.mem_handed (h : σ.Counted) (ht : t ∈ σ.tasks) (hc : t.call.session? = some s) :
    s ∈ σ.handed := h.ended_handed (mem_ending_iff.mpr ⟨t, ht, hc, Nat.zero_le _⟩)

theorem Counted.open_task_iff (h : σ.Counted) (ht : t ∈ σ.tasks)
    (hc : t.call.session? = some s) : σ.host.Open s ↔ t.calls = [] := by
  rw [h.open_iff s (h.mem_handed ht hc), mem_ending_iff, ← List.length_eq_zero_iff]
  constructor
  · intro hn
    by_contra hl
    exact hn ⟨t, ht, hc, by omega⟩
  · rintro hl ⟨u, hu, hc', hn⟩
    obtain rfl := h.task_unique ht hu hc hc'
    omega

theorem Counted.sees (h : σ.Counted) (ht : t ∈ σ.tasks) (hs : σ.host.Serves x host)
    (hc : t.call.session? = some s) : (sessionRules s).sees t.calls x := by
  rintro was rfl
  have ha : was = false ↔ t.calls = [] := hs.mark_answer.trans (h.open_task_iff ht hc)
  cases hl : t.calls with
  | nil => exact ha.mpr hl
  | cons y rest =>
    rw [hl] at ha
    simpa using ha

theorem handed_act (ht : σ.tasks[i]? = some t) (hm : t.Makes x t') :
    ((σ.tasks.set i t').flatMap fun u => entered u.calls).Perm (x.entered ++ σ.handed) :=
  flatMap_set_perm_of_append ht (by rw [hm.calls_eq, entered_append]; simp [entered])

theorem ending_act (ht : σ.tasks[i]? = some t) (hm : t.Makes x t') (n : Nat) :
    ((σ.tasks.set i t').flatMap (Task.ending n)).Perm
      ((if t.calls.length + 1 = n then t.call.session?.toList else []) ++ σ.ending n) :=
  flatMap_set_perm_of_append ht (hm.ending_eq n)

/-- Whenever a session is about to be counted out, it is still counted. -/
theorem Counted.active_pos (h : σ.Counted) (ht : σ.tasks[i]? = some t) (hm : t.Makes x t') :
    x.left.length ≤ σ.host.active := by
  have hl := hm.left_eq (h.sound t (List.mem_of_getElem? ht))
  have h₂ := (ending_act ht hm 2).length_eq
  have h₀ := (ending_act ht hm 0).length_eq
  have hs := (ending_sublist (Nat.zero_le 2) ⟨σ.host, none, σ.tasks.set i t'⟩).length_le
  simp only [ending] at hs
  have hh : (σ.ending 0).length ≤ σ.handed.length :=
    (List.subperm_of_subset h.ended_once h.ended_handed).length_le
  have hc := h.count
  rw [← hl, List.length_append] at h₂
  rw [if_neg (by omega), List.nil_append] at h₀
  omega

theorem Counted.spares_iff (h : σ.Counted) (ht : t ∈ σ.tasks) (hm : t.Makes x t')
    (hs : s ∈ σ.handed) (ho : s ∉ σ.ending 1) :
    (∀ u, x.op = .markReleased u → u.number ≠ s.number) ↔
      s ∉ if t.calls.length + 1 = 1 then t.call.session?.toList else [] := by
  cases hc : t.call.session? with
  | none =>
    refine iff_of_true (fun u hu => ?_) (by simp)
    rcases hm.uncounted hc with hn | ⟨-, p, a, hn⟩
    · rw [hu] at hn; cases hn
    · rw [hu] at hn; cases hn
  | some v =>
    have hv : v.number = s.number → v = s := fun hn =>
      List.inj_on_of_nodup_map h.distinct (h.mem_handed ht hc) hs hn
    have hmay := hm.may (h.sound t ht) hc
    simp only [sessionRules] at hmay
    split at hmay
    · rename_i hl
      rw [hl, hmay]
      constructor
      · rintro hn hm
        obtain rfl : s = v := by simpa using hm
        exact hn s rfl rfl
      · rintro hn u hu he
        obtain rfl := Op.markReleased.inj hu
        exact hn (by simp [hv he])
    · rename_i hl
      rw [hl, hmay]
      exact iff_of_true (fun u hu => by cases hu) (by simp)
    · rename_i n hl
      rw [if_neg (by omega)]
      refine iff_of_true ?_ List.not_mem_nil
      rintro u hu he
      rw [hu] at hmay
      rcases hmay with hn | hn
      · cases hn
      · obtain rfl := Op.markReleased.inj hn
        exact ho (mem_ending_iff.mpr ⟨t, ht, by rw [hc, hv he], by omega⟩)

theorem Counted.act (h : σ.Counted) (ht : σ.tasks[i]? = some t) (hm : t.Makes x t')
    (hs : σ.host.Serves x host) : Counted ⟨host, holder, σ.tasks.set i t'⟩ := by
  have hmem : t ∈ σ.tasks := List.mem_of_getElem? ht
  have hsound := h.sound t hmem
  have hhanded := handed_act ht hm
  have hending := ending_act ht hm
  have hended : ((σ.tasks.set i t').flatMap (Task.ending 0)).Perm (σ.ending 0) := by
    simpa using hending 0
  constructor
  case sound =>
    intro u hu
    rcases List.mem_or_eq_of_mem_set hu with hu | rfl
    · exact h.sound u hu
    · exact hm.sound hsound fun s hc => h.sees hmem hs hc
  case known =>
    intro s hn
    rcases List.mem_append.mp (hhanded.subset hn) with hn | hn
    · exact (hs.entered_new hn).1
    · exact hs.knows (h.known s hn)
  case distinct =>
    refine (hhanded.map _).nodup_iff.mpr ?_
    rw [List.map_append]
    refine List.Nodup.append ?_ h.distinct ?_
    · have hl := x.length_entered_le
      match x.entered, hl with
      | [], _ => exact List.nodup_nil
      | [u], _ => exact List.nodup_singleton _
    · rintro n hn hn'
      obtain ⟨u, hu, rfl⟩ := List.mem_map.mp hn
      obtain ⟨v, hv, he⟩ := List.mem_map.mp hn'
      have hk : v.number ≤ σ.host.sessionCount := h.known v hv
      have hu := (hs.entered_new hu).2.2
      omega
  case ended_handed =>
    intro s hn
    exact hhanded.symm.subset (List.mem_append_right _ (h.ended_handed (hended.subset hn)))
  case ended_once => exact hended.nodup_iff.mpr h.ended_once
  case open_iff =>
    intro s hn
    rcases List.mem_append.mp (hhanded.subset hn) with hn | hn
    · obtain ⟨-, ho, he⟩ := hs.entered_new hn
      refine iff_of_true ho fun hm => ?_
      have hm := (ending_sublist (Nat.zero_le 1) ⟨host, holder, σ.tasks.set i t'⟩).subset hm
      have hk : s.number ≤ σ.host.sessionCount := h.known s (h.ended_handed (hended.subset hm))
      omega
    · have hp : s ∈ ending 1 ⟨host, holder, σ.tasks.set i t'⟩ ↔ _ := (hending 1).mem_iff
      rw [hs.open_iff (h.known s hn), h.open_iff s hn, hp, List.mem_append, not_or, and_comm]
      exact and_congr_left (h.spares_iff hmem hm hn)
  case count =>
    have hc := h.count
    have hp := h.active_pos ht hm
    have hh : (handed ⟨host, holder, σ.tasks.set i t'⟩).length = _ := hhanded.length_eq
    have he : (ending 2 ⟨host, holder, σ.tasks.set i t'⟩).length = _ := (hending 2).length_eq
    rw [hh, he, ← hm.left_eq hsound, List.length_append, List.length_append]
    have ha := hs.active hp
    simp only
    omega

theorem Counted.begin (h : σ.Counted) (c : Call)
    (hc : ∀ s, c.session? = some s → s ∈ σ.handed ∧ ∀ t ∈ σ.tasks, t.call.session? ≠ some s) :
    Counted { σ with tasks := σ.tasks ++ [⟨c, [], none⟩] } := by
  have hhanded : handed { σ with tasks := σ.tasks ++ [⟨c, [], none⟩] } = σ.handed := by
    simp [handed, Task.calls, entered]
  have hended : ending 0 { σ with tasks := σ.tasks ++ [⟨c, [], none⟩] } =
      σ.ending 0 ++ c.session?.toList := by simp [ending, Task.ending]
  have hending (n : Nat) : ending (n + 1) { σ with tasks := σ.tasks ++ [⟨c, [], none⟩] } =
      σ.ending (n + 1) := by simp [ending, Task.ending, Task.calls]
  constructor
  case sound =>
    exact List.forall_mem_append.mpr
      ⟨h.sound, List.forall_mem_singleton.mpr (Task.sound_begun c)⟩
  case known => rw [hhanded]; exact h.known
  case distinct => rw [hhanded]; exact h.distinct
  case ended_handed =>
    rw [hhanded, hended]
    exact List.append_subset.mpr ⟨h.ended_handed, fun s hs => (hc s (by simpa using hs)).1⟩
  case ended_once =>
    rw [hended]
    refine h.ended_once.append ?_ ?_
    · cases c.session? <;> simp
    · intro s hs hs'
      obtain ⟨t, ht, he, -⟩ := mem_ending_iff.mp hs
      exact (hc s (by simpa using hs')).2 t ht he
  case open_iff => rw [hhanded, hending]; exact h.open_iff
  case count => rw [hhanded, hending]; exact h.count

theorem Counted.cancel (h : σ.Counted) (ht : σ.tasks[i]? = some t) (hw : t.Waits) :
    Counted { σ with tasks := σ.tasks.set i { t with cleared := some [] } } := by
  have hcalls : Task.calls { t with cleared := some [] } = t.calls := by cases hw <;> rfl
  refine h.congr ?_ rfl ?_ fun n => ?_
  · intro u hu
    rcases List.mem_or_eq_of_mem_set hu with hu | rfl
    · exact h.sound u hu
    · exact hw.sound (h.sound t (List.mem_of_getElem? ht))
  · have he : entered (Task.calls { t with cleared := some [] }) = entered t.calls ++ [] := by
      rw [hcalls, List.append_nil]
    exact flatMap_set_perm_of_append (f := fun u => entered u.calls) ht he
  · have he : Task.ending n { t with cleared := some [] } = t.ending n ++ [] := by
      rw [Task.ending, hcalls, List.append_nil]
      rfl
    exact flatMap_set_perm_of_append ht he

end Steps

theorem counted (h : ReachableWithCancels σ) : σ.Counted := by
  induction h with
  | refl => exact Counted.start
  | tail _ hstep ih =>
    rcases hstep with hstep | ⟨ht, hw⟩
    · cases hstep with
      | begin c hc => exact ih.begin c hc
      | act ht hm hs _ => exact ih.act ht hm hs
    · exact ih.cancel ht hw

theorem Counted.active_eq (h : σ.Counted) : σ.host.active = σ.live.length := by
  have hn : σ.handed.Nodup := List.Nodup.of_map _ h.distinct
  have hs : σ.ending 2 ⊆ σ.handed :=
    fun s hs => h.ended_handed ((ending_sublist (Nat.zero_le 2) σ).subset hs)
  have hp : (σ.handed.filter (· ∈ σ.ending 2)).Perm (σ.ending 2) := by
    refine (List.perm_ext_iff_of_nodup (hn.filter _)
      (h.ended_once.sublist (ending_sublist (Nat.zero_le 2) σ))).mpr fun s => ?_
    simpa using fun hm => hs hm
  have hl := List.length_eq_length_filter_add (l := σ.handed) (· ∈ σ.ending 2)
  have hc := h.count
  have hv : σ.live = σ.handed.filter fun s => !decide (s ∈ σ.ending 2) := by
    simp only [live, decide_not]
  rw [hp.length_eq, ← hv] at hl
  omega

end System

structure Task.Balanced (t : Task) : Prop where
  acquire : t.call = .acquire → left t.calls = [] ∧
    (∀ s ∈ entered t.calls, t.cleared = none ∧ Ends Pool.acquire t.log (.ok s)) ∧
    ∀ r, t.cleared = none → Ends Pool.acquire t.log r → entered t.calls = r.toOption.toList
  shutdown : t.call = .shutdown → entered t.calls = [] ∧ left t.calls = []
  ending : ∀ s, t.call.session? = some s → entered t.calls = [] ∧
    left t.calls = (if 2 ≤ t.calls.length then [s] else []) ∧ (t.Over → left t.calls = [s])

theorem Task.Sound.over {t : Task} {s : Session} (h : t.Sound) (hc : t.call.session? = some s)
    (ho : t.Over) : 2 ≤ t.calls.length := by
  obtain ⟨call, log, cleared⟩ := t
  have hseen := h.seen s hc
  cases cleared with
  | none =>
    have hs : (sessionRules s).Seen [] log := by simpa [calls] using hseen
    obtain ⟨r, hr⟩ := ho
    cases call with
    | release u =>
      obtain rfl := Option.some.inj hc
      simpa [calls] using follows_release.ends hr hs
    | drop u =>
      obtain rfl := Option.some.inj hc
      have hf : Follows (sessionRules u) [] (discard u) _ := follows_discard (by simp)
      simpa [calls] using hf.ends hr hs
    | acquire => cases hc
    | shutdown => cases hc
  | some done =>
    have hs : (sessionRules s).Seen log done := (Prog.Rules.seen_append_iff.mp hseen).2
    obtain ⟨r, hr⟩ := ho
    have hr : Ends (discard s) done r := by rwa [Call.cleanup, hc] at hr
    exact (follows_discard (h.cut rfl s hc)).ends hr hs

theorem Task.Sound.balanced {t : Task} (h : t.Sound) : t.Balanced := by
  have hnone (hc : t.call.session? = none) : left t.calls = [] := by
    rw [h.left_eq, Task.ending, hc]
    simp
  constructor
  · intro ha
    refine ⟨hnone (by rw [ha]; rfl), h.taken ha, fun r hn hr => ?_⟩
    have hc : t.calls = t.log := by simp [Task.calls, hn]
    rw [hc]
    cases r with
    | ok s => exact (projections_acquire hr).1
    | error e => exact (projections_acquire_error hr).2.1
  · intro hs
    exact ⟨h.enters (fun ha => by rw [hs] at ha; cases ha), hnone (by rw [hs]; rfl)⟩
  · intro s hc
    have hl : left t.calls = if 2 ≤ t.calls.length then [s] else [] := by
      rw [h.left_eq, Task.ending, hc]
      rfl
    refine ⟨h.enters (fun ha => by rw [ha] at hc; cases hc), hl, fun ho => ?_⟩
    rw [hl, if_pos (h.over hc ho)]

/-- Whatever calls are made of a pool, in whatever order they go on, and whether or not they are
given up: the number of active sessions is that of the sessions which were taken and neither
released nor dropped. It is positive whenever one is counted out, which no session is twice. -/
theorem active_sessions {σ : System} (h : System.ReachableWithCancels σ) :
    σ.host.active = σ.live.length ∧
    (∀ t ∈ σ.tasks, ∀ s r t', t.Makes ⟨.leave s, r⟩ t' → 0 < σ.host.active) ∧
    (∀ t ∈ σ.tasks, t.Balanced) ∧
    (σ.tasks.flatMap fun t => left t.calls).Nodup := by
  have hc := System.counted h
  refine ⟨hc.active_eq, ?_, fun t ht => (hc.sound t ht).balanced, ?_⟩
  · intro t ht s r t' hm
    obtain ⟨i, hi⟩ := List.mem_iff_getElem?.mp ht
    exact hc.active_pos hi hm
  · have he : (σ.tasks.flatMap fun t => left t.calls) = σ.ending 2 :=
      List.flatMap_congr fun t ht => (hc.sound t ht).left_eq
    rw [he]
    exact hc.ended_once.sublist (System.ending_sublist (Nat.zero_le 2) σ)

/-- A session that was taken and whose release has been asked for is still counted. -/
theorem active_sessions_first : ∃ σ : System, σ.ReachableWithCancels ∧
    σ.tasks.map (·.call) = [.acquire, .release firstSession] ∧
    σ.live = [firstSession] ∧ σ.host.active = 1 := by
  have hr : System.ReachableWithCancels ⟨Host.start.after firstAcquire, none,
      [⟨.acquire, firstAcquire, none⟩, ⟨.release firstSession, [], none⟩]⟩ := by
    refine .tail System.reachable_firstAcquire.withCancels ?_
    refine .inl (.begin (.release firstSession) ?_)
    rintro s ⟨⟩
    exact ⟨List.mem_singleton_self _, by simp [Call.session?]⟩
  have ha := (active_sessions hr).1
  exact ⟨_, hr, rfl, rfl, ha⟩

end Pool
end PageFlow
