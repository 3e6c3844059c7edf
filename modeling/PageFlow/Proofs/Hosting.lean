import Mathlib.Logic.Relation
import PageFlow.Engine.Host
import PageFlow.Proofs.Execution

/-! Programs on a host. The host answers what it has an answer to, from its state; anything else is
up to the driver. Between two calls of a program others may have used the same host. -/
namespace PageFlow

open Engine

namespace Host

def absorb (h : Host) (x : Exchange) : Host :=
  match answer? x.op with
  | some f => (f h).2
  | none => h

/-- A call that the host in one state may see, with its answer, and the state after it. -/
def Serves (h : Host) (x : Exchange) (h' : Host) : Prop :=
  h' = h.absorb x ∧ ∀ f, answer? x.op = some f → x.reply = (f h).1

/-- Calls of anyone can lead from one state to the other. -/
def Leads : Host → Host → Prop := Relation.ReflTransGen fun h h' => ∃ x, Serves h x h'

/-- The calls of a log as the host sees them; before each of them others may have changed it. -/
inductive Plays (others : Host → Host → Prop) : Host → Log → Host → Prop where
  | nil (h) : Plays others h [] h
  | cons {h h₁ h₂ h' x log} : others h h₁ → Serves h₁ x h₂ → Plays others h₂ log h' →
      Plays others h (x :: log) h'

variable {others : Host → Host → Prop} {h h' : Host} {x : Exchange} {log first second : Log}

theorem plays_cons_iff : Plays others h (x :: log) h' ↔
    ∃ h₁ h₂, others h h₁ ∧ Serves h₁ x h₂ ∧ Plays others h₂ log h' := by
  constructor
  · intro hp
    cases hp with
    | cons ho hs hr => exact ⟨_, _, ho, hs, hr⟩
  · rintro ⟨h₁, h₂, ho, hs, hr⟩
    exact .cons ho hs hr

theorem plays_append_iff : Plays others h (first ++ second) h' ↔
    ∃ m, Plays others h first m ∧ Plays others m second h' := by
  induction first generalizing h with
  | nil =>
    constructor
    · intro hp; exact ⟨h, .nil h, hp⟩
    · rintro ⟨m, hn, hp⟩; cases hn; exact hp
  | cons x rest ih =>
    rw [List.cons_append, plays_cons_iff]
    simp only [ih, plays_cons_iff]
    constructor
    · rintro ⟨h₁, h₂, ho, hs, m, hf, hp⟩; exact ⟨m, ⟨h₁, h₂, ho, hs, hf⟩, hp⟩
    · rintro ⟨m, ⟨h₁, h₂, ho, hs, hf⟩, hp⟩; exact ⟨h₁, h₂, ho, hs, m, hf, hp⟩

theorem Plays.leads (hp : Plays others h log h') (ho : ∀ g g', others g g' → g.Leads g') :
    h.Leads h' := by
  induction hp with
  | nil => exact .refl
  | cons hm hx _ ih => exact ((ho _ _ hm).tail ⟨_, hx⟩).trans ih

theorem Leads.keeps (hl : h.Leads h') {P : Host → Prop}
    (hs : ∀ {g x g'}, Serves g x g' → P g → P g') (hh : P h) : P h' := by
  induction hl with
  | refl => exact hh
  | tail _ hx ih =>
    obtain ⟨x, hx⟩ := hx
    exact hs hx ih

def after (h : Host) (log : Log) : Host := log.foldl absorb h

/-- Answers what the host has an answer to from its state, and all else as a driver does. -/
def along (h : Host) (drive : Prog.Behaviour Op Reply) : Prog.Behaviour Op Reply :=
  fun past op => match answer? op with
    | some f => (f (h.after past)).1
    | none => drive past op

theorem serves_of_along {drive : Prog.Behaviour Op Reply} {past : Log}
    (hx : x.reply = h.along drive past x.op) :
    Serves (h.after past) x (h.after (past ++ [x])) := by
  refine ⟨by simp [after], fun f hf => ?_⟩
  rw [hx, along, hf]

theorem plays_of_gives {drive : Prog.Behaviour Op Reply} {past log : Log}
    (hg : (h.along drive).Gives past log) :
    Plays Eq (h.after past) log (h.after (past ++ log)) := by
  induction log generalizing past with
  | nil => rw [List.append_nil]; exact .nil _
  | cons x rest ih =>
    obtain ⟨hx, hr⟩ := hg
    have hp := ih hr
    rw [List.append_assoc] at hp
    exact .cons rfl (serves_of_along hx) hp

/-- A program comes to its end on every host, whatever the driver does. -/
theorem exists_plays (h : Host) (drive : Prog.Behaviour Op Reply) (p : Job α) :
    ∃ log a, Prog.Exec p log a ∧ (h.along drive).Gives [] log ∧ h.Plays Eq log (h.after log) := by
  obtain ⟨log, a, hp, hg⟩ := Prog.exists_exec (h.along drive) p []
  exact ⟨log, a, hp, hg, plays_of_gives hg⟩

/-! ## Sessions -/

def Knows (h : Host) (s : Session) : Prop := s.number ≤ h.sessionCount

def Open (h : Host) (s : Session) : Prop := ∃ t ∈ h.sessions, t.number = s.number

def Marked (h : Host) (s : Session) : Prop := h.Knows s ∧ ¬ h.Open s

variable {s : Session}

theorem Serves.sessionCount_le (hs : Serves h x h') : h.sessionCount ≤ h'.sessionCount := by
  obtain ⟨op, r⟩ := x
  rw [hs.1]
  cases op <;> simp [absorb, answer?]

theorem Serves.knows (hs : Serves h x h') (hk : h.Knows s) : h'.Knows s :=
  Nat.le_trans hk hs.sessionCount_le

/-- A session stays open until it is marked. -/
theorem Serves.open_iff (hs : Serves h x h') (hk : h.Knows s) :
    h'.Open s ↔ h.Open s ∧ ∀ t, x.op = .markReleased t → t.number ≠ s.number := by
  obtain ⟨op, r⟩ := x
  rw [hs.1]
  cases op with
  | enter p a =>
    have hn : h.sessionCount + 1 ≠ s.number := fun hn => by rw [Knows] at hk; omega
    simp [Open, absorb, answer?, hn]
  | markReleased t =>
    simp only [Open, absorb, answer?, List.mem_filter, Op.markReleased.injEq]
    constructor
    · rintro ⟨u, ⟨hu, hn⟩, he⟩
      refine ⟨⟨u, hu, he⟩, ?_⟩
      rintro _ rfl ht
      simp [he, ht] at hn
    · rintro ⟨⟨u, hu, he⟩, hn⟩
      exact ⟨u, ⟨hu, by simpa [he] using (hn t rfl).symm⟩, he⟩
  | _ => simp [Open, absorb, answer?]

theorem Serves.marked (hs : Serves h x h') (hm : h.Marked s) : h'.Marked s :=
  ⟨hs.knows hm.1, fun ho => hm.2 ((hs.open_iff hm.1).mp ho).1⟩

theorem Leads.knows (hl : h.Leads h') (hk : h.Knows s) : h'.Knows s :=
  hl.keeps (fun hx hk => hx.knows hk) hk

theorem Leads.marked (hl : h.Leads h') (hm : h.Marked s) : h'.Marked s :=
  hl.keeps (fun hx hm => hx.marked hm) hm

theorem Serves.enter_number {p : Page} {a : ApiContext} (hs : Serves h ⟨.enter p a, s⟩ h') :
    s.number = h.sessionCount + 1 := by
  have hn : s = ⟨h.sessionCount + 1, p, a⟩ := hs.2 _ rfl
  rw [hn]

theorem Serves.enter_knows {p : Page} {a : ApiContext} (hs : Serves h ⟨.enter p a, s⟩ h') :
    h'.Knows s := by
  rw [Knows, hs.enter_number, hs.1]
  exact Nat.le_refl _

theorem Serves.enter_open {p : Page} {a : ApiContext} (hs : Serves h ⟨.enter p a, s⟩ h') :
    h'.Open s := by
  rw [Open, hs.enter_number, hs.1]
  exact ⟨_, List.mem_cons_self, rfl⟩

theorem Serves.mark_marked {was : Bool} (hs : Serves h ⟨.markReleased s, was⟩ h')
    (hk : h.Knows s) : h'.Marked s :=
  ⟨hs.knows hk, fun ho => ((hs.open_iff hk).mp ho).2 s rfl rfl⟩

theorem Serves.mark_answer {was : Bool} (hs : Serves h ⟨.markReleased s, was⟩ h') :
    was = false ↔ h.Open s := by
  have hw : was = !(h.sessions.any fun t => t.number = s.number) := hs.2 _ rfl
  simp [hw, Open]

end Host
end PageFlow
