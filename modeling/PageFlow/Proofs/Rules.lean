import PageFlow.Proofs.Attempts

/-! Programs that keep rules while others are at work. Rules say which call may follow the calls
made so far, and which answers can be relied on; a program keeps them if every call it makes is
allowed as long as every answer is one of these. Programs are held to rules part by part, and what
holds of a program holds of each of its beginnings, wherever it is interrupted. -/
namespace PageFlow
namespace Prog

variable {Op : Type} {Reply : Op → Type} {α β : Type}

/-- The program can make these calls first and get these answers. -/
inductive Begins : Prog Op Reply α → List (Exchange Op Reply) → Prop where
  | nil (p) : Begins p []
  | ask {op next log} (r : Reply op) : Begins (next r) log → Begins (ask op next) (⟨op, r⟩ :: log)

variable {log past : List (Exchange Op Reply)}

theorem Exec.begins {p : Prog Op Reply α} {a : α} (h : Exec p log a) : Begins p log := by
  induction h with
  | done a => exact .nil _
  | ask r _ ih => exact .ask r ih

theorem Begins.left {p : Prog Op Reply α} {more : List (Exchange Op Reply)}
    (h : Begins p (log ++ more)) : Begins p log := by
  induction log generalizing p with
  | nil => exact .nil p
  | cons x log ih =>
    cases h with
    | ask r h => exact .ask r (ih h)

theorem Begins.exec [∀ op, Nonempty (Reply op)] {p : Prog Op Reply α} (h : Begins p log) :
    ∃ rest a, Exec p (log ++ rest) a := by
  induction h with
  | nil p =>
    obtain ⟨rest, a, hp, -⟩ := exists_exec (fun _ _ => Classical.choice inferInstance) p []
    exact ⟨rest, a, hp⟩
  | ask r _ ih =>
    obtain ⟨rest, a, hp⟩ := ih
    exact ⟨rest, a, .ask r hp⟩

theorem Exec.not_begins {p : Prog Op Reply α} {a : α} (h : Exec p log a) (x : Exchange Op Reply) :
    ¬ Begins p (log ++ [x]) := by
  induction h with
  | done a => intro hb; cases hb
  | ask r _ ih =>
    intro hb
    cases hb with
    | ask r hb => exact ih hb

/-- What may be called after some calls, and which answers can be relied on. -/
structure Rules (Op : Type) (Reply : Op → Type) where
  may : List (Exchange Op Reply) → Op → Prop
  sees : List (Exchange Op Reply) → Exchange Op Reply → Prop

namespace Rules

variable (R : Rules Op Reply)

/-- After some calls the answers of the log are such as the rules rely on. -/
def Seen : List (Exchange Op Reply) → List (Exchange Op Reply) → Prop
  | _, [] => True
  | past, x :: log => R.sees past x ∧ Seen (past ++ [x]) log

/-- After some calls, the program makes calls that the rules allow and ends as they ask. -/
def Kept (Q : α → List (Exchange Op Reply) → Prop) :
    List (Exchange Op Reply) → Prog Op Reply α → Prop
  | past, done a => Q a past
  | past, ask op next => R.may past op ∧ ∀ r, R.sees past ⟨op, r⟩ →
      Kept Q (past ++ [⟨op, r⟩]) (next r)

variable {R} {Q : α → List (Exchange Op Reply) → Prop} {p : Prog Op Reply α}

theorem seen_append_iff {second : List (Exchange Op Reply)} :
    R.Seen past (log ++ second) ↔ R.Seen past log ∧ R.Seen (past ++ log) second := by
  induction log generalizing past with
  | nil => simp [Seen]
  | cons x log ih => simp [Seen, ih, and_assoc]

theorem seen_concat_iff {x : Exchange Op Reply} :
    R.Seen [] (log ++ [x]) ↔ R.Seen [] log ∧ R.sees log x := by
  simp [seen_append_iff, Seen]

/-- Wherever the program has come to, its next call is allowed. -/
theorem Kept.next {x : Exchange Op Reply} (h : R.Kept Q past p) (hb : Begins p (log ++ [x]))
    (hs : R.Seen past log) : R.may (past ++ log) x.op := by
  induction log generalizing past p with
  | nil =>
    cases hb with
    | ask r _ => simpa using h.1
  | cons y log ih =>
    cases hb with
    | ask r hb => simpa using ih (h.2 r hs.1) hb hs.2

theorem Kept.ends {a : α} (h : R.Kept Q past p) (he : Exec p log a) (hs : R.Seen past log) :
    Q a (past ++ log) := by
  induction he generalizing past with
  | done a => simpa [Kept] using h
  | ask r _ ih => simpa using ih (h.2 r hs.1) hs.2

theorem Kept.bind {f : α → Prog Op Reply β} {Q' : β → List (Exchange Op Reply) → Prop}
    (h : R.Kept Q past p) (hf : ∀ a log, Q a log → R.Kept Q' log (f a)) :
    R.Kept Q' past (p >>= f) := by
  induction p generalizing past with
  | done a => exact hf a past h
  | ask op next ih => exact ⟨h.1, fun r hr => ih r (h.2 r hr)⟩

end Rules
end Prog

namespace Engine

instance (op : Op) : Nonempty (Reply op) := by
  cases op with
  | runExtractor => exact ⟨ProcessEnd.late⟩
  | _ => simp only [Reply]; infer_instance

/-- What a program asks for at any time is of the kind that it asks for at all. -/
theorem Confined.begins {ok : Op → Prop} {F : FlowError → Prop} {a : Attempt τ} {log : Log}
    {x : Exchange} (ha : Confined ok F a) (hb : Prog.Begins a.run (log ++ [x])) : ok x.op := by
  obtain ⟨rest, r, hr⟩ := hb.exec
  exact (ha _ r hr).1 x (by simp)

abbrev Rules := Prog.Rules Op Reply

/-- After some calls, the attempt keeps to the rules and ends as they ask. -/
def Follows (R : Rules) (past : Log) (a : Attempt τ) (Q : Except FlowError τ → Log → Prop) : Prop :=
  R.Kept Q past a.run

variable {R : Rules} {past : Log} {a : Attempt τ} {f : τ → Attempt υ}
  {Q : Except FlowError τ → Log → Prop} {Q' : Except FlowError υ → Log → Prop}

theorem follows_pure {v : τ} (h : Q (.ok v) past) : Follows R past (pure v) Q := h

theorem follows_throw {e : FlowError} (h : Q (.error e) past) : Follows R past (throw e) Q := h

theorem follows_ofAnswer {x : Except FlowError τ} (h : Q x past) :
    Follows R past (ofAnswer x) Q := h

theorem follows_bind (h : Follows R past a Q)
    (hf : ∀ v log, Q (.ok v) log → Follows R log (f v) Q')
    (he : ∀ e log, Q (.error e) log → Q' (.error e) log) : Follows R past (a >>= f) Q' := by
  refine Prog.Rules.Kept.bind (p := a.run) h fun r log hq => ?_
  cases r with
  | ok v => exact hf v log hq
  | error e => exact he e log hq

theorem follows_outcome_bind {f : Except FlowError τ → Attempt υ} (h : Follows R past a Q)
    (hf : ∀ r log, Q r log → Follows R log (f r) Q') : Follows R past (outcome a >>= f) Q' := by
  have ho : Follows R past (outcome a) fun o log => ∃ r, o = .ok r ∧ Q r log :=
    Prog.Rules.Kept.bind (p := a.run) h fun r log hq => ⟨r, rfl, hq⟩
  refine follows_bind ho ?_ ?_
  · rintro v log ⟨r, hr, hq⟩
    obtain rfl := Except.ok.inj hr
    exact hf v log hq
  · rintro e log ⟨r, hr, -⟩
    cases hr

theorem follows_call {op : Op} {answer : Reply op → Except FlowError τ}
    (ha : a.run = .ask op fun r => .done (answer r)) (hm : R.may past op)
    (hq : ∀ r, R.sees past ⟨op, r⟩ → Q (answer r) (past ++ [⟨op, r⟩])) : Follows R past a Q := by
  rw [Follows, ha]
  exact ⟨hm, hq⟩

theorem follows_call_bind {op : Op} {f : Reply op → Attempt υ} (hm : R.may past op)
    (hf : ∀ r, R.sees past ⟨op, r⟩ → Follows R (past ++ [⟨op, r⟩]) (f r) Q') :
    Follows R past (ExceptT.lift (ask op) >>= f) Q' := ⟨hm, hf⟩

end Engine
end PageFlow
