import PageFlow.Engine.Op

/-! What a program may do: it makes calls, gets some answer to each, and ends with a value. A log
lists the calls with their answers; to speak of every behaviour of a driver is to speak of every
log. Executions agree with handlers, and those of a sequence are executions of its parts. -/
namespace PageFlow
namespace Prog

variable {Op : Type} {Reply : Op → Type} {α β σ : Type}

structure Exchange (Op : Type) (Reply : Op → Type) where
  op : Op
  reply : Reply op

/-- The program makes exactly these calls, gets these answers and ends with this value. -/
inductive Exec : Prog Op Reply α → List (Exchange Op Reply) → α → Prop where
  | done (a) : Exec (done a) [] a
  | ask {op next log a} (r : Reply op) : Exec (next r) log a → Exec (ask op next) (⟨op, r⟩ :: log) a

variable {log : List (Exchange Op Reply)}

theorem exec_done_iff (a b : α) : Exec (done a : Prog Op Reply α) log b ↔ log = [] ∧ b = a := by
  constructor
  · intro h; cases h; exact ⟨rfl, rfl⟩
  · rintro ⟨rfl, rfl⟩; exact .done b

theorem exec_ask_iff (op : Op) (next : Reply op → Prog Op Reply α) (a : α) :
    Exec (ask op next) log a ↔ ∃ r rest, log = ⟨op, r⟩ :: rest ∧ Exec (next r) rest a := by
  constructor
  · intro h
    cases h with
    | ask r h => exact ⟨r, _, rfl, h⟩
  · rintro ⟨r, rest, rfl, h⟩; exact .ask r h

theorem exec_ask_cons_iff {op : Op} {next : Reply op → Prog Op Reply α} {r : Reply op} {a : α} :
    Exec (ask op next) (⟨op, r⟩ :: log) a ↔ Exec (next r) log a := by
  constructor
  · intro h
    cases h with
    | ask _ h => exact h
  · exact .ask r

theorem exec_call_iff (op : Op) (r : Reply op) :
    Exec (call op : Prog Op Reply (Reply op)) log r ↔ log = [⟨op, r⟩] := by
  constructor
  · intro h
    obtain ⟨r', rest, rfl, hr⟩ := (exec_ask_iff op done r).mp h
    obtain ⟨rfl, rfl⟩ := (exec_done_iff r' r).mp hr
    rfl
  · rintro rfl; exact .ask r (.done r)

theorem Exec.bind {p : Prog Op Reply α} {f : α → Prog Op Reply β} {first second a b}
    (hp : Exec p first a) (hf : Exec (f a) second b) : Exec (p >>= f) (first ++ second) b := by
  induction hp with
  | done a => exact hf
  | ask r _ ih => exact .ask r (ih hf)

theorem exec_bind_iff (p : Prog Op Reply α) (f : α → Prog Op Reply β) (b : β) :
    Exec (p >>= f) log b ↔
      ∃ first a second, log = first ++ second ∧ Exec p first a ∧ Exec (f a) second b := by
  constructor
  · intro h
    induction p generalizing log with
    | done a => exact ⟨[], a, log, rfl, .done a, h⟩
    | ask op next ih =>
      rw [ask_bind] at h
      obtain ⟨r, rest, rfl, hr⟩ := (exec_ask_iff op _ b).mp h
      obtain ⟨first, a, second, rfl, hp, hf⟩ := ih r hr
      exact ⟨⟨op, r⟩ :: first, a, second, rfl, .ask r hp, hf⟩
  · rintro ⟨first, a, second, rfl, hp, hf⟩; exact hp.bind hf

theorem exec_of_run {handle : (op : Op) → σ → Option (Reply op) × σ} {p : Prog Op Reply α}
    {s s' : σ} {a : α} (h : p.run handle s = (some a, s')) :
    ∃ log, Exec p log a ∧ ∀ x ∈ log, ∃ t t', handle x.op t = (some x.reply, t') := by
  induction p generalizing s with
  | done b =>
    obtain ⟨hb, -⟩ := Prod.mk.inj h
    obtain rfl := Option.some.inj hb
    exact ⟨[], .done b, by simp⟩
  | ask op next ih =>
    rw [run] at h
    split at h
    · rename_i r t hr
      obtain ⟨log, hl, ha⟩ := ih r h
      refine ⟨⟨op, r⟩ :: log, .ask r hl, ?_⟩
      intro x hx
      rcases List.mem_cons.mp hx with rfl | hx
      · exact ⟨s, t, hr⟩
      · exact ha x hx
    · cases h

/-- A way to answer every call, given the calls before it. -/
abbrev Behaviour (Op : Type) (Reply : Op → Type) :=
  List (Exchange Op Reply) → (op : Op) → Reply op

def Behaviour.Gives (b : Behaviour Op Reply) : List (Exchange Op Reply) →
    List (Exchange Op Reply) → Prop
  | _, [] => True
  | past, x :: rest => x.reply = b past x.op ∧ b.Gives (past ++ [x]) rest

/-- A program comes to its end, whatever the behaviour of what answers it. -/
theorem exists_exec (b : Behaviour Op Reply) (p : Prog Op Reply α)
    (past : List (Exchange Op Reply)) : ∃ log a, Exec p log a ∧ b.Gives past log := by
  induction p generalizing past with
  | done a => exact ⟨[], a, .done a, trivial⟩
  | ask op next ih =>
    obtain ⟨log, a, hl, hb⟩ := ih (b past op) (past ++ [⟨op, b past op⟩])
    exact ⟨⟨op, b past op⟩ :: log, a, .ask _ hl, rfl, hb⟩

/-- Two programs that begin alike make the same calls of their own, and end alike. -/
theorem Exec.unique {p : Prog Op Reply α} {first second more rest : List (Exchange Op Reply)}
    {a b : α} (hp : Exec p first a) (hq : Exec p second b)
    (h : first ++ more = second ++ rest) : first = second ∧ a = b ∧ more = rest := by
  induction hp generalizing second with
  | done a =>
    obtain ⟨rfl, rfl⟩ := (exec_done_iff _ _).mp hq
    exact ⟨rfl, rfl, h⟩
  | ask r _ ih =>
    obtain ⟨r', log, rfl, hnext⟩ := (exec_ask_iff _ _ _).mp hq
    obtain ⟨hx, hrest⟩ := List.cons.inj h
    cases hx
    obtain ⟨rfl, rfl, rfl⟩ := ih hnext hrest
    exact ⟨rfl, rfl, rfl⟩

theorem Exec.bind_iff {p : Prog Op Reply α} {f : α → Prog Op Reply β}
    {first : List (Exchange Op Reply)} {a : α} {b : β} (hp : Exec p first a) :
    Exec (p >>= f) (first ++ log) b ↔ Exec (f a) log b := by
  constructor
  · intro h
    obtain ⟨first', a', rest, hlog, hp', hf⟩ := (exec_bind_iff p f b).mp h
    obtain ⟨rfl, rfl, rfl⟩ := hp.unique hp' hlog
    exact hf
  · exact hp.bind

section Failing

variable {ε τ υ : Type}

theorem exec_lift_iff (p : Prog Op Reply τ) (r : Except ε τ) :
    Exec (ExceptT.lift p : ExceptT ε (Prog Op Reply) τ).run log r ↔
      ∃ v, r = .ok v ∧ Exec p log v := by
  have hl : (ExceptT.lift p : ExceptT ε (Prog Op Reply) τ).run =
      p >>= fun v => Prog.done (Except.ok v) := rfl
  rw [hl, exec_bind_iff]
  simp only [exec_done_iff]
  constructor
  · rintro ⟨first, v, second, rfl, hp, rfl, rfl⟩
    exact ⟨v, rfl, by rwa [List.append_nil]⟩
  · rintro ⟨v, rfl, hp⟩
    exact ⟨log, v, [], (List.append_nil log).symm, hp, rfl, rfl⟩

theorem exec_then_iff (a : ExceptT ε (Prog Op Reply) τ) (f : τ → ExceptT ε (Prog Op Reply) υ)
    (r : Except ε υ) :
    Exec (a >>= f).run log r ↔ (∃ e, r = .error e ∧ Exec a.run log (.error e)) ∨
      ∃ first v second, log = first ++ second ∧ Exec a.run first (.ok v) ∧
        Exec (f v).run second r := by
  have hb : (a >>= f).run = a.run >>= ExceptT.bindCont f := rfl
  rw [hb, exec_bind_iff]
  constructor
  · rintro ⟨first, o, second, rfl, ha, hf⟩
    cases o with
    | ok v => exact Or.inr ⟨first, v, second, rfl, ha, hf⟩
    | error e =>
      obtain ⟨rfl, rfl⟩ := (exec_done_iff _ _).mp hf
      exact Or.inl ⟨e, rfl, by rwa [List.append_nil]⟩
  · rintro (⟨e, rfl, ha⟩ | ⟨first, v, second, rfl, ha, hf⟩)
    · exact ⟨log, .error e, [], (List.append_nil log).symm, ha, .done _⟩
    · exact ⟨first, .ok v, second, rfl, ha, hf⟩

theorem exec_lift_then_iff (p : Prog Op Reply τ) (f : τ → ExceptT ε (Prog Op Reply) υ)
    (r : Except ε υ) :
    Exec (ExceptT.lift p >>= f).run log r ↔
      ∃ first v second, log = first ++ second ∧ Exec p first v ∧ Exec (f v).run second r := by
  rw [exec_then_iff]
  constructor
  · rintro (⟨e, -, h⟩ | ⟨first, v, second, rfl, hp, hf⟩)
    · obtain ⟨v, hv, -⟩ := (exec_lift_iff p _).mp h
      cases hv
    · obtain ⟨v', hv, hp⟩ := (exec_lift_iff p _).mp hp
      obtain rfl := Except.ok.inj hv
      exact ⟨first, v, second, rfl, hp, hf⟩
  · rintro ⟨first, v, second, rfl, hp, hf⟩
    exact Or.inr ⟨first, v, second, rfl, (exec_lift_iff p _).mpr ⟨v, rfl, hp⟩, hf⟩

theorem exec_answer_iff {op : Op} {a : ExceptT ε (Prog Op Reply) τ}
    {answer : Reply op → Except ε τ} (ha : a.run = .ask op fun v => .done (answer v))
    (r : Except ε τ) : Exec a.run log r ↔ ∃ v, log = [⟨op, v⟩] ∧ r = answer v := by
  rw [ha, exec_ask_iff]
  simp only [exec_done_iff]
  constructor
  · rintro ⟨v, _, rfl, rfl, rfl⟩
    exact ⟨v, rfl, rfl⟩
  · rintro ⟨v, rfl, rfl⟩
    exact ⟨v, [], rfl, rfl, rfl⟩

end Failing
end Prog

namespace Engine

open Prog (Exec)

abbrev Exchange := Prog.Exchange Op Reply
abbrev Log := List Exchange

/-- The attempt makes exactly these calls and ends with this outcome. -/
def Ends (a : Attempt τ) (log : Log) (r : Except FlowError τ) : Prop := Exec a.run log r

variable {log : Log}

theorem ends_pure_iff (v : τ) (r : Except FlowError τ) :
    Ends (pure v) log r ↔ log = [] ∧ r = .ok v := Prog.exec_done_iff (Except.ok v) r

theorem ends_throw_iff (e : FlowError) (r : Except FlowError τ) :
    Ends (throw e) log r ↔ log = [] ∧ r = .error e := Prog.exec_done_iff (Except.error e) r

theorem ends_ofAnswer_iff (x r : Except FlowError τ) :
    Ends (ofAnswer x) log r ↔ log = [] ∧ r = x := Prog.exec_done_iff x r

theorem ends_lift_iff (p : Job τ) (r : Except FlowError τ) :
    Ends (ExceptT.lift p) log r ↔ ∃ v, r = .ok v ∧ Exec p log v := Prog.exec_lift_iff p r

theorem ends_outcome_iff (a : Attempt τ) (r : Except FlowError (Except FlowError τ)) :
    Ends (outcome a) log r ↔ ∃ o, r = .ok o ∧ Ends a log o := ends_lift_iff a.run r

theorem ends_bind_iff (a : Attempt τ) (f : τ → Attempt υ) (r : Except FlowError υ) :
    Ends (a >>= f) log r ↔ (∃ e, r = .error e ∧ Ends a log (.error e)) ∨
      ∃ first v second, log = first ++ second ∧ Ends a first (.ok v) ∧ Ends (f v) second r :=
  Prog.exec_then_iff a f r

theorem isOk_map (o : Except FlowError τ) (g : τ → υ) : (o.map g).isOk = o.isOk := by
  cases o <;> rfl

theorem Ends.bind {a : Attempt τ} {f : τ → Attempt υ} {first second : Log} {v : τ}
    {r : Except FlowError υ} (ha : Ends a first (.ok v)) (hf : Ends (f v) second r) :
    Ends (a >>= f) (first ++ second) r :=
  (ends_bind_iff a f r).mpr (Or.inr ⟨first, v, second, rfl, ha, hf⟩)

theorem Ends.bind_nil {a : Attempt τ} {f : τ → Attempt υ} {v : τ} {r : Except FlowError υ}
    (ha : Ends a log (.ok v)) (hf : Ends (f v) [] r) : Ends (a >>= f) log r := by
  have h := ha.bind hf
  rwa [List.append_nil] at h

theorem ends_then_answer_iff {a : Attempt τ} {f : τ → Except FlowError υ}
    {r : Except FlowError υ} :
    Ends (a >>= fun v => ofAnswer (f v)) log r ↔ ∃ o, Ends a log o ∧ r = o.bind f := by
  constructor
  · intro h
    rcases (ends_bind_iff _ _ _).mp h with ⟨e, rfl, he⟩ | ⟨first, v, second, rfl, hv, hf⟩
    · exact ⟨_, he, rfl⟩
    · obtain ⟨rfl, rfl⟩ := (ends_ofAnswer_iff _ _).mp hf
      exact ⟨_, by rwa [List.append_nil], rfl⟩
  · rintro ⟨o, ho, rfl⟩
    cases o with
    | error e => exact (ends_bind_iff _ _ _).mpr (Or.inl ⟨e, rfl, ho⟩)
    | ok v => exact ho.bind_nil (.done _)

theorem ends_map_iff {a : Attempt τ} {g : τ → υ} {r : Except FlowError υ} :
    Ends (a >>= fun v => pure (g v)) log r ↔ ∃ o, Ends a log o ∧ r = o.map g := by
  have hmap (o : Except FlowError τ) : o.bind (fun v => .ok (g v)) = o.map g := by
    cases o <;> rfl
  simp only [← hmap]
  exact ends_then_answer_iff

theorem ends_lift_bind_iff (p : Job τ) (f : τ → Attempt υ) (r : Except FlowError υ) :
    Ends (ExceptT.lift p >>= f) log r ↔
      ∃ first v second, log = first ++ second ∧ Exec p first v ∧ Ends (f v) second r :=
  Prog.exec_lift_then_iff p f r

theorem ends_call_bind_iff (op : Op) (f : Reply op → Attempt υ) (r : Except FlowError υ) :
    Ends (ExceptT.lift (ask op) >>= f) log r ↔
      ∃ v rest, log = ⟨op, v⟩ :: rest ∧ Ends (f v) rest r :=
  Prog.exec_ask_iff op _ r

theorem ends_answer_iff {op : Op} {a : Attempt τ} {answer : Reply op → Except FlowError τ}
    (ha : a.run = .ask op fun v => .done (answer v)) (r : Except FlowError τ) :
    Ends a log r ↔ ∃ v, log = [⟨op, v⟩] ∧ r = answer v := Prog.exec_answer_iff ha r

theorem ends_answer_bind_iff {op : Op} {a : Attempt τ} {answer : Reply op → Except FlowError τ}
    (ha : a.run = .ask op fun v => .done (answer v)) (f : τ → Attempt υ) (r : Except FlowError υ) :
    Ends (a >>= f) log r ↔
      ∃ v rest, log = ⟨op, v⟩ :: rest ∧ Ends (ofAnswer (answer v) >>= f) rest r := by
  have hb : (a >>= f).run = a.run >>= ExceptT.bindCont f := rfl
  rw [Ends, hb, ha, Prog.ask_bind, Prog.exec_ask_iff]
  rfl

end Engine
end PageFlow
