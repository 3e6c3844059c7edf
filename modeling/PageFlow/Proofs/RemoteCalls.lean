import PageFlow.Chromium.Backend
import PageFlow.Proofs.Execution

/-! Programs of the backend that drives a browser over its debugging protocol. A call is waited for
until it is answered or the patience ends, and a program of the engine goes as its calls do, each
made by the calls that the backend makes for it. -/
namespace PageFlow
namespace Prog

variable {Op Op' : Type} {Reply : Op → Type} {Reply' : Op' → Type} {α : Type}

/-- The calls of the first log are made by those of the second, one after the other. -/
inductive Realizes (f : (op : Op) → Prog Op' Reply' (Reply op)) :
    List (Exchange Op Reply) → List (Exchange Op' Reply') → Prop
  | nil : Realizes f [] []
  | cons {x calls first rest} : Exec (f x.op) first x.reply → Realizes f calls rest →
      Realizes f (x :: calls) (first ++ rest)

variable {f : (op : Op) → Prog Op' Reply' (Reply op)} {x : Exchange Op Reply}
  {calls more : List (Exchange Op Reply)} {log : List (Exchange Op' Reply')}

theorem realizes_nil_iff : Realizes f [] log ↔ log = [] := by
  constructor
  · intro h
    cases h
    rfl
  · rintro rfl
    exact .nil

theorem realizes_cons_iff : Realizes f (x :: calls) log ↔
    ∃ first rest, log = first ++ rest ∧ Exec (f x.op) first x.reply ∧ Realizes f calls rest := by
  constructor
  · intro h
    cases h with
    | cons hx hr => exact ⟨_, _, rfl, hx, hr⟩
  · rintro ⟨first, rest, rfl, hx, hr⟩
    exact .cons hx hr

theorem realizes_append_iff : Realizes f (calls ++ more) log ↔
    ∃ first rest, log = first ++ rest ∧ Realizes f calls first ∧ Realizes f more rest := by
  induction calls generalizing log with
  | nil =>
    constructor
    · intro h
      exact ⟨[], log, rfl, .nil, h⟩
    · rintro ⟨first, rest, rfl, hfirst, hrest⟩
      obtain rfl := realizes_nil_iff.mp hfirst
      exact hrest
  | cons x calls ih =>
    rw [List.cons_append, realizes_cons_iff]
    simp only [ih]
    constructor
    · rintro ⟨first, _, rfl, hx, second, rest, rfl, hcalls, hmore⟩
      exact ⟨first ++ second, rest, (List.append_assoc _ _ _).symm, .cons hx hcalls, hmore⟩
    · rintro ⟨_, rest, rfl, hfirst, hmore⟩
      obtain ⟨first, second, rfl, hx, hcalls⟩ := realizes_cons_iff.mp hfirst
      exact ⟨first, second ++ rest, List.append_assoc _ _ _, hx, second, rest, rfl, hcalls, hmore⟩

theorem realizes_singleton_iff : Realizes f [x] log ↔ Exec (f x.op) log x.reply := by
  rw [realizes_cons_iff]
  simp only [realizes_nil_iff]
  constructor
  · rintro ⟨first, _, rfl, hx, rfl⟩
    rwa [List.append_nil]
  · intro hx
    exact ⟨log, [], (List.append_nil _).symm, hx, rfl⟩

/-- A program whose calls are made by other programs goes as it goes with calls of its own. -/
theorem exec_expand_iff (p : Prog Op Reply α) (a : α) :
    Exec (p.expand f) log a ↔ ∃ calls, Exec p calls a ∧ Realizes f calls log := by
  induction p generalizing log with
  | done b =>
    simp only [expand, exec_done_iff]
    constructor
    · rintro ⟨rfl, rfl⟩
      exact ⟨[], ⟨rfl, rfl⟩, .nil⟩
    · rintro ⟨_, ⟨rfl, rfl⟩, hr⟩
      exact ⟨realizes_nil_iff.mp hr, rfl⟩
  | ask op next ih =>
    have hexpand : (ask op next).expand f = f op >>= fun r => (next r).expand f := rfl
    rw [hexpand, exec_bind_iff]
    simp only [ih, exec_ask_iff]
    constructor
    · rintro ⟨first, r, second, rfl, hf, calls, hp, hr⟩
      exact ⟨_, ⟨r, calls, rfl, hp⟩, .cons hf hr⟩
    · rintro ⟨_, ⟨r, calls, rfl, hp⟩, hr⟩
      obtain ⟨first, second, rfl, hf, hr⟩ := realizes_cons_iff.mp hr
      exact ⟨first, r, second, rfl, hf, calls, hp, hr⟩

end Prog

namespace Chromium

open DevTools
open Prog (Exec)

abbrev Exchange := Prog.Exchange Op Reply
abbrev Log := List Exchange

def waited (t : Target) (c : Call) : Option (Except Fault (Returns c)) → Log
  | some answer => [⟨.send t c, some answer⟩]
  | none => [⟨.send t c, none⟩, ⟨.sleep (.ofNanos patience), ()⟩]

def told {τ : Type} (answer : Option (Except Fault τ)) : Except Fault τ :=
  answer.getD (.error .timedOut)

theorem told_eq_ok_iff {τ : Type} {answer : Option (Except Fault τ)} {v : τ} :
    told answer = .ok v ↔ answer = some (.ok v) := by
  cases answer <;> simp [told]

variable {log : Log} {t : Target} {c : Call}

theorem waited_append_inj {answer answer' : Option (Except Fault (Returns c))} {rest rest' : Log}
    (h : waited t c answer ++ rest = waited t c answer' ++ rest') :
    answer = answer' ∧ rest = rest' := by
  have hbegins (a : Option (Except Fault (Returns c))) :
      ∃ more, waited t c a = ⟨.send t c, a⟩ :: more := by
    cases a <;> exact ⟨_, rfl⟩
  obtain ⟨more, hmore⟩ := hbegins answer
  obtain ⟨more', hmore'⟩ := hbegins answer'
  have hsame : answer = answer' := by
    rw [hmore, hmore'] at h
    obtain ⟨hx, -⟩ := List.cons.inj h
    cases hx
    rfl
  exact ⟨hsame, List.append_cancel_left (hsame ▸ h)⟩

theorem exec_call_iff {r : Except Fault (Returns c)} :
    Exec (call t c) log r ↔ ∃ answer, log = waited t c answer ∧ r = told answer := by
  constructor
  · intro h
    obtain ⟨answer, rest, rfl, hrest⟩ := (Prog.exec_ask_iff _ _ _).mp h
    cases answer with
    | some answer =>
      obtain ⟨rfl, rfl⟩ := (Prog.exec_done_iff _ _).mp hrest
      exact ⟨some r, rfl, rfl⟩
    | none =>
      obtain ⟨_, more, rfl, hmore⟩ := (Prog.exec_ask_iff _ _ _).mp hrest
      obtain ⟨rfl, rfl⟩ := (Prog.exec_done_iff _ _).mp hmore
      exact ⟨none, rfl, rfl⟩
  · rintro ⟨_ | answer, rfl, rfl⟩
    · exact .ask _ (.ask _ (.done _))
    · exact .ask _ (.done _)

theorem exec_call_bind_iff {f : Except Fault (Returns c) → Remote α} {a : α} :
    Exec (call t c >>= f) log a ↔
      ∃ answer rest, log = waited t c answer ++ rest ∧ Exec (f (told answer)) rest a := by
  rw [Prog.exec_bind_iff]
  simp only [exec_call_iff]
  constructor
  · rintro ⟨_, _, rest, rfl, ⟨answer, rfl, rfl⟩, hf⟩
    exact ⟨answer, rest, rfl, hf⟩
  · rintro ⟨answer, rest, rfl, hf⟩
    exact ⟨_, _, rest, rfl, ⟨answer, rfl, rfl⟩, hf⟩

theorem exec_call_map_bind_iff {g : Except Fault (Returns c) → β} {f : β → Remote α} {a : α} :
    Exec ((call t c >>= fun r => pure (g r)) >>= f) log a ↔
      ∃ answer rest, log = waited t c answer ++ rest ∧ Exec (f (g (told answer))) rest a := by
  rw [bind_assoc]
  exact exec_call_bind_iff

theorem exec_call_cases {f : Except Fault (Returns c) → Remote α} {a : α} :
    Exec (call t c >>= f) log a ↔
      (∃ answer fault rest, told answer = .error fault ∧ log = waited t c answer ++ rest ∧
        Exec (f (.error fault)) rest a) ∨
      ∃ v rest, log = ⟨.send t c, some (.ok v)⟩ :: rest ∧ Exec (f (.ok v)) rest a := by
  rw [exec_call_bind_iff]
  constructor
  · rintro ⟨answer, rest, rfl, hf⟩
    cases ht : told answer with
    | error fault => exact Or.inl ⟨answer, fault, rest, ht, rfl, ht ▸ hf⟩
    | ok v =>
      rw [ht] at hf
      rw [told_eq_ok_iff.mp ht]
      exact Or.inr ⟨v, rest, rfl, hf⟩
  · rintro (⟨answer, fault, rest, ht, rfl, hf⟩ | ⟨v, rest, rfl, hf⟩)
    · exact ⟨answer, rest, rfl, ht.symm ▸ hf⟩
    · exact ⟨some (.ok v), rest, rfl, hf⟩

theorem exec_answered_iff {f : Except Fault (Returns c) → Remote α} {a : α}
    {answer : Except Fault (Returns c)} :
    Exec (call t c >>= f) (⟨.send t c, some answer⟩ :: log) a ↔ Exec (f answer) log a :=
  Prog.exec_ask_cons_iff

theorem exec_now_bind_iff {f : Instant → Remote α} {a : α} : Exec (now >>= f) log a ↔
    ∃ (t : Nat) (rest : Log), log = ⟨.now, t⟩ :: rest ∧ Exec (f t) rest a :=
  Prog.exec_ask_iff _ _ _

theorem exec_sleep_then_iff {d : Duration} {a b : α} :
    Exec (sleep d >>= fun _ => pure b) log a ↔ log = [⟨.sleep d, ()⟩] ∧ a = b := by
  constructor
  · intro h
    obtain ⟨_, rest, rfl, hdone⟩ := (Prog.exec_ask_iff _ _ _).mp h
    obtain ⟨rfl, rfl⟩ := (Prog.exec_done_iff _ _).mp hdone
    exact ⟨rfl, rfl⟩
  · rintro ⟨rfl, rfl⟩
    exact .ask _ (.done _)

theorem exec_sleepUntil_then_iff {stop : Nat} {a b : α} :
    Exec (sleepUntil stop >>= fun _ => pure b) log a ↔
      ∃ t : Nat, log = [⟨.now, t⟩, ⟨.sleep (.ofNanos (stop - t)), ()⟩] ∧ a = b := by
  rw [sleepUntil, bind_assoc, exec_now_bind_iff]
  simp only [exec_sleep_then_iff]
  constructor
  · rintro ⟨t, _, rfl, rfl, rfl⟩
    exact ⟨t, rfl, rfl⟩
  · rintro ⟨t, rfl, rfl⟩
    exact ⟨t, _, rfl, rfl, rfl⟩

end Chromium
end PageFlow
