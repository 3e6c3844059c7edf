/-! Programs that ask for operations one at a time and go on with each reply. What an operation
does is not part of a program: a handler answers it from a state, may change the state, and may
stop the program before its end. -/
namespace PageFlow

inductive Prog (Op : Type) (Reply : Op → Type) (α : Type) : Type where
  | done (value : α)
  | ask (op : Op) (next : Reply op → Prog Op Reply α)

namespace Prog

variable {Op : Type} {Reply : Op → Type} {α β σ : Type}

def bind : Prog Op Reply α → (α → Prog Op Reply β) → Prog Op Reply β
  | done a, f => f a
  | ask op next, f => ask op fun r => (next r).bind f

instance : Monad (Prog Op Reply) where
  pure := done
  bind := bind

def call (op : Op) : Prog Op Reply (Reply op) := ask op done

@[simp] theorem pure_eq (a : α) : (pure a : Prog Op Reply α) = done a := rfl
@[simp] theorem done_bind (a : α) (f : α → Prog Op Reply β) : (done a >>= f) = f a := rfl
@[simp] theorem ask_bind (op : Op) (next : Reply op → Prog Op Reply α)
    (f : α → Prog Op Reply β) : (ask op next >>= f) = ask op fun r => next r >>= f := rfl

theorem bind_done (p : Prog Op Reply α) : (p >>= done) = p := by
  induction p with
  | done a => rfl
  | ask op next ih => simp only [ask_bind]; congr; funext r; exact ih r

theorem bind_assoc (p : Prog Op Reply α) (f : α → Prog Op Reply β) {γ : Type}
    (g : β → Prog Op Reply γ) : (p >>= f >>= g) = p >>= fun a => f a >>= g := by
  induction p with
  | done a => rfl
  | ask op next ih => simp only [ask_bind]; congr; funext r; exact ih r

instance : LawfulMonad (Prog Op Reply) :=
  LawfulMonad.mk' (Prog Op Reply) bind_done (fun _ _ => rfl) fun p f g => bind_assoc p f g

/-- Answers every operation from a state; a handler without an answer stops the program. -/
def run (handle : (op : Op) → σ → Option (Reply op) × σ) : Prog Op Reply α → σ → Option α × σ
  | done a, s => (some a, s)
  | ask op next, s =>
    match handle op s with
    | (some r, s') => run handle (next r) s'
    | (none, s') => (none, s')

/-- Answers every operation from a state, with the effects of a monad. -/
def runIn {m : Type → Type} [Monad m] (handle : (op : Op) → σ → m (Option (Reply op) × σ)) :
    Prog Op Reply α → σ → m (Option α × σ)
  | done a, s => pure (some a, s)
  | ask op next, s => do
    match ← handle op s with
    | (some r, s') => runIn handle (next r) s'
    | (none, s') => pure (none, s')

/-- Replaces every operation by a program over other operations. -/
def expand {Op' : Type} {Reply' : Op' → Type} (f : (op : Op) → Prog Op' Reply' (Reply op)) :
    Prog Op Reply α → Prog Op' Reply' α
  | done a => done a
  | ask op next => (f op).bind fun r => expand f (next r)

end Prog
end PageFlow
