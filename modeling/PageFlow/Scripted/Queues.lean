/-! Lists under keys, and queues of which each entry serves one or several calls. -/
namespace PageFlow
namespace Scripted

def listed (key : String) (dict : List (String × List τ)) : List τ := (dict.lookup key).getD []

def replace (key : String) (list : List τ) (dict : List (String × List τ)) :
    List (String × List τ) := (key, list) :: dict.filter fun e => e.1 ≠ key

def replaceAll (lists dict : List (String × List τ)) : List (String × List τ) :=
  lists.foldl (fun d e => replace e.1 e.2 d) dict

/-- Something for so many calls; without a number for all calls to come. -/
structure Lasting (τ : Type) where
  value : τ
  times : Option Nat
deriving Inhabited

abbrev Queues (τ : Type) := List (String × List (Lasting τ))

def served (front : Lasting τ) (rest : List (Lasting τ)) : List (Lasting τ) :=
  match front.times with
  | none => front :: rest
  | some n => if 1 < n then ⟨front.value, some (n - 1)⟩ :: rest else rest

/-- What the front of a queue holds, and the queues after it has served a call. -/
def Queues.take (q : Queues τ) (key : String) : Option τ × Queues τ :=
  match listed key q with
  | [] => (none, q)
  | front :: rest => (some front.value, replace key (served front rest) q)

end Scripted
end PageFlow
