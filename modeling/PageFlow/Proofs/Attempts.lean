import PageFlow.Engine.Repeat
import PageFlow.Proofs.Execution

/-! Two kinds of facts about attempts that are put together from facts about their parts: of what
kind their values are, and whether they may find fault with the flow itself. A structural error
is either the answer of a call, or it is raised before any call. -/
namespace PageFlow
namespace Engine

/-- Every value that the attempt can end with is of this kind. -/
def Yields (a : Attempt τ) (P : τ → Prop) : Prop := ∀ log v, Ends a log (.ok v) → P v

section Values

variable {a : Attempt τ} {f : τ → Attempt υ} {P : τ → Prop} {Q : υ → Prop}

theorem yields_pure {v : τ} (h : P v) : Yields (pure v) P := by
  intro log w hw
  obtain ⟨-, he⟩ := (ends_pure_iff v _).mp hw
  obtain rfl := Except.ok.inj he
  exact h

theorem yields_throw (e : FlowError) (P : τ → Prop) : Yields (throw e) P := by
  intro log w hw
  obtain ⟨-, he⟩ := (ends_throw_iff e _).mp hw
  cases he

theorem yields_bind (ha : Yields a P) (hf : ∀ v, P v → Yields (f v) Q) : Yields (a >>= f) Q := by
  intro log w hw
  rcases (ends_bind_iff a f _).mp hw with ⟨e, he, -⟩ | ⟨first, v, second, -, hv, hf'⟩
  · cases he
  · exact hf v (ha first v hv) second w hf'

theorem yields_last (hf : ∀ v, Yields (f v) Q) : Yields (a >>= f) Q :=
  yields_bind (P := fun _ => True) (fun _ _ _ => trivial) fun v _ => hf v

end Values

def Exchange.failures : Exchange → List FlowError
  | ⟨.loads _ _ _ _ _, (a, b, c)⟩ => errors a ++ errors b ++ errors c
  | ⟨.evaluateWithin _ _ _, r⟩ => r.toList.flatMap errors
  | ⟨.launch, r⟩ | ⟨.newPage _, r⟩ | ⟨.newApi _, r⟩ | ⟨.closeBrowser _, r⟩ | ⟨.goto _ _ _ _, r⟩
  | ⟨.reload _, r⟩ | ⟨.load _ _ _, r⟩ | ⟨.query _ _ _, r⟩ | ⟨.evaluate _ _, r⟩
  | ⟨.screenshot _, r⟩ | ⟨.closePage _, r⟩ | ⟨.fetch _ _, r⟩ | ⟨.text _, r⟩
  | ⟨.attributeOf _ _, r⟩ | ⟨.isVisible _, r⟩ | ⟨.isEditable _, r⟩ | ⟨.click _, r⟩
  | ⟨.fill _ _, r⟩ | ⟨.scrollIntoView _, r⟩ | ⟨.rows _, r⟩ | ⟨.newScratch, r⟩
  | ⟨.writeScratch _ _, r⟩ | ⟨.loadFlow _, r⟩ | ⟨.loadResult _, r⟩ => errors r
  | _ => []
where
  errors {τ : Type} : Except FlowError τ → List FlowError
    | .ok _ => []
    | .error e => [e]

/-- A structural error is an answer of one of the calls, or it was raised before any call and is
one of these. -/
def Faults (a : Attempt τ) (F : FlowError → Prop) : Prop :=
  ∀ log e, Ends a log (.error e) → e.isStructural = true →
    (∃ x ∈ log, e ∈ x.failures) ∨ (log = [] ∧ F e)

/-- The attempt never finds fault with the flow by itself. -/
def Blameless (a : Attempt τ) : Prop := Faults a fun _ => False

section Faults

variable {a : Attempt τ} {f : τ → Attempt υ} {F : FlowError → Prop}

theorem Blameless.faults (h : Blameless a) (F : FlowError → Prop) : Faults a F := by
  intro log e he hs
  rcases h log e he hs with hx | ⟨-, hf⟩
  · exact Or.inl hx
  · exact hf.elim

theorem faults_ofAnswer {x : Except FlowError τ}
    (h : ∀ e, x = .error e → e.isStructural = true → F e) : Faults (ofAnswer x) F := by
  intro log e he hs
  obtain ⟨rfl, hx⟩ := (ends_ofAnswer_iff x _).mp he
  exact Or.inr ⟨rfl, h e hx.symm hs⟩

theorem faults_throw {e : FlowError} (h : e.isStructural = true → F e) :
    Faults (throw e : Attempt τ) F := by
  intro log e' he hs
  obtain ⟨rfl, hx⟩ := (ends_throw_iff e _).mp he
  obtain rfl := Except.error.inj hx
  exact Or.inr ⟨rfl, h hs⟩

theorem faults_bind (ha : Faults a F) (hf : ∀ v, Blameless (f v)) : Faults (a >>= f) F := by
  intro log e he hs
  rcases (ends_bind_iff a f _).mp he with ⟨e', he', ha'⟩ | ⟨first, v, second, rfl, -, hf'⟩
  · obtain rfl := Except.error.inj he'
    exact ha log e ha' hs
  · rcases hf v second e hf' hs with ⟨x, hx, hm⟩ | ⟨-, h⟩
    · exact Or.inl ⟨x, List.mem_append_right _ hx, hm⟩
    · exact h.elim

theorem faults_check {x : Except FlowError τ} (hx : ∀ e, x = .error e → e.isStructural = true → F e)
    (hf : ∀ v, x = .ok v → Faults (f v) F) : Faults (ofAnswer x >>= f) F := by
  cases x with
  | error e => exact faults_ofAnswer fun e' he => hx e' (by rw [← Except.error.inj he])
  | ok v => exact hf v rfl

theorem blameless_pure (v : τ) : Blameless (pure v) := by
  intro log e he _
  obtain ⟨-, hx⟩ := (ends_pure_iff v _).mp he
  cases hx

theorem blameless_throw {e : FlowError} (h : e.isStructural = false) :
    Blameless (throw e : Attempt τ) := faults_throw fun hs => by rw [h] at hs; cases hs

theorem blameless_bind (ha : Blameless a) (hf : ∀ v, Blameless (f v)) : Blameless (a >>= f) :=
  faults_bind ha hf

theorem blameless_lift (p : Job τ) : Blameless (ExceptT.lift p) := by
  intro log e he _
  obtain ⟨v, hv, -⟩ := (ends_lift_iff p _).mp he
  cases hv

theorem blameless_outcome (a : Attempt τ) : Blameless (outcome a) := blameless_lift a.run

theorem mem_errors {x : Except FlowError τ} {e : FlowError} (h : x = .error e) :
    e ∈ Exchange.failures.errors x := by
  subst h; exact List.mem_singleton_self e

theorem blameless_ask (op : Op) (answer : Reply op → Except FlowError τ)
    (ha : a.run = .ask op fun r => .done (answer r))
    (hf : ∀ r e, answer r = .error e → e ∈ Exchange.failures ⟨op, r⟩) : Blameless a := by
  intro log e he _
  rw [Ends, ha] at he
  obtain ⟨r, rest, rfl, hr⟩ := (Prog.exec_ask_iff op _ _).mp he
  obtain ⟨-, hx⟩ := (Prog.exec_done_iff _ _).mp hr
  exact Or.inl ⟨⟨op, r⟩, List.mem_cons_self, hf r e hx.symm⟩

end Faults

/-- A property that every value has by itself and that a sequence takes over from its parts. -/
structure Inherited (P : ∀ {τ : Type}, Attempt τ → Prop) : Prop where
  pure {τ : Type} (v : τ) : P (pure v)
  bind {τ υ : Type} {a : Attempt τ} {f : τ → Attempt υ} : P a → (∀ v, P (f v)) → P (a >>= f)

theorem inherited_blameless : Inherited Blameless := ⟨blameless_pure, blameless_bind⟩

/-- The attempt asks for operations of this kind only, and its errors are of that kind. -/
def Confined (ok : Op → Prop) (F : FlowError → Prop) (a : Attempt τ) : Prop :=
  ∀ log r, Ends a log r → (∀ x ∈ log, ok x.op) ∧ ∀ e, r = .error e → F e

abbrev AsksOnly (ok : Op → Prop) (a : Attempt τ) : Prop := Confined ok (fun _ => True) a

section Operations

variable {ok : Op → Prop} {a : Attempt τ} {f : τ → Attempt υ} {F G : FlowError → Prop}

theorem confined_ofAnswer {x : Except FlowError τ} (h : ∀ e, x = .error e → F e) :
    Confined ok F (ofAnswer x) := by
  intro log r hr
  obtain ⟨rfl, rfl⟩ := (ends_ofAnswer_iff x r).mp hr
  exact ⟨List.forall_mem_nil _, h⟩

theorem confined_pure (v : τ) : Confined ok F (pure v) := confined_ofAnswer fun _ he => by cases he

theorem confined_throw {e : FlowError} (h : F e) : Confined ok F (throw e : Attempt τ) :=
  confined_ofAnswer fun _ he => by rwa [← Except.error.inj he]

theorem confined_bind (ha : Confined ok F a) (hf : ∀ v, Confined ok F (f v)) :
    Confined ok F (a >>= f) := by
  intro log r hr
  rcases (ends_bind_iff a f r).mp hr with ⟨e, rfl, he⟩ | ⟨first, v, second, rfl, hv, hf'⟩
  · obtain ⟨ho, hF⟩ := ha log _ he
    exact ⟨ho, fun e' he' => hF e' (by rw [Except.error.inj he'])⟩
  · obtain ⟨ho, hF⟩ := hf v second r hf'
    exact ⟨List.forall_mem_append.mpr ⟨(ha first _ hv).1, ho⟩, hF⟩

theorem confined_outcome (ha : Confined ok G a) : Confined ok F (outcome a) := by
  intro log r hr
  obtain ⟨o, rfl, ho⟩ := (ends_outcome_iff a r).mp hr
  exact ⟨(ha log o ho).1, fun e he => by cases he⟩

theorem confined_call {op : Op} {answer : Reply op → Except FlowError τ} (h : ok op)
    (ha : a.run = .ask op fun r => .done (answer r)) (hF : ∀ r e, answer r = .error e → F e) :
    Confined ok F a := by
  intro log r hr
  rw [Ends, ha] at hr
  obtain ⟨v, rest, rfl, hv⟩ := (Prog.exec_ask_iff op _ _).mp hr
  obtain ⟨rfl, rfl⟩ := (Prog.exec_done_iff _ _).mp hv
  exact ⟨List.forall_mem_singleton.mpr h, hF v⟩

theorem confined_lift {op : Op} {answer : Reply op → τ} (h : ok op)
    (ha : a.run = .ask op fun r => .done (.ok (answer r))) : Confined ok F a :=
  confined_call h ha fun _ _ he => by cases he

theorem asksOnly_call {op : Op} {answer : Reply op → Except FlowError τ} (h : ok op)
    (ha : a.run = .ask op fun r => .done (answer r)) : AsksOnly ok a :=
  confined_call h ha fun _ _ _ => trivial

theorem Confined.mono {wide : Op → Prop} (ha : Confined ok F a) (h : ∀ op, ok op → wide op) :
    Confined wide F a := fun log r hr =>
  ⟨fun x hx => h _ ((ha log r hr).1 x hx), (ha log r hr).2⟩

theorem inherited_confined : Inherited fun a => Confined ok F a := ⟨confined_pure, confined_bind⟩

end Operations

section Repetition

variable {P : ∀ {τ : Type}, Attempt τ → Prop} {op : Nat → Attempt τ}

theorem inherited_attemptsFrom (hp : Inherited P)
    (ho : ∀ {τ : Type} {a : Attempt τ}, P a → P (outcome a)) (hs : ∀ d, P (sleep d))
    (policy : RetryPolicy) (h : ∀ n, P (op n)) (left attempt : Nat) :
    P (attemptsFrom policy op left attempt) := by
  induction left generalizing attempt with
  | zero => exact h attempt
  | succ left ih =>
    refine hp.bind (ho (h attempt)) fun r => ?_
    cases r with
    | ok v => exact hp.pure v
    | error e => exact hp.bind (hs _) fun _ => ih (attempt + 1)

theorem inherited_withRetryNamed (hp : Inherited P)
    (ho : ∀ {τ : Type} {a : Attempt τ}, P a → P (outcome a)) (hs : ∀ d, P (sleep d))
    (ht : ∀ e, P (throw e : Attempt τ)) (operation : String) (policy : RetryPolicy)
    (h : ∀ n, P (op n)) : P (withRetryNamed operation policy op) := by
  refine hp.bind (ho (inherited_attemptsFrom hp ho hs policy h _ _)) fun r => ?_
  cases r with
  | ok v => exact hp.pure v
  | error e => exact ht _

end Repetition

theorem blameless_withRetryNamed (operation : String) (policy : RetryPolicy)
    (op : Nat → Attempt τ) : Blameless (withRetryNamed operation policy op) := by
  refine blameless_bind (blameless_outcome _) fun o => ?_
  cases o with
  | ok v => exact blameless_pure v
  | error e => exact blameless_throw rfl

end Engine
end PageFlow
