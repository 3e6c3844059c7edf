import PageFlow.Proofs.Executors

/-! On which elements an attempt makes calls: an action on elements makes them on the elements at
hand and on no others. -/
namespace PageFlow
namespace Engine

def Op.subjects : Op → List Element
  | .query (.element e) _ _ | .text e | .attributeOf e _ | .isVisible e | .isEditable e | .click e
  | .fill e _ | .scrollIntoView e | .rows e => [e]
  | _ => []

/-- The attempt makes calls on no other elements than these. -/
def StaysOn (a : Attempt τ) (all : List Element) : Prop :=
  ∀ log r, Ends a log r → ∀ x ∈ log, x.op.subjects ⊆ all

variable {a : Attempt τ} {f : τ → Attempt υ} {all : List Element}

theorem StaysOn.mono {more : List Element} (h : StaysOn a all) (hm : all ⊆ more) :
    StaysOn a more := fun log r hr x hx => List.Subset.trans (h log r hr x hx) hm

theorem staysOn_iff : StaysOn a all ↔ AsksOnly (fun op => op.subjects ⊆ all) a := by
  constructor
  · exact fun h log r hr => ⟨h log r hr, fun _ _ => trivial⟩
  · exact fun h log r hr => (h log r hr).1

theorem staysOn_pure (v : τ) : StaysOn (pure v) all := staysOn_iff.mpr (confined_pure v)

theorem staysOn_throw (e : FlowError) : StaysOn (throw e : Attempt τ) all :=
  staysOn_iff.mpr (confined_throw trivial)

theorem staysOn_ofAnswer (v : Except FlowError τ) : StaysOn (ofAnswer v) all :=
  staysOn_iff.mpr (confined_ofAnswer fun _ _ => trivial)

theorem staysOn_bind (ha : StaysOn a all) (hf : ∀ v, StaysOn (f v) all) :
    StaysOn (a >>= f) all :=
  staysOn_iff.mpr (confined_bind (staysOn_iff.mp ha) fun v => staysOn_iff.mp (hf v))

theorem inherited_staysOn (all : List Element) : Inherited fun a => StaysOn a all :=
  ⟨staysOn_pure, staysOn_bind⟩

theorem staysOn_outcome (ha : StaysOn a all) : StaysOn (outcome a) all :=
  staysOn_iff.mpr (confined_outcome (staysOn_iff.mp ha))

theorem staysOn_ask (op : Op) (answer : Reply op → Except FlowError τ)
    (ha : a.run = .ask op fun r => .done (answer r)) (hs : op.subjects ⊆ all) : StaysOn a all :=
  staysOn_iff.mpr (asksOnly_call hs ha)

end Engine

open Engine

theorem staysOn_waitUntilVisible (e : Element) (timeout : Duration) :
    StaysOn (Locator.waitUntilVisible e timeout) [e] := by
  have hs : StaysOn (Locator.seen e) [e] := by
    refine staysOn_bind (staysOn_outcome (staysOn_ask (.isVisible e) id rfl (List.Subset.refl _)))
      fun r => ?_
    rcases r with e | (_ | _) <;> exact staysOn_pure _
  have hw := Locator.inherited_waitFor (inherited_staysOn [e])
    (staysOn_ask .now .ok rfl (List.nil_subset _))
    (fun d => staysOn_ask (.sleep d) .ok rfl (List.nil_subset _)) hs timeout
  refine staysOn_bind hw fun v => ?_
  cases v with
  | some v => exact staysOn_pure _
  | none => exact staysOn_throw _

section Elements

variable {c : Context} {f : Element → Attempt τ}

theorem staysOn_eachElement (hf : ∀ e, StaysOn (f e) [e]) (all : List Element) :
    StaysOn (eachElement f all) all :=
  inherited_eachElement (inherited_staysOn all) fun e he => (hf e).mono (by simpa using he)

theorem staysOn_forEachElement (hf : ∀ e, StaysOn (f e) [e]) :
    StaysOn (forEachElement c f) c.elementTarget.held := by
  unfold forEachElement
  split
  · rename_i e ht
    rw [ht]
    exact staysOn_bind (hf e) fun v => staysOn_pure _
  · rename_i all ht
    rw [ht]
    exact staysOn_bind (staysOn_eachElement hf all) fun vs => staysOn_pure _
  · exact staysOn_throw _
  · exact staysOn_throw _
  · exact staysOn_throw _

end Elements

namespace Executor

open Actions

theorem staysOn_clickOne (timeout : Duration) (e : Element) : StaysOn (clickOne timeout e) [e] := by
  refine staysOn_bind (staysOn_outcome ?_) fun _ => ?_
  · exact staysOn_ask (.scrollIntoView e) id rfl (List.Subset.refl _)
  · refine staysOn_bind (staysOn_waitUntilVisible e timeout) fun _ => ?_
    exact staysOn_ask (.click e) id rfl (List.Subset.refl _)

theorem staysOn_fillOne (text : String) (e : Element) : StaysOn (fillOne text e) [e] := by
  refine staysOn_bind (staysOn_ask (.isEditable e) id rfl (List.Subset.refl _)) fun b => ?_
  split
  · exact staysOn_ask (.fill e text) id rfl (List.Subset.refl _)
  · exact staysOn_throw _

theorem staysOn_scrollTo (e : Element) : StaysOn (scrollTo e) [e] := by
  refine staysOn_bind (staysOn_outcome ?_) fun _ => staysOn_pure _
  exact staysOn_ask (.scrollIntoView e) id rfl (List.Subset.refl _)

theorem staysOn_readText (e : Element) : StaysOn (readText e) [e] :=
  staysOn_bind (staysOn_ask (.text e) id rfl (List.Subset.refl _)) fun _ => staysOn_pure _

theorem staysOn_readAttribute (name : String) (e : Element) : StaysOn (readAttribute name e) [e] :=
  staysOn_bind (staysOn_ask (.attributeOf e name) id rfl (List.Subset.refl _)) fun _ =>
    staysOn_pure _

theorem staysOn_readTable (p : ExtractTableParams) (e : Element) : StaysOn (readTable p e) [e] :=
  staysOn_bind (staysOn_ask (.rows e) id rfl (List.Subset.refl _)) fun _ => staysOn_pure _

/-- A step that works on elements makes its calls on those at hand. -/
theorem staysOn_builtIn (extractor : Option PdfCommand) {c : Context}
    (h : c.step.action.consumesElement = true) :
    StaysOn (builtIn extractor c.step.action c) c.elementTarget.held := by
  cases ha : c.step.action with
  | click =>
    exact staysOn_bind (staysOn_forEachElement (staysOn_clickOne _)) fun _ => staysOn_pure _
  | inputText =>
    exact staysOn_bind (staysOn_ofAnswer _) fun p =>
      staysOn_bind (staysOn_forEachElement (staysOn_fillOne _)) fun _ => staysOn_pure _
  | scrollIntoElement =>
    exact staysOn_bind (staysOn_forEachElement staysOn_scrollTo) fun _ => staysOn_pure _
  | extractText =>
    exact staysOn_bind (staysOn_forEachElement staysOn_readText) fun _ => staysOn_pure _
  | extractTable =>
    exact staysOn_bind (staysOn_ofAnswer _) fun p =>
      staysOn_bind (staysOn_forEachElement (staysOn_readTable p)) fun _ => staysOn_pure _
  | extractAttribute =>
    exact staysOn_bind (staysOn_ofAnswer _) fun p =>
      staysOn_bind (staysOn_forEachElement (staysOn_readAttribute _)) fun _ => staysOn_pure _
  | _ => rw [ha] at h; cases h

end Executor
end PageFlow
