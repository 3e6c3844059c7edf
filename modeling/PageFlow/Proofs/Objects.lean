import Mathlib.Data.List.Sort
import PageFlow.Proofs.StepValues

/-! What stands in an object under a key. Fields that are put over others win, the last of one key
wins over the earlier ones, and objects in which the same is found under every key are the same. -/
namespace PageFlow
namespace Json

theorem lookup_cons (f : String × τ) (rest : List (String × τ)) (k : String) :
    (f :: rest).lookup k = if k = f.1 then some f.2 else rest.lookup k := by
  obtain ⟨key, v⟩ := f
  by_cases h : k = key
  · simp [h]
  · simp [List.lookup_cons, beq_eq_false_iff_ne.mpr h, h]

theorem isSome_lookup_iff (fields : List (String × τ)) (k : String) :
    (fields.lookup k).isSome = true ↔ k ∈ fields.map Prod.fst := by
  induction fields with
  | nil => simp
  | cons f rest ih =>
    rw [lookup_cons, List.map_cons, List.mem_cons, ← ih]
    split
    · simp [*]
    · simp [*]

theorem lookup_insertField (key : String) (value : Json) (fields : List (String × Json))
    (k : String) : (insertField key value fields).lookup k =
      if k = key then some value else fields.lookup k := by
  induction fields with
  | nil => rw [insertField, lookup_cons]
  | cons f rest ih =>
    by_cases he : key = f.1
    · rw [insertField, if_pos he, lookup_cons, lookup_cons, he]
      split <;> rfl
    · by_cases hl : key < f.1
      · rw [insertField, if_neg he, if_pos hl, lookup_cons]
      · rw [insertField, if_neg he, if_neg hl, lookup_cons, lookup_cons, ih]
        by_cases h : k = f.1
        · rw [if_pos h, if_pos h, if_neg fun hk => he (hk.symm.trans h)]
        · rw [if_neg h, if_neg h]

theorem lookup_extendFields (fields more : List (String × Json)) (k : String) :
    (extendFields fields more).lookup k = (more.reverse.lookup k).or (fields.lookup k) := by
  induction more generalizing fields with
  | nil => rfl
  | cons f rest ih =>
    have hstep : extendFields fields (f :: rest) =
      extendFields (insertField f.1 f.2 fields) rest := rfl
    have hone : ([f].lookup k).or (fields.lookup k) = (insertField f.1 f.2 fields).lookup k := by
      rw [lookup_insertField, lookup_cons]
      split <;> rfl
    rw [hstep, ih, List.reverse_cons, List.lookup_append, Option.or_assoc, hone]

theorem mem_keys_extendFields (fields more : List (String × Json)) (k : String) :
    k ∈ (extendFields fields more).map Prod.fst ↔
      k ∈ more.map Prod.fst ∨ k ∈ fields.map Prod.fst := by
  rw [← isSome_lookup_iff, lookup_extendFields, Option.isSome_or, Bool.or_eq_true,
    isSome_lookup_iff, isSome_lookup_iff, List.map_reverse, List.mem_reverse]

theorem lookup_reverse_of_last {fields : List (String × τ)} {i : Nat} {k : String} {v : τ}
    (hi : fields[i]? = some (k, v)) (hlast : ∀ j f, i < j → fields[j]? = some f → f.1 ≠ k) :
    fields.reverse.lookup k = some v := by
  obtain ⟨hlt, hv⟩ := List.getElem?_eq_some_iff.mp hi
  have hsplit : fields.reverse =
      (fields.drop (i + 1)).reverse ++ (k, v) :: (fields.take i).reverse := by
    conv_lhs => rw [← List.take_append_drop i fields, List.drop_eq_getElem_cons hlt, hv]
    simp
  refine List.lookup_eq_some_iff.mpr ⟨_, _, hsplit, fun f hf => ?_⟩
  obtain ⟨j, hj⟩ := List.mem_iff_getElem?.mp (List.mem_reverse.mp hf)
  rw [List.getElem?_drop] at hj
  exact bne_iff_ne.mpr (hlast _ f (by omega) hj).symm

section Order

variable {fields x y : List (String × Json)}

theorem Ordered.nodup_keys (h : Ordered fields) : (fields.map Prod.fst).Nodup := by
  refine List.pairwise_map.mpr (List.Pairwise.imp (fun {f g} hlt => ?_) h)
  intro heq
  rw [heq] at hlt
  exact String.lt_irrefl g.1 hlt

theorem Ordered.lookup_eq_some_iff (h : Ordered fields) {k : String} {v : Json} :
    fields.lookup k = some v ↔ (k, v) ∈ fields := by
  induction fields with
  | nil => simp
  | cons f rest ih =>
    obtain ⟨hf, hr⟩ := List.pairwise_cons.mp h
    rw [lookup_cons, List.mem_cons]
    split
    · rename_i hk
      subst hk
      have hnot : (f.1, v) ∉ rest := fun hv => String.lt_irrefl f.1 (hf (f.1, v) hv)
      simp [hnot, Prod.ext_iff, eq_comm]
    · rename_i hk
      simp [hk, ih hr, Prod.ext_iff]

theorem Ordered.lookup_reverse (h : Ordered fields) (k : String) :
    fields.reverse.lookup k = fields.lookup k := by
  induction fields with
  | nil => rfl
  | cons f rest ih =>
    obtain ⟨hf, hr⟩ := List.pairwise_cons.mp h
    rw [List.reverse_cons, List.lookup_append, ih hr, lookup_cons, lookup_cons, List.lookup_nil]
    split
    · rename_i hk
      subst hk
      have hnone : rest.lookup f.1 = none := Option.eq_none_iff_forall_ne_some.mpr fun v hv =>
        String.lt_irrefl f.1 (hf (f.1, v) ((Ordered.lookup_eq_some_iff hr).mp hv))
      rw [hnone, Option.none_or]
    · rw [Option.or_none]

theorem Ordered.lookup_extendFields (h : Ordered y) (x : List (String × Json)) (k : String) :
    (extendFields x y).lookup k = (y.lookup k).or (x.lookup k) := by
  rw [Json.lookup_extendFields, h.lookup_reverse]

theorem Ordered.ext (hx : Ordered x) (hy : Ordered y) (h : ∀ k, x.lookup k = y.lookup k) :
    x = y := by
  have : Std.Irrefl fun f g : String × Json => f.1 < g.1 := ⟨fun f => String.lt_irrefl f.1⟩
  have : Std.Antisymm fun f g : String × Json => f.1 < g.1 :=
    ⟨fun _ _ hl hg => absurd (String.lt_trans hl hg) (String.lt_irrefl _)⟩
  refine List.Pairwise.eq_of_mem_iff hx hy fun f => ?_
  rw [← hx.lookup_eq_some_iff, ← hy.lookup_eq_some_iff, h]

theorem extendFields_extendFields {merged : List (String × Json)} (hm : Ordered merged)
    (hx : Ordered x) (y : List (String × Json)) :
    extendFields (extendFields merged x) y = extendFields merged (extendFields x y) := by
  have hxy : Ordered (extendFields x y) := ordered_extendFields hx y
  refine Ordered.ext (ordered_extendFields (ordered_extendFields hm x) y)
    (ordered_extendFields hm _) fun k => ?_
  rw [hxy.lookup_extendFields, lookup_extendFields, lookup_extendFields x, hx.lookup_extendFields,
    Option.or_assoc]

end Order

end Json
end PageFlow
