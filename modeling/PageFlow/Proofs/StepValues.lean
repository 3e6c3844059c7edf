import PageFlow.Report

/-! Values of steps, written and read back. Every JSON value is read as some step value and comes
back from it as it was. The other way round bytes always come back, and JSON does unless it is an
object that just happens to look like bytes: the fields `type` = "Buffer" and `data` = whole numbers
up to 255, and no other field. -/
namespace PageFlow

namespace Json

/-- The fields stand in the order of their keys, each key once. -/
def Ordered (fields : List (String × Json)) : Prop := fields.Pairwise fun f g => f.1 < g.1

theorem mem_insertField {key : String} {value : Json} {f : String × Json}
    {fields : List (String × Json)} (h : f ∈ insertField key value fields) :
    f = (key, value) ∨ f ∈ fields := by
  induction fields with
  | nil => simpa [insertField] using h
  | cons g rest ih =>
    by_cases he : key = g.1
    · simp only [insertField, if_pos he, List.mem_cons] at h
      exact h.imp_right (List.mem_cons_of_mem g)
    · by_cases hl : key < g.1
      · simp only [insertField, if_neg he, if_pos hl] at h
        exact List.mem_cons.mp h
      · simp only [insertField, if_neg he, if_neg hl, List.mem_cons] at h
        rcases h with rfl | h
        · exact Or.inr List.mem_cons_self
        · exact (ih h).imp_right (List.mem_cons_of_mem g)

theorem Ordered.insertField {fields : List (String × Json)} (h : Ordered fields) (key : String)
    (value : Json) : Ordered (insertField key value fields) := by
  induction fields with
  | nil => exact List.pairwise_singleton _ _
  | cons g rest ih =>
    obtain ⟨hg, hr⟩ := List.pairwise_cons.mp h
    by_cases he : key = g.1
    · simp only [Json.insertField, if_pos he]
      exact List.pairwise_cons.mpr ⟨fun f hf => he ▸ hg f hf, hr⟩
    · by_cases hl : key < g.1
      · simp only [Json.insertField, if_neg he, if_pos hl]
        refine List.pairwise_cons.mpr ⟨fun f hf => ?_, h⟩
        rcases List.mem_cons.mp hf with rfl | hf
        · exact hl
        · exact String.lt_trans hl (hg f hf)
      · have hgk : g.1 < key :=
          String.not_le.mp fun hk => he (String.le_antisymm hk (String.not_lt.mp hl))
        simp only [Json.insertField, if_neg he, if_neg hl]
        refine List.pairwise_cons.mpr ⟨fun f hf => ?_, ih hr⟩
        rcases mem_insertField hf with rfl | hf
        · exact hgk
        · exact hg f hf

theorem ordered_extendFields {fields : List (String × Json)} (h : Ordered fields)
    (more : List (String × Json)) : Ordered (extendFields fields more) := by
  induction more generalizing fields with
  | nil => exact h
  | cons f rest ih => exact ih (h.insertField f.1 f.2)

/-- An object that looks like bytes: it has just the two fields of bytes, and these whole numbers
are the data. -/
structure LooksLike (j : Json) (numbers : List Nat) : Prop where
  two : ∃ fields, j = .obj fields ∧ fields.length = 2
  tag : j.get? "type" = some (.str "Buffer")
  data : j.get? "data" = some (.arr (numbers.map .ofNat))
  small : ∀ n ∈ numbers, n ≤ 255

theorem LooksLike.eq_obj {fields : List (String × Json)} {numbers : List Nat}
    (h : LooksLike (.obj fields) numbers) (ho : Ordered fields) :
    fields = [("data", .arr (numbers.map .ofNat)), ("type", .str "Buffer")] := by
  obtain ⟨_, ⟨rfl⟩, hl⟩ := h.two
  obtain ⟨k, a, k', b, rfl⟩ : ∃ k a k' b, fields = [(k, a), (k', b)] := by
    match fields, hl with
    | [(k, a), (k', b)], _ => exact ⟨k, a, k', b, rfl⟩
  have ht := h.tag
  have hd := h.data
  have hk : k < k' := by simpa [Ordered] using ho
  simp only [get?, List.lookup_cons, List.lookup_nil] at ht hd
  by_cases hkt : k = "type"
  · subst hkt
    by_cases hkd : k' = "data"
    · subst hkd
      exact absurd hk (by decide)
    · simp [beq_eq_false_iff_ne.mpr (Ne.symm hkd)] at hd
  · by_cases hkt' : k' = "type"
    · subst hkt'
      by_cases hkd : k = "data"
      · subst hkd
        simp at ht hd
        simp [ht, hd]
      · simp [beq_eq_false_iff_ne.mpr (Ne.symm hkd)] at hd
    · simp [beq_eq_false_iff_ne.mpr (Ne.symm hkt), beq_eq_false_iff_ne.mpr (Ne.symm hkt')] at ht

end Json

namespace StepValue

open Json

theorem byte?_eq_some_iff (j : Json) (x : UInt8) : byte? j = some x ↔ j = .ofNat x.toNat := by
  constructor
  · intro h
    unfold byte? at h
    split at h
    · rename_i n hn
      split at h
      · rename_i hl
        obtain rfl := Option.some.inj h
        unfold nat? at hn
        split at hn
        · obtain rfl := Option.some.inj hn
          rw [UInt8.toNat_ofNat_of_lt' hl]
          rfl
        · cases hn
      · cases h
    · cases h
  · rintro rfl
    have hx : x.toNat < 256 := x.toNat_lt
    simp [byte?, nat?, Json.ofNat, hx]

theorem mapM_byte?_eq_some_iff (items : List Json) (b : Bytes) :
    items.mapM byte? = some b ↔ items = byteNumbers b := by
  induction items generalizing b with
  | nil => cases b <;> simp [byteNumbers]
  | cons j rest ih =>
    cases b with
    | nil => simp [byteNumbers, Option.bind_eq_some_iff]
    | cons x b =>
      have hb : byteNumbers (x :: b) = .ofNat x.toNat :: byteNumbers b := rfl
      simp [hb, Option.bind_eq_some_iff, byte?_eq_some_iff, ih]

theorem buffer?_eq_some_iff (j : Json) (b : Bytes) : buffer? j = some b ↔ j = (bytes b).toJson := by
  constructor
  · intro h
    unfold buffer? at h
    split at h
    · split at h
      · rename_i hk
        obtain ⟨rfl, rfl, rfl⟩ := hk
        rw [(mapM_byte?_eq_some_iff _ _).mp h]
        rfl
      · cases h
    · cases h
  · rintro rfl
    exact (mapM_byte?_eq_some_iff _ _).mpr rfl

theorem ofJson_toJson_bytes (b : Bytes) : ofJson (bytes b).toJson = bytes b := by
  simp [ofJson, (buffer?_eq_some_iff _ b).mpr rfl]

theorem toJson_ofJson (j : Json) : (ofJson j).toJson = j := by
  unfold ofJson
  split
  · rename_i b hb
    exact ((buffer?_eq_some_iff j b).mp hb).symm
  · rfl

theorem ofJson_eq_json_iff (j : Json) : ofJson j = json j ↔ ∀ b, j ≠ (bytes b).toJson := by
  constructor
  · rintro h b rfl
    rw [ofJson_toJson_bytes] at h
    cases h
  · intro h
    unfold ofJson
    split
    · rename_i b hb
      exact absurd ((buffer?_eq_some_iff j b).mp hb) (h b)
    · rfl

theorem looksLike_toJson (b : Bytes) : LooksLike (bytes b).toJson (b.map UInt8.toNat) where
  two := ⟨_, rfl, rfl⟩
  tag := rfl
  data := by simp [toJson, byteNumbers, get?]
  small n hn := by
    obtain ⟨x, -, rfl⟩ := List.mem_map.mp hn
    have := x.toNat_lt
    omega

theorem eq_toJson_of_looksLike {j : Json} {numbers : List Nat} (h : LooksLike j numbers)
    (ho : ∀ fields, j = .obj fields → Ordered fields) :
    j = (bytes (numbers.map UInt8.ofNat)).toJson := by
  obtain ⟨fields, rfl, -⟩ := h.two
  have hn : byteNumbers (numbers.map UInt8.ofNat) = numbers.map .ofNat := by
    rw [byteNumbers, List.map_map]
    refine List.map_congr_left fun n hn => ?_
    have hs : n < 2 ^ 8 := Nat.lt_succ_of_le (h.small n hn)
    rw [Function.comp_apply, UInt8.toNat_ofNat_of_lt' hs]
  rw [h.eq_obj (ho fields rfl), toJson, hn]

/-- What becomes of values that are written and read back. A JSON value is what writing gives of
the value read from it; bytes are read from what writing them gives; and JSON is, exactly if it
does not look like bytes. If it does, the bytes are read. -/
theorem stepValue_codec :
    (∀ w : Json, ∃ v, StepOutcome.readResult (.value w) = .ok v ∧ v.toJson = w) ∧
    (∀ b : Bytes, StepOutcome.readResult (.value (bytes b).toJson) = .ok (bytes b)) ∧
    ∀ j : Json, (∀ fields, j = .obj fields → Ordered fields) →
      (StepOutcome.readResult (.value (json j).toJson) = .ok (json j) ↔
        ∀ numbers, ¬ LooksLike j numbers) ∧
      ∀ numbers, LooksLike j numbers →
        StepOutcome.readResult (.value (json j).toJson) = .ok (bytes (numbers.map UInt8.ofNat)) := by
  have hr (w : Json) : StepOutcome.readResult (.value w) = .ok (ofJson w) := rfl
  refine ⟨fun w => ⟨_, hr w, toJson_ofJson w⟩, fun b => ?_, fun j ho => ⟨?_, fun numbers h => ?_⟩⟩
  · rw [hr, ofJson_toJson_bytes]
  · rw [hr, Except.ok.injEq, toJson, ofJson_eq_json_iff]
    constructor
    · intro h numbers hl
      exact h _ (eq_toJson_of_looksLike hl ho)
    · rintro h b rfl
      exact h _ (looksLike_toJson b)
  · have hj := eq_toJson_of_looksLike h ho
    rw [hr, toJson, hj, ofJson_toJson_bytes]

/-- Of two objects that differ in one number, the one with 256 is JSON and the other is bytes. -/
theorem stepValue_codec_limit :
    let object (n : Nat) := Json.object [("type", .str "Buffer"), ("data", .arr [.ofNat n])]
    (∀ n fields, object n = .obj fields → Ordered fields) ∧
    StepOutcome.readResult (.value (object 256)) = .ok (json (object 256)) ∧
    StepOutcome.readResult (.value (object 255)) = .ok (bytes [255]) := by
  intro object
  have ho (n : Nat) (fields : List (String × Json)) (h : object n = .obj fields) :
      Ordered fields := by
    obtain rfl := Json.obj.inj h
    exact ordered_extendFields List.Pairwise.nil _
  have he (n : Nat) : object n = .obj [("data", .arr [.ofNat n]), ("type", .str "Buffer")] := by
    have hl : "data" < "type" := by decide
    simp [object, Json.object, extendFields, insertField, hl]
  have hc := fun n => stepValue_codec.2.2 (object n) (ho n)
  refine ⟨ho, (hc 256).1.mpr fun numbers h => ?_, (hc 255).2 [255] ?_⟩
  · have hd := h.data
    rw [he] at hd
    match numbers, hd with
    | [n], hd =>
      have hs := h.small n (List.mem_singleton_self n)
      have hn : (256 : Int) = n := by simpa [get?, List.lookup_cons, Json.ofNat] using hd
      omega
  · rw [he]
    exact ⟨⟨_, rfl, rfl⟩, rfl, rfl, by simp⟩

end StepValue
end PageFlow
