import Mathlib.Data.List.Nodup
import PageFlow.Json.Decode

/-! Records that are written and read back. A record checks the members of an object one by one
before it is built of them; the checks refuse nothing that it can be built of. So an object in which
no key stands twice is read as what is built of its fields, whatever their order. -/
namespace PageFlow
namespace Json

variable {τ υ : Type}

theorem Read.bind_eq_ok {x : Read τ} {f : τ → Read υ} {w : υ} (h : (x >>= f) = .ok w) :
    ∃ v, x = .ok v ∧ f v = .ok w := by
  cases x with
  | error e => cases h
  | ok v => exact ⟨v, rfl, h⟩

theorem Read.map_eq_ok_iff {x : Read τ} {f : τ → υ} {w : υ} :
    x.map f = .ok w ↔ ∃ v, x = .ok v ∧ w = f v := by
  constructor
  · intro h
    cases x with
    | error e => cases h
    | ok v => exact ⟨v, rfl, (Except.ok.inj h).symm⟩
  · rintro ⟨v, rfl, rfl⟩
    rfl

def members (fields : List (String × Json)) : List (Option String × Doc) :=
  fields.map fun f => (some f.1, .value f.2)

def given (fields : List (String × Json)) (key : String) : Option Doc :=
  (fields.lookup key).map .value

theorem lookupMember_members (fields : List (String × Json)) :
    (fun key => lookupMember key (members fields)) = given fields := by
  funext key
  induction fields with
  | nil => rfl
  | cons f rest ih =>
    rw [given, List.lookup_cons]
    by_cases h : f.1 = key
    · have hb : (key == f.1) = true := by simp [h]
      rw [hb]
      exact if_pos (congrArg some h)
    · have hb : (key == f.1) = false := by simp [Ne.symm h]
      rw [hb]
      exact (if_neg (by simpa using h)).trans ih

theorem given_of_mem {fields : List (String × Json)} (hn : (fields.map Prod.fst).Nodup)
    {f : String × Json} (hf : f ∈ fields) : given fields f.1 = some (.value f.2) := by
  obtain ⟨first, rest, rfl⟩ := List.append_of_mem hf
  have hl : (first ++ f :: rest).lookup f.1 = some f.2 := by
    refine List.lookup_eq_some_iff.mpr ⟨first, rest, rfl, fun g hg => ?_⟩
    rw [List.map_append, List.map_cons] at hn
    have hd := (List.nodup_append.mp hn).2.2 g.1 (List.mem_map_of_mem hg) f.1 List.mem_cons_self
    simpa using hd.symm
  rw [given, hl]; rfl

namespace Fields

/-- The checks of a record refuse nothing that it can be built of. -/
def Lawful (f : Fields τ) : Prop := ∀ env v, f.build env = .ok v → ∀ s ∈ f.slots,
  (∀ d, env s.key = some d → s.check d = .ok ()) ∧ (s.absent = .refused → env s.key ≠ none)

theorem checked_of_read {read : Doc → Read τ} {d : Doc} {v : τ} (h : read d = .ok v) :
    checked read d = .ok () := by
  rw [checked, h]; rfl

theorem build_map_iff {f : τ → υ} {x : Fields τ} {env : String → Option Doc} {w : υ} :
    (f <$> x).build env = .ok w ↔ ∃ v, x.build env = .ok v ∧ w = f v := Read.map_eq_ok_iff

theorem build_seq_iff {f : Fields (τ → υ)} {x : Fields τ} {env : String → Option Doc} {w : υ} :
    (f <*> x).build env = .ok w ↔
      ∃ g v, f.build env = .ok g ∧ x.build env = .ok v ∧ w = g v := by
  change (f.build env >>= fun g => x.build env >>= fun v => .ok (g v)) = _ ↔ _
  constructor
  · intro h
    obtain ⟨g, hg, h⟩ := Read.bind_eq_ok h
    obtain ⟨v, hv, h⟩ := Read.bind_eq_ok h
    exact ⟨g, v, hg, hv, (Except.ok.inj h).symm⟩
  · rintro ⟨g, v, hg, hv, rfl⟩
    rw [hg, hv]; rfl

theorem build_map {f : τ → υ} {x : Fields τ} {env : String → Option Doc} {v : τ}
    (h : x.build env = .ok v) : (f <$> x).build env = .ok (f v) :=
  build_map_iff.mpr ⟨v, h, rfl⟩

theorem build_seq {f : Fields (τ → υ)} {x : Fields τ} {env : String → Option Doc} {g : τ → υ}
    {v : τ} (hf : f.build env = .ok g) (hx : x.build env = .ok v) :
    (f <*> x).build env = .ok (g v) := build_seq_iff.mpr ⟨g, v, hf, hx, rfl⟩

theorem lawful_map {f : τ → υ} {x : Fields τ} (hx : x.Lawful) : (f <$> x).Lawful := by
  intro env w h
  obtain ⟨v, hv, -⟩ := build_map_iff.mp h
  exact hx env v hv

theorem lawful_seq {f : Fields (τ → υ)} {x : Fields τ} (hf : f.Lawful) (hx : x.Lawful) :
    (f <*> x).Lawful := by
  intro env w h s hs
  obtain ⟨g, v, hg, hv, -⟩ := build_seq_iff.mp h
  rcases List.mem_append.mp hs with hs | hs
  · exact hf env g hg s hs
  · exact hx env v hv s hs

end Fields

section Field

variable {key : String} {read : Doc → Read τ} {env : String → Option Doc} {d : Doc} {v : τ}

theorem build_field (he : env key = some d) (hr : read d = .ok v) :
    (field key read).build env = .ok v := by
  simp only [field, he, hr]

theorem build_fieldOr {default : τ} (he : env key = some d) (hr : read d = .ok v) :
    (fieldOr key read default).build env = .ok v := by
  simp only [fieldOr, he, hr]

theorem build_fieldOr_none {default : τ} (he : env key = none) :
    (fieldOr key read default).build env = .ok default := by
  simp only [fieldOr, he]

theorem build_fieldNamedOption (he : env key = some d) {o : Option τ}
    (hr : optional read d = .ok o) : (fieldNamedOption key read).build env = .ok o := by
  simp only [fieldNamedOption, he, hr]

theorem build_fieldNamedOption_none (he : env key = none) :
    (fieldNamedOption key read).build env = .ok none := by
  simp only [fieldNamedOption, he]

theorem string_value (s : String) : string (.value (.str s)) = .ok s := rfl

theorem boolean_value (b : Bool) : boolean (.value (.bool b)) = .ok b := rfl

theorem double_value (x : Float) : double (.value (.float x)) = .ok x := rfl

theorem optional_of_read (hd : d.shape ≠ .null) (hr : read d = .ok v) :
    optional read d = .ok (some v) := by
  unfold optional
  split
  · rename_i h; exact absurd h hd
  · rw [hr]; rfl

theorem optional_null (h : d.shape = .null) : optional read d = .ok none := by
  rw [optional, h]

theorem lawful_field (key : String) (read : Doc → Read τ) : (field key read).Lawful := by
  intro env v h s hs
  obtain rfl := List.mem_singleton.mp hs
  simp only [field] at h
  split at h
  · rename_i d he
    refine ⟨fun d' hd => ?_, fun _ hn => ?_⟩
    · obtain rfl := Option.some.inj (he.symm.trans hd)
      exact Fields.checked_of_read h
    · cases he.symm.trans hn
  · cases h

theorem lawful_fieldOr (key : String) (read : Doc → Read τ) (default : τ) :
    (fieldOr key read default).Lawful := by
  intro env v h s hs
  obtain rfl := List.mem_singleton.mp hs
  refine ⟨fun d hd => ?_, nofun⟩
  simp only [fieldOr, hd] at h
  exact Fields.checked_of_read h

theorem lawful_fieldOption (key : String) (read : Doc → Read τ) : (fieldOption key read).Lawful :=
  lawful_fieldOr key (optional read) none

theorem lawful_fieldNamedOption (key : String) (read : Doc → Read τ) :
    (fieldNamedOption key read).Lawful := by
  intro env v h s hs
  obtain rfl := List.mem_singleton.mp hs
  refine ⟨fun d hd => ?_, nofun⟩
  simp only [fieldNamedOption, hd] at h
  exact Fields.checked_of_read h

end Field

section Nulls

theorem Doc.shape_of_json_null {d : Doc} (h : d.json = .ok .null) : d.shape = .null := by
  have hs {depth : Nat} {s : Source} (h : s.toJson? depth = some .null) : s = .null := by
    cases s with
    | null => rfl
    | number n => cases n <;> simp [Source.toJson?] at h
    | _ => simp [Source.toJson?, object] at h
  cases d with
  | value j => obtain rfl := Except.ok.inj h; rfl
  | text depth s =>
    simp only [Doc.json] at h
    split at h
    · rename_i j hj
      obtain rfl := Except.ok.inj h
      obtain rfl := hs hj
      simp only [Doc.shape]
      split <;> rfl
    · cases h
  | held s =>
    simp only [Doc.json] at h
    split at h
    · rename_i j hj
      obtain rfl := Except.ok.inj h
      obtain rfl := hs hj
      rfl
    · cases h

theorem shape_value_eq_null_iff (j : Json) : (Doc.value j).shape = .null ↔ j = .null := by
  cases j <;> simp [Doc.shape]

theorem fieldOption_json_ne_null {key : String} {env : String → Option Doc} {o : Option Json}
    (h : (fieldOption key Doc.json).build env = .ok o) : o ≠ some .null := by
  simp only [fieldOption, fieldOr] at h
  split at h
  · rename_i d _
    unfold optional at h
    split at h
    · obtain rfl := Except.ok.inj h
      nofun
    · rename_i hd
      rintro rfl
      cases hj : d.json with
      | error e => rw [hj] at h; cases h
      | ok j =>
        rw [hj] at h
        obtain rfl := Option.some.inj (Except.ok.inj h)
        exact hd (Doc.shape_of_json_null hj)
  · obtain rfl := Except.ok.inj h
    nofun

end Nulls

section Objects

variable {f : Fields τ} {fields : List (String × Json)} {v : τ}

theorem visit_members {slots : List Slot} (hc : ∀ s ∈ slots, ∀ g ∈ fields, g.1 = s.key →
      s.check (.value g.2) = .ok ()) (hn : (fields.map Prod.fst).Nodup) (seen : List String)
    (hs : ∀ g ∈ fields, g.1 ∉ seen) : visit slots seen (members fields) = .ok () := by
  induction fields generalizing seen with
  | nil => rfl
  | cons g rest ih =>
    obtain ⟨hg, hn⟩ := List.nodup_cons.mp hn
    obtain ⟨hgs, hs⟩ := List.forall_mem_cons.mp hs
    have hc' := fun s hm => (List.forall_mem_cons.mp (hc s hm)).2
    simp only [members, List.map_cons, visit]
    split
    · exact ih hc' hn seen hs
    · rename_i slot hf
      have hk : slot.key = g.1 := by simpa using List.find?_some hf
      rw [if_neg hgs, hc slot (List.mem_of_find?_eq_some hf) g List.mem_cons_self hk.symm]
      refine ih hc' hn (g.1 :: seen) fun h hh => ?_
      intro hm
      rcases List.mem_cons.mp hm with he | hm
      · exact hg (he ▸ List.mem_map_of_mem hh)
      · exact hs h hh hm

/-- Nothing is missing of what a record can be built of. -/
theorem missing?_of_build (hf : f.Lawful) {env : String → Option Doc} (h : f.build env = .ok v) :
    missing? f.slots env = none := by
  rw [missing?, Option.map_eq_none_iff, List.find?_eq_none]
  intro s hs hm
  obtain ⟨ha, hn⟩ : s.absent = .refused ∧ env s.key = none := by simpa using hm
  exact (hf env v h s hs).2 ha hn

theorem visit_given (hf : f.Lawful) (hn : (fields.map Prod.fst).Nodup)
    (h : f.build (given fields) = .ok v) : visit f.slots [] (members fields) = .ok () := by
  refine visit_members (fun s hs g hg hk => ?_) hn [] fun g _ => List.not_mem_nil
  exact (hf _ v h s hs).1 _ (hk ▸ given_of_mem hn hg)

theorem ofMembers_of_build (hf : f.Lawful) (hn : (fields.map Prod.fst).Nodup)
    (h : f.build (given fields) = .ok v) : f.ofMembers (members fields) = .ok v := by
  rw [Fields.ofMembers, visit_given hf hn h]
  simp only [lookupMember_members, missing?_of_build hf h]
  exact h

theorem record_of_build {name : String} (hf : f.Lawful) (hn : (fields.map Prod.fst).Nodup)
    (h : f.build (given fields) = .ok v) : record name f (.value (.obj fields)) = .ok v :=
  ofMembers_of_build hf hn h

theorem exists_build {name : String} {d : Doc} (h : record name f d = .ok v) :
    ∃ env, f.build env = .ok v := by
  unfold record at h
  split at h
  · obtain ⟨members, -, h⟩ := Read.bind_eq_ok h
    split at h
    · cases h
    · exact ⟨_, h⟩
  · unfold named at h
    split at h
    · obtain ⟨-, -, h⟩ := Read.bind_eq_ok h
      dsimp only at h
      split at h
      · cases h
      · exact ⟨_, h⟩
    · cases h

/-- An object is read as what is built of its fields. -/
theorem build_of_record {name : String} (h : record name f (.value (.obj fields)) = .ok v) :
    f.build (given fields) = .ok v := by
  obtain ⟨-, -, h⟩ := Read.bind_eq_ok (show f.ofMembers (members fields) = .ok v from h)
  simp only [lookupMember_members] at h
  split at h
  · cases h
  · exact h

theorem mapM_eq_ok {α : Type} {read : α → Read τ} {back : α → τ} {all : List α}
    (h : ∀ a ∈ all, read a = .ok (back a)) : all.mapM read = .ok (all.map back) := by
  induction all with
  | nil => rfl
  | cons a rest ih =>
    obtain ⟨ha, hr⟩ := List.forall_mem_cons.mp h
    rw [List.mapM_cons, ha, ih hr]; rfl

theorem items_map {α : Type} {read : Doc → Read τ} {write : α → Json} {back : α → τ} {all : List α}
    (h : ∀ a ∈ all, read (.value (write a)) = .ok (back a)) :
    items read (.value (.arr (all.map write))) = .ok (all.map back) := by
  have hm : ((all.map write).map Doc.value).mapM read = .ok (all.map back) := by
    rw [List.map_map, List.mapM_map]
    exact mapM_eq_ok h
  exact hm

end Objects

end Json
end PageFlow
