import PageFlow.Proofs.PdfSources
import PageFlow.Proofs.SavedReports

/-! Requests that are read and written. A step may be spelled in several ways: as an object with
fields left off or added, as the list of its fields, and its action alone or as the key of an
object. Writing knows one of them, and what was read from any is read again from that one. -/
namespace PageFlow

open Json

namespace Json

/-- No object in it has a key twice. -/
inductive Distinct : Json → Prop
  | null : Distinct .null
  | bool (b) : Distinct (.bool b)
  | int (n) : Distinct (.int n)
  | float (x) : Distinct (.float x)
  | str (s) : Distinct (.str s)
  | arr {items} : (∀ j ∈ items, Distinct j) → Distinct (.arr items)
  | obj {fields} : (fields.map Prod.fst).Nodup → (∀ f ∈ fields, Distinct f.2) →
      Distinct (.obj fields)

theorem Distinct.items {items : List Json} (h : Distinct (.arr items)) :
    ∀ j ∈ items, j.Distinct := by
  cases h with
  | arr hitems => exact hitems

theorem Distinct.of_lookup {fields : List (String × Json)} {key : String} {j : Json}
    (h : Distinct (.obj fields)) (hj : fields.lookup key = some j) : j.Distinct := by
  cases h with
  | obj hn hvalues =>
    obtain ⟨before, after, rfl, -⟩ := List.lookup_eq_some_iff.mp hj
    exact hvalues (key, j) (by simp)

section Lists

variable {slots : List Slot} {items : List Json} {index : Nat} {expected : String}

def listed (slots : List Slot) (items : List Json) : List (String × Json) :=
  (slots.map Slot.key).zip items

theorem visitItems_ok_iff {all : List (Option String × Doc)} :
    visitItems expected index slots (items.map .value) = .ok all ↔
      (∀ p ∈ slots.zip items, p.1.check (.value p.2) = .ok ()) ∧
        (∀ s ∈ slots.drop items.length, s.absent = .allowed) ∧
          all = members (listed slots items) := by
  induction slots generalizing items index all with
  | nil => simp [visitItems, listed, members, eq_comm]
  | cons slot slots ih =>
    cases items with
    | nil =>
      have hrest := @ih [] (index + 1) all
      simp only [List.map_nil, List.zip_nil_right, List.not_mem_nil, false_implies, implies_true,
        List.length_nil, List.drop_zero, true_and, listed, List.forall_mem_cons] at hrest ⊢
      rw [visitItems]
      split
      case isTrue ha => simpa [ha] using hrest
      case isFalse ha => simp [ha]
    | cons j items =>
      have hrest (more : List (Option String × Doc)) :=
        @ih items (index + 1) more
      simp only [List.map_cons, visitItems, List.zip_cons_cons, List.forall_mem_cons,
        List.length_cons, List.drop_succ_cons]
      constructor
      · intro h
        obtain ⟨_, hslot, h⟩ := Read.bind_eq_ok h
        obtain ⟨more, hmore, h⟩ := Read.bind_eq_ok h
        obtain rfl := Except.ok.inj h
        obtain ⟨hchecks, hallowed, rfl⟩ := (hrest more).mp hmore
        exact ⟨⟨hslot, hchecks⟩, hallowed, rfl⟩
      · rintro ⟨⟨hslot, hchecks⟩, hallowed, rfl⟩
        rw [hslot, (hrest _).mpr ⟨hchecks, hallowed, rfl⟩]
        rfl

theorem nodup_listed (items : List Json) (hn : (slots.map Slot.key).Nodup) :
    ((listed slots items).map Prod.fst).Nodup := by
  rw [listed, List.zip_eq_zip_take_min, List.map_fst_zip (by simp)]
  exact hn.sublist (List.take_sublist _ _)

/-- A list is read as what is built of the fields that it gives, if it has no more items than there
are fields and leaves off only what a list may leave off. -/
theorem record_arr_iff {f : Fields τ} {name : String} {v : τ} (hf : f.Lawful)
    (hn : (f.slots.map Slot.key).Nodup) : record name f (.value (.arr items)) = .ok v ↔
      items.length ≤ f.slots.length ∧
        (∀ s ∈ f.slots.drop items.length, s.absent = .allowed) ∧
          f.build (given (listed f.slots items)) = .ok v := by
  have hread : record name f (.value (.arr items)) =
      (visitItems ("struct " ++ name ++ " with " ++ elementCount f.slots.length) 0 f.slots
        (items.map .value) >>= fun all =>
          if f.slots.length < (items.map Doc.value).length then
            .error (tooLong (.value (.arr items)) (items.map Doc.value).length f.slots.length)
          else f.build fun key => lookupMember key all) := rfl
  rw [hread]
  constructor
  · intro h
    obtain ⟨all, hall, h⟩ := Read.bind_eq_ok h
    obtain ⟨-, hallowed, rfl⟩ := visitItems_ok_iff.mp hall
    split at h
    case isTrue => cases h
    case isFalse hlength =>
      rw [List.length_map] at hlength
      rw [lookupMember_members] at h
      exact ⟨Nat.not_lt.mp hlength, hallowed, h⟩
  · rintro ⟨hlength, hallowed, hbuild⟩
    have hkeys := nodup_listed items hn
    have hchecks : ∀ p ∈ f.slots.zip items, p.1.check (.value p.2) = .ok () := by
      rintro ⟨slot, j⟩ hp
      have hmem : (slot.key, j) ∈ listed f.slots items := by
        rw [listed, List.zip_map_left]
        exact List.mem_map_of_mem (f := Prod.map Slot.key id) hp
      exact (hf _ v hbuild slot (List.of_mem_zip hp).1).1 _ (given_of_mem hkeys hmem)
    rw [visitItems_ok_iff.mpr ⟨hchecks, hallowed, rfl⟩]
    simp only [Except.bind, bind, List.length_map, Nat.not_lt.mpr hlength, if_false,
      lookupMember_members]
    exact hbuild

end Lists

section Fields

variable {key : String} {fields : List (String × Json)}

theorem build_fieldOr_string_given_iff {default s : String} :
    (fieldOr key string default).build (given fields) = .ok s ↔
      (fields.lookup key).getD (.str default) = .str s := by
  rw [build_fieldOr_given_iff]
  cases fields.lookup key with
  | none => simp [eq_comm]
  | some j => simp [string_value_iff]

theorem build_fieldOption_json_given_iff {o : Option Json} :
    (fieldOption key Doc.json).build (given fields) = .ok o ↔
      o = (fields.lookup key).filter fun j => !j.isNull := by
  have hone (j : Json) : optional Doc.json (.value j) =
      .ok (if j.isNull then none else some j) := by
    cases j <;> rfl
  rw [fieldOption, build_fieldOr_given_iff]
  cases fields.lookup key with
  | none => simp
  | some j =>
    have hfilter : (some j).filter (fun j => !j.isNull) = if j.isNull then none else some j := by
      cases hj : j.isNull <;> simp [Option.filter, hj]
    rw [hfilter]
    simp only [Option.some.injEq, exists_eq_left', hone, Except.ok.injEq, reduceCtorEq, false_and,
      or_false]
    exact eq_comm

end Fields

section Items

variable {read : Doc → Read τ} {all : List τ}

theorem mapM_eq_ok_iff {docs : List Doc} :
    docs.mapM read = .ok all ↔ List.Forall₂ (fun d v => read d = .ok v) docs all := by
  induction docs generalizing all with
  | nil => simp [pure, Except.pure, eq_comm]
  | cons d docs ih =>
    rw [List.mapM_cons, List.forall₂_cons_left_iff]
    constructor
    · intro h
      obtain ⟨v, hv, h⟩ := Read.bind_eq_ok h
      obtain ⟨rest, hrest, h⟩ := Read.bind_eq_ok h
      exact ⟨v, rest, hv, ih.mp hrest, (Except.ok.inj h).symm⟩
    · rintro ⟨v, rest, hv, hrest, rfl⟩
      rw [hv, ih.mpr hrest]
      rfl

theorem items_eq_ok_iff {d : Doc} : items read d = .ok all ↔
    ∃ docs, d.shape = .arr docs ∧ List.Forall₂ (fun d v => read d = .ok v) docs all := by
  rw [items]
  cases d.shape with
  | arr docs => simp [mapM_eq_ok_iff]
  | _ => simp

theorem items_value_iff {j : Json} : items read (.value j) = .ok all ↔
    ∃ values, j = .arr values ∧ List.Forall₂ (fun j v => read (.value j) = .ok v) values all := by
  rw [items_eq_ok_iff]
  cases j with
  | arr values => simp [Doc.shape, List.forall₂_map_left_iff]
  | _ => simp [Doc.shape]

end Items
end Json

/-- JSON that names an action: its name alone, or the key of an object that holds null. -/
inductive Action.Named : Json → Action → Prop
  | alone (a : Action) : Named (.str a.name) a
  | keyed (a : Action) : Named (.obj [(a.name, .null)]) a

namespace Step

/-- What the fields say of a step. Of all but the action nothing needs to be said. -/
structure Says (fields : List (String × Json)) (s : Step) : Prop where
  label : (fields.lookup "label").getD (.str "") = .str s.label
  description : (fields.lookup "description").getD (.str "") = .str s.description
  action : ∃ j, fields.lookup "action" = some j ∧ s.action.Named j
  data : s.data = (fields.lookup "data").getD .null
  placeholder : s.placeholder = (fields.lookup "placeholder").filter fun j => !j.isNull

/-- The ways to spell a step: as an object, or as the list of its fields up to some of them. -/
inductive Spelled : Json → Step → Prop
  | object {fields s} : Says fields s → Spelled (.obj fields) s
  | list {items s} : items.length ≤ 5 →
      Says (["label", "description", "action", "data", "placeholder"].zip items) s →
      Spelled (.arr items) s

theorem readAction_value_iff {j : Json} {a : Action} :
    readAction (.value j) = .ok a ↔ a.Named j := by
  have hname {name : String} (h : variantOf Action.named name = .ok a) : name = a.name := by
    rw [variantOf] at h
    split at h
    · rename_i b hb
      obtain rfl := Except.ok.inj h
      obtain ⟨before, after, hnamed, -⟩ := List.lookup_eq_some_iff.mp hb
      have hmem : (name, b) ∈ Action.named := by rw [hnamed]; simp
      obtain ⟨c, -, hc⟩ := List.mem_map.mp hmem
      obtain ⟨rfl, rfl⟩ := Prod.mk.inj hc
      rfl
    · cases h
  constructor
  · intro h
    cases j with
    | str name =>
      obtain rfl := hname h
      exact .alone a
    | obj fields =>
      rcases fields with _ | ⟨⟨name, payload⟩, _ | ⟨g, rest⟩⟩
      · cases h
      · obtain ⟨b, hb, h⟩ := Read.bind_eq_ok h
        obtain ⟨_, hpayload, h⟩ := Read.bind_eq_ok h
        obtain rfl := Except.ok.inj h
        obtain rfl := hname hb
        cases payload with
        | null => exact .keyed b
        | _ => simp [unit, Doc.shape] at hpayload
      · cases h
    | _ => cases h
  · intro h
    cases h <;> cases a <;> rfl

variable {fields : List (String × Json)} {s : Step}

theorem build_given_iff : Step.fields.build (given fields) = .ok s ↔ Says fields s := by
  simp only [Step.fields, Fields.build_seq_iff, Fields.build_map_iff,
    build_fieldOr_string_given_iff, build_field_given_iff, readAction_value_iff,
    build_fieldOr_json_given_iff, build_fieldOption_json_given_iff]
  constructor
  · rintro ⟨_, placeholder, ⟨_, data, ⟨_, action, ⟨_, description, ⟨label, hl, rfl⟩, hd, rfl⟩, ha,
      rfl⟩, hdata, rfl⟩, hp, rfl⟩
    exact ⟨hl, hd, ha, hdata, hp⟩
  · rintro ⟨hl, hd, ha, hdata, hp⟩
    exact ⟨_, _, ⟨_, _, ⟨_, _, ⟨_, _, ⟨_, hl, rfl⟩, hd, rfl⟩, ha, rfl⟩, hdata, rfl⟩, hp, rfl⟩

/-- A step is read from the ways to spell it, and from nothing else. -/
theorem read_value_iff {j : Json} (hj : j.Distinct) :
    Step.read (.value j) = .ok s ↔ Spelled j s := by
  constructor
  · intro h
    cases j with
    | obj fields => exact .object (build_given_iff.mp (build_of_record h))
    | arr items =>
      obtain ⟨hlength, -, hbuild⟩ := (record_arr_iff lawful_fields (by decide)).mp h
      exact .list hlength (build_given_iff.mp hbuild)
    | _ => cases h
  · intro h
    cases h with
    | object hsays =>
      cases hj with
      | obj hn => exact record_of_build lawful_fields hn (build_given_iff.mpr hsays)
    | @list items s hlength hsays =>
      refine (record_arr_iff lawful_fields (by decide)).mpr ⟨hlength, ?_, build_given_iff.mpr hsays⟩
      -- The action is the third field, so what is left off comes after it.
      have hthree : 3 ≤ items.length := by
        obtain ⟨j, haction, -⟩ := hsays.action
        rcases items with _ | ⟨_, _ | ⟨_, _ | ⟨_, rest⟩⟩⟩
        · simp at haction
        · simp [List.lookup_cons] at haction
        · simp [List.lookup_cons] at haction
        · simp
      have hallowed : ∀ s ∈ Step.fields.slots.drop 3, s.absent = .allowed := by decide
      intro slot hslot
      rw [← Nat.add_sub_cancel' hthree, ← List.drop_drop] at hslot
      exact hallowed slot (List.mem_of_mem_drop hslot)

/-- How a step is written: all fields but the placeholder always, and in the order of their keys. -/
structure Written (j : Json) (s : Step) : Prop where
  label : j.get? "label" = some (.str s.label)
  description : j.get? "description" = some (.str s.description)
  action : j.get? "action" = some (.str s.action.name)
  data : j.get? "data" = some s.data
  placeholder : j.get? "placeholder" = s.placeholder
  ordered : ∃ fields, j = .obj fields ∧ Ordered fields ∧
    fields.length = if s.placeholder.isSome then 5 else 4

theorem written_toJson (s : Step) : Written s.toJson s := by
  obtain ⟨label, description, action, data, placeholder⟩ := s
  refine ⟨rfl, rfl, rfl, rfl, ?_, _, rfl, ?_, ?_⟩
  · cases placeholder <;> rfl
  · have hkeys : ["action", "data", "description", "label", "placeholder"].Pairwise (· < ·) := by
      decide
    have hfour := hkeys.sublist (List.take_sublist 4 _)
    cases placeholder with
    | none => exact List.pairwise_map.mp hfour
    | some p => exact List.pairwise_map.mp hkeys
  · cases placeholder <;> rfl

end Step

namespace FlowRequest

/-- The ways to spell a request: as an object, or as the list of its one field. -/
inductive Spelled : Json → FlowRequest → Prop
  | object {fields items r} : fields.lookup "steps" = some (.arr items) →
      List.Forall₂ Step.Spelled items r.steps → Spelled (.obj fields) r
  | list {items r} : List.Forall₂ Step.Spelled items r.steps → Spelled (.arr [.arr items]) r

variable {r : FlowRequest}

theorem lawful_fields : FlowRequest.fields.Lawful := Fields.lawful_map (lawful_field _ _)

theorem read_toJson (h : ∀ s ∈ r.steps, s.placeholder ≠ some .null) :
    FlowRequest.read (.value r.toJson) = .ok r := by
  refine record_of_build lawful_fields (by simp) (Fields.build_map (build_field rfl ?_))
  have hsteps : items Step.read (.value (.arr (r.steps.map Step.toJson))) = .ok (r.steps.map id) :=
    items_map fun s hs => Step.read_toJson (h s hs)
  rwa [List.map_id] at hsteps

theorem exists_read {d : Doc} (h : FlowRequest.read d = .ok r) :
    ∀ s ∈ r.steps, ∃ d, Step.read d = .ok s := by
  obtain ⟨env, hbuild⟩ := exists_build h
  obtain ⟨steps, hsteps, rfl⟩ := Fields.build_map_iff.mp hbuild
  simp only [field] at hsteps
  split at hsteps
  · obtain ⟨docs, -, hdocs⟩ := items_eq_ok_iff.mp hsteps
    intro s hs
    obtain ⟨k, hk, rfl⟩ := List.getElem_of_mem hs
    exact ⟨_, hdocs.get (by rwa [hdocs.length_eq]) hk⟩
  · cases hsteps

theorem forall₂_spelled_iff {items : List Json} {steps : List Step} (h : ∀ j ∈ items, j.Distinct) :
    List.Forall₂ (fun j s => Step.read (.value j) = .ok s) items steps ↔
      List.Forall₂ Step.Spelled items steps := by
  rw [List.forall₂_iff_zip, List.forall₂_iff_zip]
  refine and_congr_right fun _ => forall₂_congr fun j s => ?_
  exact forall_congr' fun hmem => Step.read_value_iff (h j (List.of_mem_zip hmem).1)

theorem build_given_iff {fields : List (String × Json)} :
    FlowRequest.fields.build (given fields) = .ok r ↔ ∃ items, fields.lookup "steps" =
      some (.arr items) ∧ List.Forall₂ (fun j s => Step.read (.value j) = .ok s) items r.steps := by
  simp only [FlowRequest.fields, Fields.build_map_iff, build_field_given_iff, items_value_iff]
  constructor
  · rintro ⟨steps, ⟨_, hsteps, items, rfl, hitems⟩, rfl⟩
    exact ⟨items, hsteps, hitems⟩
  · rintro ⟨items, hsteps, hitems⟩
    exact ⟨r.steps, ⟨_, hsteps, items, rfl, hitems⟩, rfl⟩

/-- A request is read from the ways to spell it, and from nothing else. -/
theorem read_value_iff {j : Json} (hj : j.Distinct) :
    FlowRequest.read (.value j) = .ok r ↔ Spelled j r := by
  constructor
  · intro h
    cases j with
    | obj fields =>
      obtain ⟨items, hsteps, hitems⟩ := build_given_iff.mp (build_of_record h)
      exact .object hsteps ((forall₂_spelled_iff (hj.of_lookup hsteps).items).mp hitems)
    | arr items =>
      obtain ⟨hlength, -, hbuild⟩ := (record_arr_iff lawful_fields (by decide)).mp h
      obtain ⟨steps, hsteps, hitems⟩ := build_given_iff.mp hbuild
      rcases items with _ | ⟨first, _ | ⟨second, rest⟩⟩
      · cases hsteps
      · obtain rfl := Option.some.inj hsteps
        exact .list ((forall₂_spelled_iff (hj.items _ List.mem_cons_self).items).mp hitems)
      · have hone : FlowRequest.fields.slots.length = 1 := rfl
        rw [hone, List.length_cons, List.length_cons] at hlength
        omega
    | _ => cases h
  · intro h
    cases h with
    | object hsteps hitems =>
      have hitems := (forall₂_spelled_iff (hj.of_lookup hsteps).items).mpr hitems
      cases hj with
      | obj hn hvalues =>
        exact record_of_build lawful_fields hn (build_given_iff.mpr ⟨_, hsteps, hitems⟩)
    | list hitems =>
      have hitems := (forall₂_spelled_iff (hj.items _ List.mem_cons_self).items).mpr hitems
      exact (record_arr_iff lawful_fields (by decide)).mpr
        ⟨Nat.le_refl 1, List.forall_mem_nil _, build_given_iff.mpr ⟨_, rfl, hitems⟩⟩

/-- Requests that are read, from values or from texts, and written. What is written is read as the
same request, so it is written as the same JSON again and gets the same verdict. A value is read as
what it spells, with all that may be left off or added; what is written holds every field of every
step, but a placeholder only where there is one. -/
theorem request_normalizes :
    (∀ d r, FlowRequest.read d = .ok r → FlowRequest.read (.value r.toJson) = .ok r ∧
      ∀ back, FlowRequest.read (.value r.toJson) = .ok back → back.toJson = r.toJson ∧
        Grammar.validate back.steps = Grammar.validate r.steps) ∧
    (∀ j r, j.Distinct → (FlowRequest.read (.value j) = .ok r ↔ Spelled j r)) ∧
    ∀ r : FlowRequest, ∃ items, r.toJson = .obj [("steps", .arr items)] ∧
      List.Forall₂ Step.Written items r.steps := by
  refine ⟨fun d r h => ?_, fun j r => read_value_iff, fun r => ⟨_, rfl, ?_⟩⟩
  · have hback : FlowRequest.read (.value r.toJson) = .ok r :=
      read_toJson fun s hs => (exists_read h s hs).elim fun _ => Step.placeholder_ne_null
    refine ⟨hback, fun back h => ?_⟩
    obtain rfl := Except.ok.inj (hback.symm.trans h)
    exact ⟨rfl, rfl⟩
  · exact List.forall₂_map_left_iff.mpr (List.forall₂_same.mpr fun s _ => s.written_toJson)

section Samples

def spellings : Json :=
  .obj [("note", .int 1), ("steps", .arr [
    .arr [.str "go", .str "", .obj [("navigateTo", .null)]],
    .obj [("action", .str "executeJavaScript"), ("data", .arr [.float 1.5, .null]),
      ("id", .bool true), ("placeholder", .obj [("a", .null)])],
    .obj [("action", .obj [("screenshot", .null)]), ("placeholder", .null)]])]

def spelled : FlowRequest := ⟨[⟨"go", "", .navigate, .null, none⟩,
  ⟨"", "", .executeScript, .arr [.float 1.5, .null], some (.obj [("a", .null)])⟩,
  ⟨"", "", .screenshot, .null, none⟩]⟩

end Samples

theorem request_normalizes_spellings : FlowRequest.read (.value spellings) = .ok spelled ∧
    FlowRequest.read (.value spelled.toJson) = .ok spelled ∧
    Grammar.validate spelled.steps = .ok () := by
  have h : FlowRequest.read (.value spellings) = .ok spelled := rfl
  exact ⟨h, (request_normalizes.1 _ _ h).1, rfl⟩

end FlowRequest
end PageFlow
