import PageFlow.Proofs.Records
import PageFlow.Proofs.RunSession
import PageFlow.Proofs.Stamps
import PageFlow.Proofs.StepValues

/-! Reports that are written and read back. Steps and errors come back as they were, since none of
those in a report holds a null where it would be taken for nothing. A result is written as what it
is, so JSON that is written like bytes cannot be told from bytes, nor null from no result. -/
namespace PageFlow

open Json

namespace Step

theorem lawful_fields : Step.fields.Lawful :=
  Fields.lawful_seq (Fields.lawful_seq (Fields.lawful_seq (Fields.lawful_seq
    (Fields.lawful_map (lawful_fieldOr _ _ _)) (lawful_fieldOr _ _ _)) (lawful_field _ _))
    (lawful_fieldOr _ _ _)) (lawful_fieldOption _ _)

theorem placeholder_ne_null {d : Doc} {s : Step} (h : Step.read d = .ok s) :
    s.placeholder ≠ some .null := by
  obtain ⟨env, hb⟩ := exists_build h
  obtain ⟨_, o, h₄, ho, rfl⟩ := Fields.build_seq_iff.mp hb
  obtain ⟨_, data, h₃, -, rfl⟩ := Fields.build_seq_iff.mp h₄
  obtain ⟨_, action, h₂, -, rfl⟩ := Fields.build_seq_iff.mp h₃
  obtain ⟨_, description, h₁, -, rfl⟩ := Fields.build_seq_iff.mp h₂
  obtain ⟨label, -, rfl⟩ := Fields.build_map_iff.mp h₁
  exact fieldOption_json_ne_null ho

theorem readAction_name (a : Action) : readAction (.value (.str a.name)) = .ok a := by
  cases a <;> rfl

theorem read_toJson {s : Step} (h : s.placeholder ≠ some .null) :
    Step.read (.value s.toJson) = .ok s := by
  obtain ⟨label, description, action, data, placeholder⟩ := s
  refine record_of_build lawful_fields ?_ ?_
  · cases placeholder <;> simp
  · refine Fields.build_seq (Fields.build_seq (Fields.build_seq (Fields.build_seq
      (Fields.build_map (build_fieldOr rfl rfl)) (build_fieldOr rfl rfl))
      (build_field rfl (readAction_name action))) (build_fieldOr rfl rfl)) ?_
    cases placeholder with
    | none => exact build_fieldOr_none rfl
    | some p =>
      refine build_fieldOr rfl (optional_of_read ?_ rfl)
      rwa [Ne, shape_value_eq_null_iff, ← Option.some.injEq]

end Step

namespace ErrorBody

theorem lawful_fields : ErrorBody.fields.Lawful :=
  Fields.lawful_seq (Fields.lawful_seq (Fields.lawful_seq (Fields.lawful_map (lawful_field _ _))
    (lawful_field _ _)) (lawful_fieldNamedOption _ _)) (lawful_field _ _)

theorem read_toJson {b : ErrorBody} (h : b.details ≠ some .null) :
    ErrorBody.read (.value b.toJson) = .ok b := by
  obtain ⟨code, message, details, timestamp⟩ := b
  refine record_of_build lawful_fields ?_ ?_
  · cases details <;> simp
  · refine Fields.build_seq (Fields.build_seq (Fields.build_seq
      (Fields.build_map (build_field ?_ (string_value code)))
      (build_field ?_ (string_value message))) ?_) (build_field ?_ (string_value timestamp))
    · cases details <;> rfl
    · cases details <;> rfl
    · cases details with
      | none => exact build_fieldNamedOption_none rfl
      | some d =>
        refine build_fieldNamedOption rfl (optional_of_read ?_ rfl)
        rwa [Ne, shape_value_eq_null_iff, ← Option.some.injEq]
    · cases details <;> rfl

theorem details_ofError_ne_null (e : FlowError) (timestamp : String) :
    (ofError e timestamp).details ≠ some .null := by
  cases e <;> nofun

end ErrorBody

namespace StepOutcome

/-- What comes back of a value: nothing of null, bytes of what looks like bytes. -/
def valueBack (v : StepValue) : Option StepValue :=
  if v.toJson.isNull then none else some (StepValue.ofJson v.toJson)

def back (o : StepOutcome) : StepOutcome := { o with result := o.result.bind valueBack }

/-- No null stands where it would be taken for nothing, results apart. -/
structure Plain (o : StepOutcome) : Prop where
  step : o.step.placeholder ≠ some .null
  error : ∀ b, o.error = some b → b.details ≠ some .null

theorem lawful_fields : StepOutcome.fields.Lawful :=
  Fields.lawful_seq (Fields.lawful_seq (Fields.lawful_seq (Fields.lawful_map (lawful_field _ _))
    (lawful_field _ _)) (lawful_fieldOption _ _)) (lawful_fieldOption _ _)

theorem optional_readResult (v : StepValue) :
    optional readResult (.value v.toJson) = .ok (valueBack v) := by
  unfold valueBack
  cases hv : v.toJson with
  | null => exact optional_null rfl
  | _ => exact optional_of_read nofun rfl

theorem read_toJson {o : StepOutcome} (h : o.Plain) :
    StepOutcome.read (.value o.toJson) = .ok o.back := by
  obtain ⟨step, timeTaken, result, error⟩ := o
  have hs := Step.read_toJson h.step
  refine record_of_build lawful_fields ?_ ?_
  · cases error <;> cases result <;> simp
  · refine Fields.build_seq (Fields.build_seq (Fields.build_seq
      (Fields.build_map (build_field ?_ hs)) (build_field ?_ (double_value timeTaken))) ?_) ?_
    · cases error <;> cases result <;> rfl
    · cases error <;> cases result <;> rfl
    · cases result with
      | none => exact build_fieldOr_none (by cases error <;> rfl)
      | some v => exact build_fieldOr (by cases error <;> rfl) (optional_readResult v)
    · cases error with
      | none => exact build_fieldOr_none (by cases result <;> rfl)
      | some b =>
        exact build_fieldOr rfl (optional_of_read nofun (ErrorBody.read_toJson (h.error b rfl)))

end StepOutcome

namespace FlowReport

def back (r : FlowReport) : FlowReport := { r with results := r.results.map StepOutcome.back }

theorem lawful_fields : FlowReport.fields.Lawful :=
  Fields.lawful_seq (Fields.lawful_map (lawful_field _ _)) (lawful_field _ _)

theorem ofMembers_members {r : FlowReport} (h : ∀ o ∈ r.results, o.Plain) :
    FlowReport.fields.ofMembers (Json.members r.members) = .ok r.back := by
  refine ofMembers_of_build lawful_fields (by simp [FlowReport.members]) ?_
  exact Fields.build_seq (Fields.build_map (build_field rfl (boolean_value r.success)))
    (build_field rfl (items_map fun o ho => StepOutcome.read_toJson (h o ho)))

theorem read_toJson {r : FlowReport} (h : ∀ o ∈ r.results, o.Plain) :
    FlowReport.read (.value r.toJson) = .ok r.back := ofMembers_members h

end FlowReport

namespace FlowResultRecord

theorem lawful_ownFields : ownFields.Lawful :=
  Fields.lawful_seq (Fields.lawful_seq (Fields.lawful_seq (Fields.lawful_map (lawful_field _ _))
    (lawful_fieldOption _ _)) (lawful_field _ _)) (lawful_field _ _)

def isOther (slots : List Slot) (f : String × Json) : Bool := slots.all fun s => s.key ≠ f.1

theorem visit_members (slots : List Slot) (seen : List String) (fields : List (String × Json)) :
    visit slots seen (Json.members fields) = (Json.visit slots seen (Json.members fields)).map
      fun _ => Json.members (fields.filter (isOther slots)) := by
  induction fields generalizing seen with
  | nil => rfl
  | cons g rest ih =>
    simp only [Json.members, List.map_cons, visit, Json.visit] at ih ⊢
    cases hf : slots.find? fun s => s.key = g.1 with
    | none =>
      have ha : isOther slots g = true := by simpa [isOther, List.find?_eq_none] using hf
      rw [List.filter_cons_of_pos ha]
      simp only [ih]
      cases Json.visit slots seen (rest.map fun f => (some f.1, .value f.2)) <;> rfl
    | some slot =>
      have hk : slot.key = g.1 := by simpa using List.find?_some hf
      have ha : ¬ isOther slots g = true := by
        simpa [isOther] using ⟨slot, List.mem_of_find?_eq_some hf, hk⟩
      rw [List.filter_cons_of_neg ha]
      simp only [ih]
      split
      · rfl
      · cases slot.check (.value g.2) <;> rfl

def written (r : FlowResultRecord) : List (String × Json) :=
  [("createdAt", .str r.createdAt.text)] ++
    (r.flowId.toList.map fun i => ("flowId", .str i.text)) ++ [("id", .str r.id.text)] ++
    r.report.members ++ [("userId", .str r.userId)]

theorem nodup_written (r : FlowResultRecord) : (r.written.map Prod.fst).Nodup := by
  cases h : r.flowId <;> simp [written, h, FlowReport.members]

theorem filter_written (r : FlowResultRecord) :
    r.written.filter (isOther ownFields.slots) = r.report.members := by
  cases h : r.flowId <;> rw [written, h] <;> rfl

theorem build_written {r : FlowResultRecord} (hc : r.createdAt.Valid) :
    ownFields.build (given r.written) = .ok fun report => { r with report } := by
  obtain ⟨id, flowId, userId, createdAt, report⟩ := r
  refine Fields.build_seq (Fields.build_seq (Fields.build_seq
    (Fields.build_map (build_field ?_ (Uuid.read_text id))) ?_)
    (build_field ?_ (string_value userId))) (build_field ?_ (Moment.read_text hc))
  · cases flowId <;> rfl
  · cases flowId with
    | none => exact build_fieldOr_none rfl
    | some i => exact build_fieldOr rfl (optional_of_read nofun (Uuid.read_text i))
  · cases flowId <;> rfl
  · cases flowId <;> rfl

theorem read_toJson {r : FlowResultRecord} (hc : r.createdAt.Valid)
    (h : ∀ o ∈ r.report.results, o.Plain) :
    FlowResultRecord.read (.value r.toJson) = .ok { r with report := r.report.back } := by
  have hb := build_written hc
  have hv : visit ownFields.slots [] (Json.members r.written) =
      .ok (Json.members r.report.members) := by
    rw [FlowResultRecord.visit_members, visit_given lawful_ownFields r.nodup_written hb,
      ← r.filter_written]
    rfl
  have hs : (Doc.value r.toJson).shape = .obj (Json.members r.written) := rfl
  rw [read, hs]
  simp only [hv, lookupMember_members, missing?_of_build lawful_ownFields hb, hb, bind, Except.bind,
    FlowReport.ofMembers_members h]

end FlowResultRecord

/-- What a caller finds in an outcome that was written and read back. Of a null that was captured
nothing is said. -/
structure StepOutcome.ReadBack (o o' : StepOutcome) : Prop where
  step : o'.step = o.step
  timeTaken : o'.timeTaken = o.timeTaken
  error : o'.error = o.error
  absent : o.result = none → o'.result = none
  bytes : ∀ b, o.result = some (.bytes b) → o'.result = some (.bytes b)
  json : ∀ j, o.result = some (.json j) → j ≠ .null → (∀ b, j ≠ (StepValue.bytes b).toJson) →
    o'.result = some (.json j)
  lookalike : ∀ b, o.result = some (.json (StepValue.bytes b).toJson) → o'.result = some (.bytes b)

theorem StepOutcome.readBack_back (o : StepOutcome) : o.ReadBack o.back where
  step := rfl
  timeTaken := rfl
  error := rfl
  absent h := by rw [back, h]; rfl
  bytes b h := by
    have hb := StepValue.ofJson_toJson_bytes b
    rw [back, h, Option.bind_some, valueBack, hb]; rfl
  json j h hn hb := by
    have hj : j.isNull = false := by
      cases j <;> first | rfl | exact absurd rfl hn
    rw [back, h, Option.bind_some, valueBack, StepValue.toJson, hj,
      (StepValue.ofJson_eq_json_iff j).mpr hb]
    rfl
  lookalike b h := by
    have hb := StepValue.ofJson_toJson_bytes b
    rw [back, h, Option.bind_some, valueBack, StepValue.toJson, hb]; rfl

/-- What a caller finds in a report that was written and read back. -/
structure FlowReport.ReadBack (r r' : FlowReport) : Prop where
  success : r'.success = r.success
  results : List.Forall₂ StepOutcome.ReadBack r.results r'.results

theorem FlowReport.readBack_back (r : FlowReport) : r.ReadBack r.back where
  success := rfl
  results := by
    rw [back, List.forall₂_map_right_iff, List.forall₂_same]
    exact fun o _ => o.readBack_back

namespace Interpreter

open Engine

variable {i : Interpreter} {request : FlowRequest} {log : Log} {report : FlowReport}

/-- In the report of a run of steps that were read, no null stands where it would be taken for
nothing. -/
theorem plain_of_run (hp : ∀ s ∈ request.steps, ∃ d, Step.read d = .ok s)
    (hv : Grammar.validate request.steps = .ok ()) (hr : Ends (i.run request) log (.ok report)) :
    ∀ o ∈ report.results, o.Plain := by
  rcases ends_run hv hr with ⟨e, -, he⟩ | ⟨session, _, middle, report', _, _, _, _, -, -, hm, he⟩
  · cases he
  · obtain rfl := Except.ok.inj he
    intro o ho
    obtain ⟨k, hk⟩ := List.getElem?_of_mem ho
    obtain ⟨past, t, -, ⟨rest, hs⟩, _, _, _, _, -, -, ho⟩ :=
      ((exec_runSteps_iff i session _ middle report).mp hm).starts hk
    obtain ⟨d, hd⟩ := hp o.step (by rw [hs.steps_eq]; simp)
    refine ⟨Step.placeholder_ne_null hd, fun b hb => ?_⟩
    generalize o.step = step at ho
    cases ho with
    | passed produced taken => cases hb
    | failed e taken timestamp =>
      obtain rfl := Option.some.inj hb
      exact ErrorBody.details_ofError_ne_null _ _

section Samples

def scripting : Step := .ofAction .executeScript (.obj [("script", .str "x")])

theorem ends_scripting (j : Json) : ∃ expression limit,
    Ends ((standard .default).run ⟨[navigating, scripting]⟩)
      (Pool.firstAcquire ++ [⟨.now, (0 : Instant)⟩,
        ⟨.goto ⟨2⟩ "u" .load (.ofSeconds 5.0), .ok ()⟩, ⟨.now, (0 : Instant)⟩,
        ⟨.now, (0 : Instant)⟩, ⟨.evaluateWithin ⟨2⟩ expression limit, some (.ok j)⟩,
        ⟨.now, (0 : Instant)⟩] ++ Pool.releaseCalls Pool.firstSession false true (.ok ()) true)
      (.ok ⟨true, [⟨navigating, secondsBetween 0 0, none, none⟩,
        ⟨scripting, secondsBetween 0 0, some (.json j), none⟩]⟩) :=
  ⟨_, _, by repeat (first | exact .done _ | refine .ask _ ?_)⟩

theorem parsed_scripting : ∀ s ∈ [navigating, scripting], ∃ d, Step.read d = .ok s := by
  intro s hs
  refine ⟨.value s.toJson, Step.read_toJson ?_⟩
  rcases List.mem_cons.mp hs with rfl | hs
  · nofun
  · obtain rfl := List.mem_singleton.mp hs
    nofun

theorem scripting_back (j : Json) : ∃ log report back,
    Ends ((standard .default).run ⟨[navigating, scripting]⟩) log (.ok report) ∧
    FlowReport.read (.value report.toJson) = .ok back ∧
    report.results.map StepOutcome.result = [none, some (.json j)] ∧
    back.results.map StepOutcome.result = [none, StepOutcome.valueBack (.json j)] := by
  obtain ⟨_, _, hr⟩ := ends_scripting j
  exact ⟨_, _, _, hr, FlowReport.read_toJson (plain_of_run parsed_scripting rfl hr), rfl, rfl⟩

def leapDay : Moment := ⟨2024, 2, 29, 23, 59, 60, 10 ^ 6⟩

theorem valid_leapDay : leapDay.Valid := by
  constructor <;> decide

def keeping (report : FlowReport) : FlowResultRecord :=
  ⟨.ofNat 1, some (.ofNat 2), "ann", leapDay, report⟩

end Samples

/-- The report of a run of accepted steps that were read from JSON can be read back, alone or in a
record, whatever the calls answered. The outcomes are the same, and so are their results, but for
captured JSON that is just what bytes are written as: it is read as the bytes. -/
theorem report_read_back (hp : ∀ s ∈ request.steps, ∃ d, Step.read d = .ok s)
    (hv : Grammar.validate request.steps = .ok ()) (hr : Ends (i.run request) log (.ok report)) :
    ∃ back, FlowReport.read (.value report.toJson) = .ok back ∧ report.ReadBack back ∧
      ∀ record : FlowResultRecord, record.report = report → record.createdAt.Valid →
        FlowResultRecord.read (.value record.toJson) = .ok { record with report := back } := by
  have h := plain_of_run hp hv hr
  refine ⟨report.back, FlowReport.read_toJson h, report.readBack_back, ?_⟩
  rintro record rfl hc
  exact FlowResultRecord.read_toJson hc h

theorem report_read_back_of_script :
    (∀ s ∈ [navigating, scripting], ∃ d, Step.read d = .ok s) ∧
    Grammar.validate [navigating, scripting] = .ok () ∧ ∃ log report back,
      Ends ((standard .default).run ⟨[navigating, scripting]⟩) log (.ok report) ∧
      FlowReport.read (.value report.toJson) = .ok back ∧
      back.results.map StepOutcome.result = [none, some (.json (.bool true))] ∧
      FlowResultRecord.read (.value (keeping report).toJson) = .ok (keeping back) := by
  obtain ⟨_, _, hr⟩ := ends_scripting (.bool true)
  obtain ⟨⟨success, results⟩, hb, ⟨-, ho⟩, hk⟩ := report_read_back parsed_scripting rfl hr
  refine ⟨parsed_scripting, rfl, _, _, _, hr, hb, ?_, hk (keeping _) rfl valid_leapDay⟩
  cases ho with
  | cons h₁ ho =>
    cases ho with
    | cons h₂ ho =>
      cases ho
      rw [List.map_cons, List.map_cons, h₁.absent rfl, h₂.json _ rfl nofun nofun]
      rfl

/-- A script may return what bytes are written as, and then bytes come back in its place; of a null
nothing comes back. -/
theorem report_not_read_back :
    (∀ s ∈ [navigating, scripting], ∃ d, Step.read d = .ok s) ∧
    Grammar.validate [navigating, scripting] = .ok () ∧
    (∃ log report back,
      Ends ((standard .default).run ⟨[navigating, scripting]⟩) log (.ok report) ∧
      FlowReport.read (.value report.toJson) = .ok back ∧
      report.results.map StepOutcome.result =
        [none, some (.json (.obj [("data", .arr [.int 1]), ("type", .str "Buffer")]))] ∧
      back.results.map StepOutcome.result = [none, some (.bytes [1])]) ∧
    ∃ log report back,
      Ends ((standard .default).run ⟨[navigating, scripting]⟩) log (.ok report) ∧
      FlowReport.read (.value report.toJson) = .ok back ∧
      report.results.map StepOutcome.result = [none, some (.json .null)] ∧
      back.results.map StepOutcome.result = [none, none] := by
  exact ⟨parsed_scripting, rfl, scripting_back _, scripting_back .null⟩

end Interpreter
end PageFlow
