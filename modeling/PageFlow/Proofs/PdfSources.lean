import PageFlow.Proofs.Downloads

/-! Which PDF a step names. Its data is a source alone, or a source among its options beside the
word whether to use the address. The first of the two shapes that fits is taken, and a source alone
does not mind other fields. So a step that says not to use the address is refused only if it does
not give one in its own fields; with one it is downloaded all the same. -/
namespace PageFlow

open Engine Json

namespace Json

section Fields

variable {key : String} {read : Doc → Read τ} {fields : List (String × Json)} {v : τ}

theorem build_field_given_iff : (field key read).build (given fields) = .ok v ↔
    ∃ j, fields.lookup key = some j ∧ read (.value j) = .ok v := by
  constructor
  · intro h
    simp only [field, given] at h
    cases hk : fields.lookup key with
    | none => rw [hk] at h; cases h
    | some j => rw [hk] at h; exact ⟨j, rfl, h⟩
  · rintro ⟨j, hk, hv⟩
    exact build_field (by rw [given, hk]; rfl) hv

theorem build_fieldOr_given_iff {default : τ} :
    (fieldOr key read default).build (given fields) = .ok v ↔
      (∃ j, fields.lookup key = some j ∧ read (.value j) = .ok v) ∨
        fields.lookup key = none ∧ v = default := by
  constructor
  · intro h
    rcases read_or_default h with ⟨d, hd, hv⟩ | ⟨hd, hv⟩
    · obtain ⟨j, hj, rfl⟩ := Option.map_eq_some_iff.mp hd
      exact Or.inl ⟨j, hj, hv⟩
    · exact Or.inr ⟨Option.map_eq_none_iff.mp hd, hv⟩
  · rintro (⟨j, hj, hv⟩ | ⟨hj, rfl⟩)
    · exact build_fieldOr (by rw [given, hj]; rfl) hv
    · exact build_fieldOr_none (by rw [given, hj]; rfl)

theorem string_value_iff {j : Json} {s : String} : string (.value j) = .ok s ↔ j = .str s := by
  constructor
  · intro h
    cases j with
    | str t => rw [Except.ok.inj h]
    | _ => cases h
  · rintro rfl
    rfl

theorem boolean_value_iff {j : Json} {b : Bool} : boolean (.value j) = .ok b ↔ j = .bool b := by
  constructor
  · intro h
    cases j with
    | bool t => rw [Except.ok.inj h]
    | _ => cases h
  · rintro rfl
    rfl

theorem build_fieldOr_json_given_iff {default j : Json} :
    (fieldOr key Doc.json default).build (given fields) = .ok j ↔
      j = (fields.lookup key).getD default := by
  have hbuilt : (fieldOr key Doc.json default).build (given fields) =
      .ok ((fields.lookup key).getD default) := by
    cases hk : fields.lookup key with
    | none => exact build_fieldOr_none (by rw [given, hk]; rfl)
    | some j => exact build_fieldOr (by rw [given, hk]; rfl) rfl
  rw [hbuilt]
  exact ⟨fun h => (Except.ok.inj h).symm, fun h => by rw [h]⟩

theorem named_obj_iff (name : String) {f : Fields τ} (hf : f.Lawful)
    (hn : (fields.map Prod.fst).Nodup) :
    named name f (.value (.obj fields)) = .ok v ↔ f.build (given fields) = .ok v :=
  -- A record that is an object has no other reading than this.
  ⟨@build_of_record τ f fields v name, @record_of_build τ f fields v name hf hn⟩

/-- The second reading is tried only if the first does not fit. -/
theorem anyOf_pair_iff {name : String} {first second : Doc → Read τ} {d : Doc} :
    anyOf name [first, second] d = .ok v ↔
      first d = .ok v ∨ (∀ w, first d ≠ .ok w) ∧ second d = .ok v := by
  simp only [anyOf]
  cases first d with
  | ok w => simp
  | error flaw => cases second d <;> simp

theorem anyOf_error {name : String} {readings : List (Doc → Read τ)} {d : Doc} {flaw : Flaw}
    (h : anyOf name readings d = .error flaw) : flaw = .noVariant name := by
  induction readings with
  | nil => exact (Except.error.inj h).symm
  | cons read rest ih =>
    rw [anyOf] at h
    split at h
    · cases h
    · exact ih h

end Fields
end Json

namespace PdfSource

variable {fields : List (String × Json)} {s : PdfSource}

theorem read_obj_iff (hn : (fields.map Prod.fst).Nodup) :
    PdfSource.read (.value (.obj fields)) = .ok s ↔ fields.lookup "url" = some (.str s.url) ∧
      s.extract = (fields.lookup "extract").getD .null := by
  constructor
  · intro h
    obtain ⟨_, extract, hmade, hextract, rfl⟩ := Fields.build_seq_iff.mp (build_of_record h)
    obtain ⟨url, hurl, rfl⟩ := Fields.build_map_iff.mp hmade
    obtain ⟨j, hj, hstring⟩ := build_field_given_iff.mp hurl
    obtain rfl := string_value_iff.mp hstring
    exact ⟨hj, build_fieldOr_json_given_iff.mp hextract⟩
  · rintro ⟨hurl, hextract⟩
    refine record_of_build (Fields.lawful_seq (Fields.lawful_map (lawful_field _ _))
      (lawful_fieldOr _ _ _)) hn ?_
    exact Fields.build_seq
      (Fields.build_map (build_field_given_iff.mpr ⟨_, hurl, string_value s.url⟩))
      (build_fieldOr_json_given_iff.mpr hextract)

end PdfSource

namespace ExtractPdfParams

variable {fields : List (String × Json)}

/-- The source among the options of an object. -/
def InOptions (fields : List (String × Json)) (s : PdfSource) : Prop :=
  ∃ options, fields.lookup "options" = some options ∧ PdfSource.read (.value options) = .ok s

/-- What an object with options says of using the address. -/
def Says (fields : List (String × Json)) (usingUrl : Bool) : Prop :=
  fields.lookup "usingUrl" = some (.bool usingUrl) ∨
    fields.lookup "usingUrl" = none ∧ usingUrl = true

/-- The two shapes of an object: only one without an address of its own is read by its options. -/
inductive Shaped (fields : List (String × Json)) : ExtractPdfParams → Prop
  | direct {url} : fields.lookup "url" = some (.str url) →
      Shaped fields (.direct ⟨url, (fields.lookup "extract").getD .null⟩)
  | wrapped {usingUrl s} : (∀ url, fields.lookup "url" ≠ some (.str url)) → Says fields usingUrl →
      InOptions fields s → Shaped fields (.wrapped usingUrl s)

theorem build_wrapped_iff {p : ExtractPdfParams} :
    (ExtractPdfParams.wrapped <$> fieldOr "usingUrl" boolean true <*>
      field "options" PdfSource.read).build (given fields) = .ok p ↔
      ∃ usingUrl s, Says fields usingUrl ∧ InOptions fields s ∧ p = .wrapped usingUrl s := by
  simp only [Fields.build_seq_iff, Fields.build_map_iff, build_field_given_iff,
    build_fieldOr_given_iff, boolean_value_iff, exists_eq_right]
  constructor
  · rintro ⟨_, s, ⟨usingUrl, hu, rfl⟩, hs, rfl⟩
    exact ⟨usingUrl, s, hu, hs, rfl⟩
  · rintro ⟨usingUrl, s, hu, hs, rfl⟩
    exact ⟨_, s, ⟨usingUrl, hu, rfl⟩, hs, rfl⟩

theorem read_obj_iff (hn : (fields.map Prod.fst).Nodup) {p : ExtractPdfParams} :
    ExtractPdfParams.read (.value (.obj fields)) = .ok p ↔ Shaped fields p := by
  have halone (s : PdfSource) := PdfSource.read_obj_iff (s := s) hn
  have hlawful : (ExtractPdfParams.wrapped <$> fieldOr "usingUrl" boolean true <*>
      field "options" PdfSource.read).Lawful :=
    Fields.lawful_seq (Fields.lawful_map (lawful_fieldOr _ _ _)) (lawful_field _ _)
  rw [ExtractPdfParams.read, anyOf_pair_iff, named_obj_iff _ hlawful hn, build_wrapped_iff]
  simp only [ne_eq, Read.map_eq_ok_iff, halone]
  constructor
  · rintro (⟨⟨url, extract⟩, ⟨hurl, rfl⟩, rfl⟩ | ⟨hno, usingUrl, s, hu, hs, rfl⟩)
    · exact .direct hurl
    · exact .wrapped (fun url hurl => hno _ ⟨⟨url, _⟩, ⟨hurl, rfl⟩, rfl⟩) hu hs
  · intro h
    cases h with
    | direct hurl => exact Or.inl ⟨_, ⟨hurl, rfl⟩, rfl⟩
    | wrapped hurl hu hs =>
      refine Or.inr ⟨?_, _, _, hu, hs, rfl⟩
      rintro _ ⟨s, ⟨hs, -⟩, -⟩
      exact hurl _ hs

/-- Why an object that says not to use the address, and gives none of its own, is no source. -/
inductive Refusal (fields : List (String × Json)) : String → Prop
  | options {s} : InOptions fields s →
      Refusal fields "only URL sources can be extracted (usingUrl must be true)"
  | neither : (∀ s, ¬ InOptions fields s) →
      Refusal fields "data did not match any variant of untagged enum ExtractPdfParams"

end ExtractPdfParams

namespace Actions

open ExtractPdfParams

section Sources

variable {extractor : Option PdfCommand} {c : Context} {fields : List (String × Json)} {log : Log}
  {r : Except FlowError (Option Pending)}

theorem params_obj_iff (hdata : c.step.data = .obj fields) (hn : (fields.map Prod.fst).Nodup)
    {p : ExtractPdfParams} : c.step.params ExtractPdfParams.read = .ok p ↔ Shaped fields p := by
  rw [← read_obj_iff hn, ← hdata, Step.params]
  cases ExtractPdfParams.read (.value c.step.data) <;> simp

theorem sourceOf_of_url (hdata : c.step.data = .obj fields) (hn : (fields.map Prod.fst).Nodup)
    {url : String} (hurl : fields.lookup "url" = some (.str url)) :
    sourceOf c = .ok ⟨url, (fields.lookup "extract").getD .null⟩ := by
  rw [sourceOf, (params_obj_iff hdata hn).mpr (.direct hurl)]
  rfl

theorem sourceOf_of_no_url (hdata : c.step.data = .obj fields) (hn : (fields.map Prod.fst).Nodup)
    (hurl : ∀ url, fields.lookup "url" ≠ some (.str url))
    (hu : fields.lookup "usingUrl" = some (.bool false)) :
    ∃ message, Refusal fields message ∧
      sourceOf c = .error (.invalidStep c.step.action message) := by
  by_cases ho : ∃ s, InOptions fields s
  · obtain ⟨s, hs⟩ := ho
    have hp := (params_obj_iff hdata hn).mpr (.wrapped hurl (Or.inl hu) hs)
    refine ⟨_, .options hs, ?_⟩
    rw [sourceOf, hp]
    rfl
  · refine ⟨_, .neither fun s hs => ho ⟨s, hs⟩, ?_⟩
    have hread : ExtractPdfParams.read (.value c.step.data) =
        .error (.noVariant "ExtractPdfParams") := by
      cases hp : ExtractPdfParams.read (.value c.step.data) with
      | error flaw => rw [anyOf_error hp]
      | ok p =>
        rw [hdata] at hp
        cases (read_obj_iff hn).mp hp with
        | direct h => exact absurd h (hurl _)
        | wrapped _ _ hs => exact absurd ⟨_, hs⟩ ho
    rw [sourceOf, Step.params, hread]
    rfl

theorem downloading_begins (c : Context) (source : PdfSource) (answers : Nat → Answer HttpResponse)
    (n : Nat) : ∃ rest, downloading c source answers n =
      ⟨.fetch c.session.api (downloadOf c source), answers 0⟩ :: rest := by
  cases n with
  | zero => exact ⟨[], rfl⟩
  | succ n => exact ⟨_, by rw [downloading, spelled_succ]; rfl⟩

theorem Gets.begins {source : PdfSource} {command : PdfCommand} (h : Gets c source command log r) :
    ∃ answer rest, log = ⟨.fetch c.session.api (downloadOf c source), answer⟩ :: rest := by
  cases h with
  | @lost answers n =>
    obtain ⟨rest, hrest⟩ := downloading_begins c source answers n
    exact ⟨_, _, hrest⟩
  | @treated answers n =>
    obtain ⟨rest, hrest⟩ := downloading_begins c source answers n
    rw [hrest]
    exact ⟨_, _, rfl⟩

/-- A download can go somehow: no request need ever be answered by a response. -/
theorem exists_gets (c : Context) (source : PdfSource) (command : PdfCommand) :
    ∃ log r, Gets c source command log r := by
  let answers : Nat → Answer HttpResponse := fun _ => .error (.http "")
  have hlast : IsLeast {j | j = c.config.httpRetry.retries ∨ Welcome (answers j)}
      c.config.httpRetry.retries :=
    ⟨Or.inl rfl, fun j hj => (hj.resolve_right nofun).ge⟩
  exact ⟨_, _, .lost hlast rfl⟩

end Sources

/-- A step that extracts from a PDF, in the standard registry, with an object for its data that says
not to use the address. It is refused, without a call, exactly if no extractor is configured or the
object gives no address of its own. The refusal finds fault with the data: that only addresses can
be used, if there is a source among the options, or that it has neither shape. With an address of
its own and an extractor, the step goes as the download of that address does, and begins with the
request for it. -/
theorem disabled_source_refused_iff (extractor : Option PdfCommand) {c : Context}
    {fields : List (String × Json)} (ha : c.step.action = .extractPdf)
    (hdata : c.step.data = .obj fields) (hn : (fields.map Prod.fst).Nodup)
    (hu : fields.lookup "usingUrl" = some (.bool false)) :
    let step := (Registry.standard extractor).execute c
    ((∀ log r, Ends step log r → log = [] ∧ ∃ e, r = .error e) ↔
      extractor = none ∨ ∀ url, fields.lookup "url" ≠ some (.str url)) ∧
    ((∀ url, fields.lookup "url" ≠ some (.str url)) → ∃ message, Refusal fields message ∧
      ∀ log r, Ends step log r ↔ log = [] ∧ r = .error (.invalidStep .extractPdf message)) ∧
    ∀ url command, fields.lookup "url" = some (.str url) → extractor = some command →
      (∀ log r, Ends step log r ↔
        Gets c ⟨url, (fields.lookup "extract").getD .null⟩ command log r) ∧
      ∀ log r, Ends step log r → ∃ answer rest,
        log = ⟨.fetch c.session.api (.get url c.config.httpTimeout), answer⟩ :: rest := by
  intro step
  have hcourse (log : Log) (r : Except FlowError (Option Pending)) :
      Ends step log r ↔ Extracts extractor c log r := by
    rw [show step = _ from Executor.execute_of_action extractor ha]
    exact ends_extractPdf_iff
  have hnone : (∀ url, fields.lookup "url" ≠ some (.str url)) → ∃ message,
      Refusal fields message ∧
        ∀ log r, Ends step log r ↔ log = [] ∧ r = .error (.invalidStep .extractPdf message) := by
    intro hurl
    obtain ⟨message, hrefusal, hs⟩ := sourceOf_of_no_url hdata hn hurl hu
    rw [ha] at hs
    exact ⟨message, hrefusal, fun log r => (hcourse log r).trans (extracts_iff_of_error hs)⟩
  have hsome (url : String) (command : PdfCommand) (hurl : fields.lookup "url" = some (.str url))
      (he : extractor = some command) (log : Log) (r : Except FlowError (Option Pending)) :
      Ends step log r ↔ Gets c ⟨url, (fields.lookup "extract").getD .null⟩ command log r :=
    (hcourse log r).trans (extracts_iff_of_ok (sourceOf_of_url hdata hn hurl) he)
  refine ⟨⟨fun hrefused => ?_, fun h log r hends => ?_⟩, hnone, fun url command hurl he =>
    ⟨hsome url command hurl he, fun log r hends => ?_⟩⟩
  · by_contra hnot
    obtain ⟨hextractor, hurl⟩ := not_or.mp hnot
    simp only [ne_eq, not_forall, not_not] at hurl
    obtain ⟨url, hurl⟩ := hurl
    obtain ⟨command, he⟩ := Option.ne_none_iff_exists'.mp hextractor
    obtain ⟨log, r, hg⟩ := exists_gets c ⟨url, (fields.lookup "extract").getD .null⟩ command
    obtain ⟨answer, rest, hlog⟩ := hg.begins
    obtain ⟨hnil, -⟩ := hrefused log r ((hsome url command hurl he log r).mpr hg)
    rw [hnil] at hlog
    cases hlog
  · rcases h with rfl | hurl
    · exact ((hcourse log r).mp hends).silent (Or.inl rfl)
    · obtain ⟨message, -, hiff⟩ := hnone hurl
      obtain ⟨rfl, rfl⟩ := (hiff log r).mp hends
      exact ⟨rfl, _, rfl⟩
  · exact ((hsome url command hurl he log r).mp hends).begins

section Samples

def extracting (fields : List (String × Json)) : Context :=
  { invoicing with step := .ofAction .extractPdf (.obj fields) }

def switchedOff : List (String × Json) :=
  [("options", .obj [("url", .str "v")]), ("usingUrl", .bool false)]

def switchedOffInPart : List (String × Json) :=
  [("options", .obj [("url", .str "v")]), ("url", .str "u"), ("usingUrl", .bool false)]

end Samples

/-- A saved step is refused for what it says. -/
theorem disabled_source_refused_iff_saved :
    (extracting switchedOff).step.action = .extractPdf ∧
      (extracting switchedOff).step.data = .obj switchedOff ∧
      (switchedOff.map Prod.fst).Nodup ∧ switchedOff.lookup "usingUrl" = some (.bool false) ∧
      ∀ log r, Ends ((Registry.standard (some reader)).execute (extracting switchedOff)) log r ↔
        log = [] ∧ r = .error (.invalidStep .extractPdf
          "only URL sources can be extracted (usingUrl must be true)") := by
  obtain ⟨-, hnone, -⟩ := disabled_source_refused_iff (some reader) rfl
    (rfl : (extracting switchedOff).step.data = .obj switchedOff) (by decide) rfl
  obtain ⟨message, hrefusal, h⟩ := hnone nofun
  refine ⟨rfl, rfl, by decide, rfl, ?_⟩
  cases hrefusal with
  | options => exact h
  | neither hno => exact absurd ⟨_, rfl, rfl⟩ (hno ⟨"v", .null⟩)

/-- With an address beside its options, such a step is downloaded and read. -/
theorem disabled_source_downloaded :
    switchedOffInPart.lookup "usingUrl" = some (.bool false) ∧
    Ends ((Registry.standard (some reader)).execute (extracting switchedOffInPart))
      [⟨.fetch ⟨0⟩ (.get "u" (.ofSecs 30)), .ok ⟨200, "u", [], Text.encode "%PDF"⟩⟩,
        ⟨.newScratch, .ok 1⟩, ⟨.writeScratch 1 (Text.encode "%PDF"), .ok ()⟩,
        ⟨.runExtractor reader 1 .null, .ended (.code 0) [] []⟩, ⟨.removeScratch 1, ()⟩]
      (.ok (captured (.obj []))) := by
  refine ⟨rfl, ?_⟩
  repeat (first | exact .done _ | refine .ask _ ?_)

end Actions
end PageFlow
