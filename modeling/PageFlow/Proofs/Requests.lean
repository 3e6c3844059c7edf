import PageFlow.Proofs.ByteOrder
import PageFlow.Proofs.Records
import PageFlow.Proofs.Repetition
import PageFlow.Proofs.StepValues

/-! Steps that send a request. The request is made of the step and of the settings before the first
attempt, and every attempt sends it as it is. The first response of a status from 200 to 299 ends
the attempts, and what the step makes of it is not tried again; any other response is an error like
a lost connection. -/
namespace PageFlow

open Engine

namespace Json

/-- The entries of a map are put in place as the fields of an object are. -/
theorem putEntry_eq_insertField (key : String) (value : Json) (fields : List (String × Json)) :
    putEntry key value fields = insertField key value fields := by
  induction fields with
  | nil => rfl
  | cons f rest ih => simp only [putEntry, insertField, ih]

section Entries

variable {read : Doc → Read Json} {acc all : List (String × Json)}

theorem ordered_entriesOf {members : List (Option String × Doc)} (ho : Ordered acc)
    (h : entriesOf read members acc = .ok all) : Ordered all := by
  induction members generalizing acc with
  | nil =>
    obtain rfl := Except.ok.inj h
    exact ho
  | cons m rest ih =>
    obtain ⟨key, d⟩ := m
    cases key with
    | none => cases h
    | some key =>
      obtain ⟨value, -, h⟩ := Read.bind_eq_ok h
      rw [putEntry_eq_insertField] at h
      exact ih (ho.insertField key value) h

theorem ordered_entries {d : Doc} (h : entries read d = .ok all) : Ordered all := by
  unfold entries at h
  split at h
  · exact ordered_entriesOf List.Pairwise.nil h
  · cases h

theorem entries_json (fields : List (String × Json)) :
    entries Doc.json (.value (.obj fields)) = .ok (extendFields [] fields) := by
  have h (acc : List (String × Json)) : entriesOf Doc.json (members fields) acc =
      .ok (extendFields acc fields) := by
    induction fields generalizing acc with
    | nil => rfl
    | cons f rest ih =>
      have hstep : entriesOf Doc.json (members (f :: rest)) acc =
        entriesOf Doc.json (members rest) (putEntry f.1 f.2 acc) := rfl
      rw [hstep, putEntry_eq_insertField, ih]
      rfl
  exact h []

end Entries

section Field

variable {key : String} {read : Doc → Read τ} {env : String → Option Doc} {v : τ}

theorem read_or_default {default : τ} (h : (fieldOr key read default).build env = .ok v) :
    (∃ d, env key = some d ∧ read d = .ok v) ∨ env key = none ∧ v = default := by
  simp only [fieldOr] at h
  split at h
  · rename_i d he
    exact Or.inl ⟨d, he, h⟩
  · rename_i he
    exact Or.inr ⟨he, (Except.ok.inj h).symm⟩

theorem fieldOption_json_given {fields : List (String × Json)} {o : Option Json}
    (h : (fieldOption key Doc.json).build (given fields) = .ok o) :
    o = (fields.lookup key).filter (!·.isNull) := by
  have hbuilt : (fieldOption key Doc.json).build (given fields) =
      .ok ((fields.lookup key).filter (!·.isNull)) := by
    cases hk : fields.lookup key with
    | none => exact build_fieldOr_none (by rw [given, hk]; rfl)
    | some j =>
      have hj : given fields key = some (.value j) := by rw [given, hk]; rfl
      cases j with
      | null => exact build_fieldOr hj rfl
      | _ => exact build_fieldOr hj rfl
  exact Except.ok.inj (h.symm.trans hbuilt)

end Field
end Json

theorem Step.params_ok {s : Step} {read : Json.Doc → Json.Read τ} {p : τ}
    (h : s.params read = .ok p) : read (.value s.data) = .ok p := by
  unfold Step.params at h
  split at h
  · rename_i v hv
    rwa [← Except.ok.inj h]
  · cases h

namespace RequestOptions

open Json

/-- The parameters and the data are read from fields of their own. -/
structure Built (o : RequestOptions) (env : String → Option Doc) : Prop where
  params : (fieldOr "params" (entries Doc.json) []).build env = .ok o.params
  data : (fieldOption "data" Doc.json).build env = .ok o.data

theorem built_of_build {o : RequestOptions} {env : String → Option Doc}
    (h : (RequestOptions.mk <$> fieldOr "headers" (entries string) []
      <*> fieldOr "params" (entries Doc.json) [] <*> fieldOption "data" Doc.json
      <*> fieldOption "timeout" double <*> fieldOption "retries" word32
      <*> fieldOr "returnJson" boolean false).build env = .ok o) : o.Built env := by
  obtain ⟨_, returnJson, hretries, -, rfl⟩ := Fields.build_seq_iff.mp h
  obtain ⟨_, retries, htimeout, -, rfl⟩ := Fields.build_seq_iff.mp hretries
  obtain ⟨_, timeout, hdata, -, rfl⟩ := Fields.build_seq_iff.mp htimeout
  obtain ⟨_, data, hparams, hd, rfl⟩ := Fields.build_seq_iff.mp hdata
  obtain ⟨_, params, hheaders, hp, rfl⟩ := Fields.build_seq_iff.mp hparams
  obtain ⟨headers, -, rfl⟩ := Fields.build_map_iff.mp hheaders
  exact ⟨hp, hd⟩

/-- Whatever options are read from, their parameters are in order and their data is not null. -/
structure Sound (o : RequestOptions) : Prop where
  ordered : Ordered o.params
  data_ne_null : o.data ≠ some .null

theorem sound_none : RequestOptions.none.Sound := ⟨List.Pairwise.nil, nofun⟩

theorem sound_of_read {o : RequestOptions} {d : Doc} (h : read d = .ok o) : o.Sound := by
  obtain ⟨env, h⟩ := exists_build h
  obtain ⟨hparams, hdata⟩ := built_of_build h
  refine ⟨?_, fieldOption_json_ne_null hdata⟩
  rcases read_or_default hparams with ⟨d, -, hd⟩ | ⟨-, hd⟩
  · exact ordered_entries hd
  · rw [hd]
    exact List.Pairwise.nil

/-- What the fields of an object of options stand for. -/
structure Given (o : RequestOptions) (fields : List (String × Json)) : Prop where
  params : ∀ ps, fields.lookup "params" = some (.obj ps) → .obj o.params = Json.object ps
  params_none : fields.lookup "params" = .none → o.params = []
  data : o.data = (fields.lookup "data").filter (!·.isNull)

theorem given_of_read {o : RequestOptions} {fields : List (String × Json)}
    (h : read (.value (.obj fields)) = .ok o) : o.Given fields := by
  obtain ⟨hparams, hdata⟩ := built_of_build (build_of_record h)
  refine ⟨fun ps hps => ?_, fun hn => ?_, fieldOption_json_given hdata⟩
  · rw [build_fieldOr (by rw [given, hps]; rfl) (entries_json ps)] at hparams
    rw [← Except.ok.inj hparams, Json.object]
  · rw [build_fieldOr_none (by rw [given, hn]; rfl)] at hparams
    exact (Except.ok.inj hparams).symm

end RequestOptions

namespace HttpParams

open Json

theorem options_sound {p : HttpParams} {d : Doc} (h : read d = .ok p) : p.options.Sound := by
  obtain ⟨env, hb⟩ := exists_build h
  obtain ⟨_, options, hurl, hoptions, rfl⟩ := Fields.build_seq_iff.mp hb
  obtain ⟨url, -, rfl⟩ := Fields.build_map_iff.mp hurl
  rcases read_or_default hoptions with ⟨d, -, hd⟩ | ⟨-, hd⟩
  · exact RequestOptions.sound_of_read hd
  · rw [hd]
    exact RequestOptions.sound_none

theorem options_given {p : HttpParams} {fields options : List (String × Json)}
    (h : read (.value (.obj fields)) = .ok p) (ho : fields.lookup "options" = some (.obj options)) :
    p.options.Given options := by
  obtain ⟨_, o, hurl, hoptions, rfl⟩ := Fields.build_seq_iff.mp (build_of_record h)
  obtain ⟨url, -, rfl⟩ := Fields.build_map_iff.mp hurl
  rcases read_or_default hoptions with ⟨d, hg, hd⟩ | ⟨hg, -⟩
  · obtain rfl : .value (.obj options) = d := by
      rw [given, ho] at hg
      exact Option.some.inj hg
    exact RequestOptions.given_of_read hd
  · rw [given, ho] at hg
    cases hg

end HttpParams

namespace Actions

def requestMethod : Action → Option HttpMethod
  | .httpGet => some .get
  | .httpPost => some .post
  | _ => none

inductive Carried : String × Json → String × String → Prop
  | text (name s) : Carried (name, .str s) (name, s)
  | other {name value} : (∀ s, value ≠ .str s) → Carried (name, value) (name, value.compact)

/-- What a step asks for, and what it leaves to the settings. -/
structure Requested (config : EngineConfig) (method : HttpMethod) (p : HttpParams)
    (request : HttpRequest) : Prop where
  method_eq : request.method = method
  url_eq : request.url = p.url
  headers_eq : request.headers = p.options.headers
  query : List.Forall₂ Carried p.options.params request.query
  inOrder : request.query.Pairwise fun q q' => Text.encode q.1 < Text.encode q'.1
  bodyOfGet : method = .get → request.body = none
  bodyOfPost : method = .post → request.body = p.options.data ∧ request.body ≠ some .null
  ownTimeout : ∀ seconds, p.options.timeout = some seconds → request.timeout = .ofSeconds seconds
  standardTimeout : p.options.timeout = none → request.timeout = config.httpTimeout

theorem carried_queryValue (q : String × Json) : Carried q (q.1, queryValue q.2) := by
  obtain ⟨name, value⟩ := q
  cases value with
  | str s => exact .text name s
  | _ => exact .other nofun

theorem requested_requestOf (config : EngineConfig) (method : HttpMethod) {p : HttpParams}
    (hp : p.options.Sound) : Requested config method p (requestOf config method p) where
  method_eq := rfl
  url_eq := rfl
  headers_eq := rfl
  query := List.forall₂_map_right_iff.mpr (List.forall₂_same.mpr fun q _ => carried_queryValue q)
  inOrder := List.pairwise_map.mpr (hp.ordered.imp Text.encode_lt)
  bodyOfGet := by
    rintro rfl
    rfl
  bodyOfPost := by
    rintro rfl
    exact ⟨rfl, hp.data_ne_null⟩
  ownTimeout seconds h := by simp only [requestOf, h, Option.map_some, Option.getD_some]
  standardTimeout h := by simp only [requestOf, h, Option.map_none, Option.getD_none]

/-- An answer that ends the attempts: a response of a status from 200 to 299. -/
def Welcome (answer : Answer HttpResponse) : Prop :=
  ∃ response, answer = .ok response ∧ 200 ≤ response.status ∧ response.status < 300

def judged (request : HttpRequest) (response : HttpResponse) : Except FlowError HttpResponse :=
  if response.isSuccess then .ok response
  else .error (.http (request.title ++ " returned status " ++ toString response.status))

def sent (api : ApiContext) (request : HttpRequest) (answer : Answer HttpResponse) :
    Try HttpResponse := ⟨[⟨.fetch api request, answer⟩], answer.bind (judged request)⟩

/-- What the step comes to by the answer to its last attempt. -/
inductive Produces (request : HttpRequest) (policy : RetryPolicy) (returnJson : Bool) :
    Answer HttpResponse → Except FlowError (Option Pending) → Prop
  | whole {response} : Welcome (.ok response) → returnJson = false →
      Produces request policy returnJson (.ok response) (.ok (captured response.toJson))
  | parsed {response j} : Welcome (.ok response) → returnJson = true →
      Json.parseBytes? response.body = some j →
      Produces request policy returnJson (.ok response) (.ok (captured j))
  | notJson {response} : Welcome (.ok response) → returnJson = true →
      Json.parseBytes? response.body = none →
      Produces request policy returnJson (.ok response)
        (.error (.http
          (request.title ++ " did not return JSON: " ++ Json.complaint response.body)))
  | refused {response} : ¬ Welcome (.ok response) →
      Produces request policy returnJson (.ok response)
        (.error (.retryExhausted request.title (min (policy.retries + 1) (2 ^ 32 - 1))
          (.http (request.title ++ " returned status " ++ toString response.status))))
  | lost {e} : Produces request policy returnJson (.error e)
      (.error (.retryExhausted request.title (min (policy.retries + 1) (2 ^ 32 - 1)) e))

section Requests

variable {request : HttpRequest} {policy : RetryPolicy} {returnJson : Bool}
  {answer : Answer HttpResponse} {log : Log} {r : Except FlowError (Option Pending)}

theorem welcome_ok_iff (response : HttpResponse) :
    Welcome (.ok response) ↔ response.isSuccess = true := by
  simp [Welcome, HttpResponse.isSuccess]

theorem isOk_bind_judged_iff : (answer.bind (judged request)).isOk = true ↔ Welcome answer := by
  cases answer with
  | error e => exact ⟨nofun, nofun⟩
  | ok response =>
    rw [welcome_ok_iff]
    change (judged request response).isOk = true ↔ _
    unfold judged
    split <;> simp_all [Except.isOk, Except.toBool]

theorem made_fetchOnce_iff {api : ApiContext} {j : Nat} {t : Try HttpResponse} :
    t.Made (fun _ => fetchOnce api request) j ↔ ∃ answer, t = sent api request answer := by
  have hjudge : fetchOnce api request =
      (fetch api request >>= fun response => ofAnswer (judged request response)) := by
    refine bind_congr fun response => ?_
    unfold judged
    split <;> rfl
  obtain ⟨calls, result⟩ := t
  rw [Try.Made, hjudge, ends_then_answer_iff]
  constructor
  · rintro ⟨o, ho, rfl⟩
    obtain ⟨_, rfl, rfl⟩ := (ends_answer_iff rfl _).mp ho
    exact ⟨_, rfl⟩
  · rintro ⟨answer, h⟩
    obtain ⟨rfl, rfl⟩ := Try.mk.inj h
    exact ⟨answer, (ends_answer_iff rfl _).mpr ⟨answer, rfl, rfl⟩, rfl⟩

theorem judged_of_welcome {response : HttpResponse} (h : Welcome (.ok response)) :
    judged request response = .ok response := if_pos ((welcome_ok_iff response).mp h)

theorem judged_of_not_welcome {response : HttpResponse} (h : ¬ Welcome (.ok response)) :
    judged request response =
      .error (.http (request.title ++ " returned status " ++ toString response.status)) :=
  if_neg (mt (welcome_ok_iff response).mpr h)

theorem responseValue_parsed {response : HttpResponse} {j : Json}
    (h : Json.parseBytes? response.body = some j) :
    responseValue request true response = .ok j := by
  simp only [responseValue, h, if_true]

theorem responseValue_notJson {response : HttpResponse}
    (h : Json.parseBytes? response.body = none) : responseValue request true response =
      .error (.http
        (request.title ++ " did not return JSON: " ++ Json.complaint response.body)) := by
  simp only [responseValue, h, if_true]

def outcomeOf (request : HttpRequest) (policy : RetryPolicy) (returnJson : Bool)
    (answer : Answer HttpResponse) : Except FlowError (Option Pending) :=
  ((answer.bind (judged request)).mapError (exhausted request.title policy)).bind
    fun response => (responseValue request returnJson response).map captured

theorem Produces.eq_outcomeOf (h : Produces request policy returnJson answer r) :
    r = outcomeOf request policy returnJson answer := by
  have hwelcome {response : HttpResponse} (hw : Welcome (.ok response)) :
      outcomeOf request policy returnJson (.ok response) =
        (responseValue request returnJson response).map captured := by
    change ((judged request response).mapError _).bind _ = _
    rw [judged_of_welcome hw]
    rfl
  cases h with
  | whole hw hj =>
    rw [hwelcome hw, hj]
    rfl
  | parsed hw hj hb =>
    rw [hwelcome hw, hj, responseValue_parsed hb]
    rfl
  | notJson hw hj hb =>
    rw [hwelcome hw, hj, responseValue_notJson hb]
    rfl
  | refused hw =>
    change _ = ((judged request _).mapError _).bind _
    rw [judged_of_not_welcome hw]
    rfl
  | lost => rfl

theorem exists_produces (request : HttpRequest) (policy : RetryPolicy) (returnJson : Bool)
    (answer : Answer HttpResponse) : ∃ r, Produces request policy returnJson answer r := by
  cases answer with
  | error e => exact ⟨_, .lost⟩
  | ok response =>
    by_cases hw : Welcome (.ok response)
    · cases hj : returnJson with
      | false => exact ⟨_, .whole hw rfl⟩
      | true =>
        cases hb : Json.parseBytes? response.body with
        | some j => exact ⟨_, .parsed hw rfl hb⟩
        | none => exact ⟨_, .notJson hw rfl hb⟩
    · exact ⟨_, .refused hw⟩

theorem produces_iff : Produces request policy returnJson answer r ↔
    r = outcomeOf request policy returnJson answer := by
  constructor
  · exact Produces.eq_outcomeOf
  · rintro rfl
    obtain ⟨r, h⟩ := exists_produces request policy returnJson answer
    rwa [← h.eq_outcomeOf]

theorem ends_fetchWithRetry_iff {api : ApiContext} {r : Except FlowError HttpResponse} :
    Ends (fetchWithRetry api request policy) log r ↔
      ∃ (answers : Nat → Answer HttpResponse) (n : Nat),
        IsLeast {j | j = policy.retries ∨ Welcome (answers j)} n ∧
          log = spelled policy (fun j => sent api request (answers j)) 0 n ∧
            r = ((answers n).bind (judged request)).mapError (exhausted request.title policy) := by
  have hstops (answers : Nat → Answer HttpResponse) (n : Nat) :
      Stops (fun j => sent api request (answers j)) 0 policy.retries n ↔
        IsLeast {j | j = policy.retries ∨ Welcome (answers j)} n := by
    simp only [Stops, Nat.zero_add, sent, isOk_bind_judged_iff]
  rw [fetchWithRetry]
  simp only [ends_withRetryNamed_iff, ends_withRetry_iff_of_answers fun _ _ => made_fetchOnce_iff,
    hstops]
  constructor
  · rintro ⟨_, ⟨answers, n, hn, rfl, rfl⟩, rfl⟩
    exact ⟨answers, n, hn, rfl, rfl⟩
  · rintro ⟨answers, n, hn, rfl, rfl⟩
    exact ⟨_, ⟨answers, n, hn, rfl, rfl⟩, rfl⟩

theorem ends_request_iff {api : ApiContext} :
    Ends (fetchWithRetry api request policy >>= fun response =>
      ofAnswer ((responseValue request returnJson response).map captured)) log r ↔
      ∃ (answers : Nat → Answer HttpResponse) (n : Nat),
        IsLeast {j | j = policy.retries ∨ Welcome (answers j)} n ∧
          log = spelled policy (fun j => sent api request (answers j)) 0 n ∧
            Produces request policy returnJson (answers n) r := by
  simp only [ends_then_answer_iff, ends_fetchWithRetry_iff, produces_iff]
  constructor
  · rintro ⟨_, ⟨answers, n, hn, rfl, rfl⟩, rfl⟩
    exact ⟨answers, n, hn, rfl, rfl⟩
  · rintro ⟨answers, n, hn, rfl, rfl⟩
    exact ⟨_, ⟨answers, n, hn, rfl, rfl⟩, rfl⟩

theorem execute_request (extractor : Option PdfCommand) {c : Context} {method : HttpMethod}
    {p : HttpParams} (ha : requestMethod c.step.action = some method)
    (hp : c.step.params HttpParams.read = .ok p) :
    let request := requestOf c.config method p
    let policy := c.config.httpRetry.withRetries (p.options.retries.getD c.config.httpRetry.retries)
    (Registry.standard extractor).execute c =
      (fetchWithRetry c.session.api request policy >>= fun response =>
        ofAnswer ((responseValue request p.options.returnJson response).map captured)) := by
  intro request policy
  have haction : (Registry.standard extractor).execute c = httpRequest method c := by
    rw [Executor.execute_of_action extractor rfl]
    cases hact : c.step.action <;> rw [hact] at ha <;> cases ha <;> rfl
  have hrequest : httpRequest method c = (fetchWithRetry c.session.api request policy >>=
      fun response => ofAnswer (responseValue request p.options.returnJson response) >>=
        fun j => pure (captured j)) := by
    rw [httpRequest, Context.params, hp]
    rfl
  rw [haction, hrequest]
  -- The value of a response is made without a call, so the last two parts are one answer.
  refine bind_congr fun response => ?_
  cases responseValue request p.options.returnJson response <;> rfl

/-- A step that sends a request, in the standard registry and with any answers. Its request is what
the step asks for, with what it leaves to the settings, and nothing of it changes from one attempt
to the next. The attempts end with the first response of a status from 200 to 299, or with the last
that the policy allows. What the step comes to is told by the answer to the last attempt: a welcome
response whole or as the JSON in its body, of which a failure is not repeated; otherwise that all
attempts have failed, the last of them so. So it goes for any sequence of answers, and with every
driver the step comes to its end. Where the options stand in an object, the parameters are the
object of their fields, and data that is null is none. -/
theorem request_repeated_until_welcome (extractor : Option PdfCommand) {c : Context}
    {method : HttpMethod} {p : HttpParams} (ha : requestMethod c.step.action = some method)
    (hp : c.step.params HttpParams.read = .ok p) :
    let step := (Registry.standard extractor).execute c
    let request := requestOf c.config method p
    let policy := c.config.httpRetry.withRetries (p.options.retries.getD c.config.httpRetry.retries)
    let calls := fun (answers : Nat → Answer HttpResponse) =>
      spelled policy (fun j => sent c.session.api request (answers j)) 0
    Requested c.config method p request ∧
    (∀ log r, Ends step log r ↔ ∃ (answers : Nat → Answer HttpResponse) (n : Nat),
      IsLeast {j | j = policy.retries ∨ Welcome (answers j)} n ∧ log = calls answers n ∧
        Produces request policy p.options.returnJson (answers n) r) ∧
    (∀ answers : Nat → Answer HttpResponse, ∃ n ≤ policy.retries,
      IsLeast {j | j = policy.retries ∨ Welcome (answers j)} n ∧ ∃ r,
        Produces request policy p.options.returnJson (answers n) r ∧
          Ends step (calls answers n) r) ∧
    (∀ (d : Driver) (start : Nat), ∃ time log r,
      Ends step log r ∧ time 0 = start ∧ d.Drives time [] log) ∧
    ∀ fields options, c.step.data = .obj fields →
      fields.lookup "options" = some (.obj options) → p.options.Given options := by
  intro step request policy calls
  have hread : HttpParams.read (.value c.step.data) = .ok p := Step.params_ok hp
  have hends (log : Log) (r : Except FlowError (Option Pending)) : Ends step log r ↔
      ∃ (answers : Nat → Answer HttpResponse) (n : Nat),
        IsLeast {j | j = policy.retries ∨ Welcome (answers j)} n ∧ log = calls answers n ∧
          Produces request policy p.options.returnJson (answers n) r := by
    rw [show step = _ from execute_request extractor ha hp]
    exact ends_request_iff
  refine ⟨requested_requestOf c.config method (HttpParams.options_sound hread), hends,
    fun answers => ?_, fun d start => ?_, fun fields options hfields hoptions => ?_⟩
  · classical
    have hlast := Nat.isLeast_find (p := fun j => j = policy.retries ∨ Welcome (answers j))
      ⟨policy.retries, Or.inl rfl⟩
    obtain ⟨r, hr⟩ := exists_produces request policy p.options.returnJson (answers _)
    exact ⟨_, hlast.2 (Or.inl rfl), hlast, r, hr, (hends _ _).mpr ⟨answers, _, hlast, rfl, hr⟩⟩
  · exact d.exists_ends step start
  · rw [hfields] at hread
    exact HttpParams.options_given hread hoptions

end Requests

section Samples

def searching : Context where
  session := ⟨0, ⟨0⟩, ⟨0⟩⟩
  step := .ofAction .httpGet (.obj [("url", .str "u"), ("options", .obj
    [("params", .obj [("q", .str "a b"), ("n", .arr [.int 1])]), ("retries", .int 1),
      ("returnJson", .bool true)])])
  prev := .empty
  selection := .empty
  config := .default

def searchRequest : HttpRequest :=
  ⟨.get, "u", [], [("n", "[1]"), ("q", "a b")], none, .ofSecs 30⟩

def searchAnswer (status : Nat) : Answer HttpResponse :=
  .ok ⟨status, "u", [], Text.encode "[1]"⟩

def searchCalls : Log :=
  [⟨.fetch ⟨0⟩ searchRequest, searchAnswer 503⟩, ⟨.sleep (.ofSecs 1), ()⟩,
    ⟨.fetch ⟨0⟩ searchRequest, searchAnswer 200⟩]

end Samples

/-- Two fetches of one request, and the JSON in the second response. -/
theorem request_repeated_until_welcome_search :
    requestMethod searching.step.action = some .get ∧ ∃ p,
      searching.step.params HttpParams.read = .ok p ∧
      Requested searching.config .get p searchRequest ∧
      ∃ (answers : Nat → Answer HttpResponse) (n : Nat),
        IsLeast {j | j = 1 ∨ Welcome (answers j)} n ∧ searchCalls =
          spelled (searching.config.httpRetry.withRetries 1)
            (fun j => sent ⟨0⟩ searchRequest (answers j)) 0 n ∧
        Produces searchRequest (searching.config.httpRetry.withRetries 1) true (answers n)
          (.ok (captured (.arr [.int 1]))) := by
  have h : Ends ((Registry.standard none).execute searching) searchCalls
      (.ok (captured (.arr [.int 1]))) := by
    repeat (first | exact .done _ | refine .ask _ ?_)
  have hp : searching.step.params HttpParams.read =
      .ok ⟨"u", ⟨[], [("n", .arr [.int 1]), ("q", .str "a b")], none, none, some 1, true⟩⟩ := rfl
  have hstep := @request_repeated_until_welcome none searching .get _ rfl hp
  exact ⟨rfl, _, hp, hstep.1, (hstep.2.1 _ _).mp h⟩

end Actions
end PageFlow
