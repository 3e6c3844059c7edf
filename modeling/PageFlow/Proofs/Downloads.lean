import PageFlow.Proofs.Hosting
import PageFlow.Proofs.Requests

/-! Steps that extract data from a PDF. Whatever is amiss with the step itself or with the settings
shows before the first call. Then come the requests; only a welcome response is followed by work on
files, and that work removes the scratch directory on every way out. So the download directory is
what it was, and the extractor is run at most once, on a file that holds the body of the last
response. -/
namespace PageFlow

open Engine

/-- What the download directory holds: its scratch directories by their numbers, and of each what
is in its file. -/
abbrev Downloads := Nat → Option Bytes

namespace Downloads

/-- A scratch directory may have another content now, but it is there exactly if it was before. -/
def Refilled (d : Downloads) (scratch : Nat) (d' : Downloads) : Prop :=
  ∃ held, held.isSome = (d scratch).isSome ∧ d' = Function.update d scratch held

/-- What a call can do to the directory. A file that could not be written may hold anything, and so
may one that the extractor was called with. -/
def Becomes (d : Downloads) : Exchange → Downloads → Prop
  | ⟨.newScratch, .ok scratch⟩, d' => d' = Function.update d scratch (some [])
  | ⟨.writeScratch scratch content, .ok _⟩, d' => d' = Function.update d scratch (some content)
  | ⟨.writeScratch scratch _, .error _⟩, d' => d.Refilled scratch d'
  | ⟨.runExtractor _ scratch _, _⟩, d' => d.Refilled scratch d'
  | ⟨.removeScratch scratch, _⟩, d' => d' = Function.update d scratch none
  | _, d' => d' = d

/-- What the calls of a log can do to the directory, one after the other. -/
def Through : Downloads → Log → Downloads → Prop
  | d, [], d' => d' = d
  | d, x :: rest, d' => ∃ between, d.Becomes x between ∧ Through between rest d'

/-- Every new scratch directory gets a name that is not taken. -/
def Fresh (d : Downloads) (log : Log) : Prop :=
  ∀ scratch, ⟨.newScratch, .ok scratch⟩ ∈ log → d scratch = none

/-- The call leaves the directory alone. -/
def Apart (x : Exchange) : Prop := ∀ d d' : Downloads, d.Becomes x d' ↔ d' = d

variable {d d' : Downloads} {log first second : Log} {scratch : Nat}

theorem through_append_iff :
    d.Through (first ++ second) d' ↔ ∃ between, d.Through first between ∧
      between.Through second d' := by
  induction first generalizing d with
  | nil => simp [Through]
  | cons x rest ih =>
    simp only [List.cons_append, Through, ih]
    constructor
    · rintro ⟨m, hx, between, hr, hs⟩; exact ⟨between, ⟨m, hx, hr⟩, hs⟩
    · rintro ⟨between, ⟨m, hx, hr⟩, hs⟩; exact ⟨m, hx, between, hr, hs⟩

theorem through_of_apart (h : ∀ x ∈ log, Apart x) : d.Through log d' ↔ d' = d := by
  induction log with
  | nil => exact Iff.rfl
  | cons x rest ih =>
    obtain ⟨hx, hr⟩ := List.forall_mem_cons.mp h
    simp only [Through, hx d, exists_eq_left, ih hr]

theorem refilled_filled_iff {held : Bytes} :
    Refilled (Function.update d scratch (some held)) scratch d' ↔
      ∃ held', d' = Function.update d scratch (some held') := by
  simp only [Refilled, Function.update_self, Option.isSome_some, Function.update_idem]
  constructor
  · rintro ⟨o, ho, rfl⟩
    obtain ⟨held', rfl⟩ := Option.isSome_iff_exists.mp ho
    exact ⟨held', rfl⟩
  · rintro ⟨held', rfl⟩
    exact ⟨some held', rfl, rfl⟩

theorem removed_filled_iff (h : d scratch = none) :
    (∃ between, (∃ held, between = Function.update d scratch (some held)) ∧
      d' = Function.update between scratch none) ↔ d' = d := by
  have hremoved (held : Bytes) :
      Function.update (Function.update d scratch (some held)) scratch none = d := by
    rw [Function.update_idem, ← h, Function.update_eq_self]
  constructor
  · rintro ⟨_, ⟨held, rfl⟩, rfl⟩
    exact hremoved held
  · rintro rfl
    exact ⟨_, ⟨[], rfl⟩, (hremoved []).symm⟩

theorem fresh_append_right (h : d.Fresh (first ++ second)) : d.Fresh second :=
  fun scratch hm => h scratch (List.mem_append_right first hm)

end Downloads

namespace Actions

open Downloads (Apart)

/-- The source that the data of a step names, or why the step is refused. -/
def sourceOf (c : Context) : Except FlowError PdfSource :=
  (c.step.params ExtractPdfParams.read).bind fun p =>
    match p.source with
    | some source => .ok source
    | none => .error (.invalidStep c.step.action
        "only URL sources can be extracted (usingUrl must be true)")

def downloadOf (c : Context) (source : PdfSource) : HttpRequest :=
  .get source.url c.config.httpTimeout

def downloading (c : Context) (source : PdfSource) (answers : Nat → Answer HttpResponse) (n : Nat) :
    Log :=
  spelled c.config.httpRetry (fun j => sent c.session.api (downloadOf c source) (answers j)) 0 n

/-- The work on downloaded bytes: there is no scratch directory for them, or they cannot be written,
or the extractor is run on them. -/
inductive Treats (command : PdfCommand) (selection : Json) (body : Bytes) :
    Log → Except FlowError Json → Prop
  | noDirectory (e) : Treats command selection body [⟨.newScratch, .error e⟩] (.error e)
  | notWritten (scratch e) : Treats command selection body
      [⟨.newScratch, .ok scratch⟩, ⟨.writeScratch scratch body, .error e⟩,
        ⟨.removeScratch scratch, ()⟩] (.error e)
  | run (scratch ended) : Treats command selection body
      [⟨.newScratch, .ok scratch⟩, ⟨.writeScratch scratch body, .ok ()⟩,
        ⟨.runExtractor command scratch selection, ended⟩, ⟨.removeScratch scratch, ()⟩]
      (Pdf.result command ended)

/-- How the download of a source and the work on it can go: no response is welcome, or the last one is
and its body is worked on. -/
inductive Gets (c : Context) (source : PdfSource) (command : PdfCommand) :
    Log → Except FlowError (Option Pending) → Prop
  | lost {answers n e} : IsLeast {j | j = c.config.httpRetry.retries ∨ Welcome (answers j)} n →
      (answers n).bind (judged (downloadOf c source)) = .error e →
      Gets c source command (downloading c source answers n)
        (.error (exhausted (downloadOf c source).title c.config.httpRetry e))
  | treated {answers n response log r} :
      IsLeast {j | j = c.config.httpRetry.retries ∨ Welcome (answers j)} n →
      answers n = .ok response → Welcome (.ok response) →
      Treats command source.extract response.body log r →
      Gets c source command (downloading c source answers n ++ log) (r.map captured)

/-- How a step that extracts from a PDF can go. -/
inductive Extracts (extractor : Option PdfCommand) (c : Context) :
    Log → Except FlowError (Option Pending) → Prop
  | refused {e} : sourceOf c = .error e → Extracts extractor c [] (.error e)
  | noExtractor {source} : sourceOf c = .ok source → extractor = none →
      Extracts extractor c [] (.error (.pdf "no PDF extractor is configured"))
  | gets {source command log r} : sourceOf c = .ok source → extractor = some command →
      Gets c source command log r → Extracts extractor c log r

/-- A run of the extractor among the calls of a log: what it is called with, how it ends, and the
calls before and after it. -/
structure Extraction where
  before : Log
  command : PdfCommand
  scratch : Nat
  selection : Json
  ended : ProcessEnd
  after : Log

def Idle (log : Log) : Prop :=
  ∀ x ∈ log, ∀ command scratch selection, x.op ≠ .runExtractor command scratch selection

namespace Extraction

def call (e : Extraction) : Exchange := ⟨.runExtractor e.command e.scratch e.selection, e.ended⟩

def In (e : Extraction) (log : Log) : Prop := log = e.before ++ e.call :: e.after

/-- After these calls the file in the scratch directory is a response to the request for the source:
a welcome one, and there was no request after it. -/
structure Downloaded (c : Context) (source : PdfSource) (response : HttpResponse) (before : Log)
    (scratch : Nat) : Prop where
  welcome : Welcome (.ok response)
  last : ∃ earlier later, (∀ x ∈ later, ∀ api request, x.op ≠ .fetch api request) ∧
    before = earlier ++ ⟨.fetch c.session.api (downloadOf c source), .ok response⟩ :: later
  held : ∀ d d' : Downloads, d.Through before d' → d' scratch = some response.body

/-- The extractor is run as it should be: it is the configured one, it is run once, with the
selection of the step and on the file that was downloaded. -/
structure Due (extractor : Option PdfCommand) (c : Context) (e : Extraction) : Prop where
  configured : extractor = some e.command
  once : Idle (e.before ++ e.after)
  downloaded : ∃ source response, sourceOf c = .ok source ∧ e.selection = source.extract ∧
    Downloaded c source response e.before e.scratch

end Extraction

section Courses

variable {extractor : Option PdfCommand} {c : Context} {log : Log}

theorem ends_extractIn_iff {command : PdfCommand} {source : PdfSource} {body : Bytes}
    {scratch : Nat} {r : Except FlowError Json} : Ends (extractIn command source body scratch) log r ↔
      (∃ e, log = [⟨.writeScratch scratch body, .error e⟩] ∧ r = .error e) ∨
      ∃ ended, log = [⟨.writeScratch scratch body, .ok ()⟩,
        ⟨.runExtractor command scratch source.extract, ended⟩] ∧ r = Pdf.result command ended := by
  constructor
  · intro h
    obtain ⟨written, rest, rfl, hwritten⟩ := (ends_answer_bind_iff rfl _ _).mp h
    cases written with
    | error e =>
      obtain ⟨rfl, rfl⟩ := (ends_throw_iff _ _).mp hwritten
      exact Or.inl ⟨e, rfl, rfl⟩
    | ok _ =>
      obtain ⟨ended, rest', rfl, hended⟩ := (ends_call_bind_iff _ _ _).mp hwritten
      obtain ⟨rfl, rfl⟩ := (ends_ofAnswer_iff _ _).mp hended
      exact Or.inr ⟨ended, rfl, rfl⟩
  · rintro (⟨e, rfl, rfl⟩ | ⟨ended, rfl, rfl⟩)
    · exact .ask _ (.done _)
    · exact .ask _ (.ask _ (.done _))

theorem ends_inScratch_iff {command : PdfCommand} {source : PdfSource} {body : Bytes}
    {r : Except FlowError Json} : Ends (inScratch (extractIn command source body)) log r ↔
      Treats command source.extract body log r := by
  constructor
  · intro h
    obtain ⟨made, rest, rfl, hmade⟩ := (ends_answer_bind_iff rfl _ _).mp h
    cases made with
    | error e =>
      obtain ⟨rfl, rfl⟩ := (ends_throw_iff _ _).mp hmade
      exact .noDirectory e
    | ok scratch =>
      obtain ⟨work, o, second, rfl, hwork, hremove⟩ := (ends_lift_bind_iff _ _ _).mp hmade
      obtain ⟨removed, third, rfl, hresult⟩ := (ends_call_bind_iff _ _ _).mp hremove
      obtain ⟨rfl, rfl⟩ := (ends_ofAnswer_iff _ _).mp hresult
      rcases ends_extractIn_iff.mp hwork with ⟨e, rfl, rfl⟩ | ⟨ended, rfl, rfl⟩
      · exact .notWritten scratch e
      · exact .run scratch ended
  · intro h
    cases h with
    | noDirectory e => exact .ask _ (.done _)
    | notWritten scratch e => exact .ask _ (.ask _ (.ask _ (.done _)))
    | run scratch ended => exact .ask _ (.ask _ (.ask _ (.ask _ (.done _))))

theorem bind_judged_eq_ok_iff {request : HttpRequest} {answer : Answer HttpResponse}
    {response : HttpResponse} : answer.bind (judged request) = .ok response ↔
      answer = .ok response ∧ Welcome (.ok response) := by
  constructor
  · intro h
    obtain ⟨response', rfl, hstatus⟩ : Welcome answer :=
      isOk_bind_judged_iff.mp (by rw [h]; rfl)
    have hjudged : judged request response' = .ok response' :=
      judged_of_welcome ⟨response', rfl, hstatus⟩
    obtain rfl : response' = response := Except.ok.inj (hjudged.symm.trans h)
    exact ⟨rfl, _, rfl, hstatus⟩
  · rintro ⟨rfl, hw⟩
    exact judged_of_welcome hw

theorem ends_download_iff {command : PdfCommand} {source : PdfSource}
    {r : Except FlowError (Option Pending)} :
    Ends (fetchWithRetry c.session.api (downloadOf c source) c.config.httpRetry >>= fun response =>
      inScratch (extractIn command source response.body) >>= fun extracted =>
        pure (captured extracted)) log r ↔ Gets c source command log r := by
  constructor
  · intro h
    rcases (ends_bind_iff _ _ _).mp h with ⟨e, rfl, hfetch⟩ |
      ⟨first, response, second, rfl, hfetch, htreat⟩
    · obtain ⟨answers, n, hn, rfl, hresult⟩ := ends_fetchWithRetry_iff.mp hfetch
      cases hj : (answers n).bind (judged (downloadOf c source)) with
      | ok response => rw [hj] at hresult; cases hresult
      | error e' =>
        rw [hj] at hresult
        obtain rfl := Except.error.inj hresult
        exact .lost hn hj
    · obtain ⟨answers, n, hn, rfl, hresult⟩ := ends_fetchWithRetry_iff.mp hfetch
      obtain ⟨o, ho, rfl⟩ := ends_map_iff.mp htreat
      cases hj : (answers n).bind (judged (downloadOf c source)) with
      | error e' => rw [hj] at hresult; cases hresult
      | ok response' =>
        rw [hj] at hresult
        obtain rfl := Except.ok.inj hresult
        obtain ⟨hanswer, hw⟩ := bind_judged_eq_ok_iff.mp hj
        exact .treated hn hanswer hw (ends_inScratch_iff.mp ho)
  · intro h
    cases h with
    | lost hn hj =>
      refine (ends_bind_iff _ _ _).mpr (Or.inl ⟨_, rfl, ?_⟩)
      exact ends_fetchWithRetry_iff.mpr ⟨_, _, hn, rfl, by rw [hj]; rfl⟩
    | treated hn hanswer hw htreats =>
      have hj := (@bind_judged_eq_ok_iff (downloadOf c source) _ _).mpr ⟨hanswer, hw⟩
      refine Ends.bind (ends_fetchWithRetry_iff.mpr ⟨_, _, hn, rfl, by rw [hj]; rfl⟩) ?_
      exact ends_map_iff.mpr ⟨_, ends_inScratch_iff.mpr htreats, rfl⟩

theorem extractPdf_eq : extractPdf extractor c = (ofAnswer (sourceOf c) >>= fun source =>
    match extractor with
    | none => throw (.pdf "no PDF extractor is configured")
    | some command => fetchWithRetry c.session.api (downloadOf c source) c.config.httpRetry >>=
        fun response => inScratch (extractIn command source response.body) >>=
          fun extracted => pure (captured extracted)) := by
  rw [extractPdf, Context.params, sourceOf]
  cases c.step.params ExtractPdfParams.read with
  | error e => rfl
  | ok p =>
    cases p with
    | direct source => rfl
    | wrapped usingUrl source => cases usingUrl <;> rfl

/-- A step that extracts from a PDF makes these calls and no others. -/
theorem ends_extractPdf_iff {r : Except FlowError (Option Pending)} :
    Ends (extractPdf extractor c) log r ↔ Extracts extractor c log r := by
  rw [extractPdf_eq]
  constructor
  · intro h
    cases hs : sourceOf c with
    | error e =>
      rw [hs] at h
      obtain ⟨rfl, rfl⟩ := (ends_throw_iff e _).mp h
      exact .refused hs
    | ok source =>
      rw [hs] at h
      cases extractor with
      | none =>
        obtain ⟨rfl, rfl⟩ := (ends_throw_iff _ _).mp h
        exact .noExtractor hs rfl
      | some command => exact .gets hs rfl (ends_download_iff.mp h)
  · intro h
    cases h with
    | refused hs =>
      rw [hs]
      exact .done _
    | noExtractor hs he =>
      rw [hs, he]
      exact .done _
    | gets hs he hg =>
      rw [hs, he]
      exact ends_download_iff.mpr hg

theorem extracts_iff_of_error {r : Except FlowError (Option Pending)} {e : FlowError}
    (hs : sourceOf c = .error e) :
    Extracts extractor c log r ↔ log = [] ∧ r = .error e := by
  constructor
  · intro h
    cases h with
    | refused hs' => rw [Except.error.inj (hs.symm.trans hs')]; exact ⟨rfl, rfl⟩
    | noExtractor hs' => cases hs.symm.trans hs'
    | gets hs' => cases hs.symm.trans hs'
  · rintro ⟨rfl, rfl⟩
    exact .refused hs

theorem extracts_iff_of_ok {r : Except FlowError (Option Pending)} {source : PdfSource}
    {command : PdfCommand} (hs : sourceOf c = .ok source) (he : extractor = some command) :
    Extracts extractor c log r ↔ Gets c source command log r := by
  constructor
  · intro h
    cases h with
    | refused hs' => cases hs.symm.trans hs'
    | noExtractor _ he' => cases he.symm.trans he'
    | gets hs' he' hg =>
      rwa [Except.ok.inj (hs.symm.trans hs'), Option.some.inj (he.symm.trans he')]
  · exact .gets hs he

end Courses

section Files

variable {command : PdfCommand} {selection : Json} {body : Bytes} {c : Context} {source : PdfSource}
  {answers : Nat → Answer HttpResponse} {n : Nat} {d d' : Downloads} {log : Log}

theorem downloading_eq (c : Context) (source : PdfSource) (answers : Nat → Answer HttpResponse)
    (n : Nat) : ∃ earlier : Log, downloading c source answers n =
      earlier ++ [⟨.fetch c.session.api (downloadOf c source), answers n⟩] ∧
    ∀ x ∈ earlier, (∃ answer, x = ⟨.fetch c.session.api (downloadOf c source), answer⟩) ∨
      ∃ wait, x = ⟨.sleep wait, ()⟩ := by
  refine ⟨_, by rw [downloading, spelled, Nat.zero_add]; rfl, fun x hx => ?_⟩
  obtain ⟨j, -, hj⟩ := List.mem_flatMap.mp hx
  rcases List.mem_append.mp hj with hj | hj
  · exact Or.inl ⟨_, List.mem_singleton.mp hj⟩
  · exact Or.inr ⟨_, List.mem_singleton.mp hj⟩

theorem apart_downloading : ∀ x ∈ downloading c source answers n, Apart x := by
  obtain ⟨earlier, heq, hearlier⟩ := downloading_eq c source answers n
  rw [heq]
  intro x hx
  rcases List.mem_append.mp hx with hx | hx
  · rcases hearlier x hx with ⟨answer, rfl⟩ | ⟨wait, rfl⟩
    · exact fun _ _ => Iff.rfl
    · exact fun _ _ => Iff.rfl
  · rw [List.mem_singleton.mp hx]
    exact fun _ _ => Iff.rfl

/-- Once the bytes are written, the file holds them. -/
theorem held_when_written {scratch : Nat} {d d' : Downloads}
    (h : d.Through [⟨.newScratch, .ok scratch⟩, ⟨.writeScratch scratch body, .ok ()⟩] d') :
    d' scratch = some body := by
  obtain ⟨_, -, _, rfl, rfl⟩ := h
  exact Function.update_self _ _ _

theorem Treats.through_iff {r : Except FlowError Json} (h : Treats command selection body log r)
    (hf : d.Fresh log) : d.Through log d' ↔ d' = d := by
  cases h with
  | noDirectory e => exact Downloads.through_of_apart (by simp [Apart, Downloads.Becomes])
  | notWritten scratch e =>
    have hfree : d scratch = none := hf scratch List.mem_cons_self
    simp only [Downloads.Through, Downloads.Becomes, exists_eq_left,
      Downloads.refilled_filled_iff, Downloads.removed_filled_iff hfree]
  | run scratch ended =>
    have hfree : d scratch = none := hf scratch List.mem_cons_self
    simp only [Downloads.Through, Downloads.Becomes, exists_eq_left, Function.update_idem,
      Downloads.refilled_filled_iff, Downloads.removed_filled_iff hfree]

theorem Extracts.through_iff {extractor : Option PdfCommand}
    {r : Except FlowError (Option Pending)} (h : Extracts extractor c log r) (hf : d.Fresh log) :
    d.Through log d' ↔ d' = d := by
  cases h with
  | refused => exact Iff.rfl
  | noExtractor => exact Iff.rfl
  | gets _ _ hg =>
    cases hg with
    | lost => exact Downloads.through_of_apart apart_downloading
    | treated _ _ _ ht =>
      simp only [Downloads.through_append_iff, Downloads.through_of_apart apart_downloading,
        exists_eq_left, ht.through_iff (Downloads.fresh_append_right hf)]

theorem idle_append {first second : Log} (hf : Idle first) (hs : Idle second) :
    Idle (first ++ second) := List.forall_mem_append.mpr ⟨hf, hs⟩

theorem Idle.call_notMem (h : Idle log) (e : Extraction) : e.call ∉ log :=
  fun hm => h _ hm _ _ _ rfl

theorem idle_downloading : Idle (downloading c source answers n) := by
  obtain ⟨earlier, heq, hearlier⟩ := downloading_eq c source answers n
  rw [heq]
  refine idle_append (fun x hx => ?_) (by simp [Idle])
  rcases hearlier x hx with ⟨answer, rfl⟩ | ⟨wait, rfl⟩
  · exact nofun
  · exact nofun

/-- Where the extractor is run: between the writing of the file and the removal of the directory. -/
theorem Treats.extraction {r : Except FlowError Json} {first : Log} {e : Extraction}
    (h : Treats command selection body log r) (hfirst : Idle first) (he : e.In (first ++ log)) :
    e.command = command ∧ e.selection = selection ∧
      e.before = first ++ [⟨.newScratch, .ok e.scratch⟩, ⟨.writeScratch e.scratch body, .ok ()⟩] ∧
      e.after = [⟨.removeScratch e.scratch, ()⟩] := by
  have hmem : e.call ∈ first ++ log := by
    rw [he]
    exact List.mem_append_right _ List.mem_cons_self
  cases h with
  | noDirectory => exact absurd hmem ((idle_append hfirst (by simp [Idle])).call_notMem e)
  | notWritten => exact absurd hmem ((idle_append hfirst (by simp [Idle])).call_notMem e)
  | run scratch ended =>
    have hbefore : Idle (first ++
        [⟨.newScratch, .ok scratch⟩, ⟨.writeScratch scratch body, .ok ()⟩]) :=
      idle_append hfirst (by simp [Idle])
    have hafter : Idle [⟨.removeScratch scratch, ()⟩] := by simp [Idle]
    have hsplit : (first ++ [⟨.newScratch, .ok scratch⟩, ⟨.writeScratch scratch body, .ok ()⟩]) ++
        ⟨.runExtractor command scratch selection, ended⟩ :: [⟨.removeScratch scratch, ()⟩] =
          e.before ++ e.call :: e.after := by
      rw [← he, List.append_assoc]
      rfl
    obtain ⟨hb, hc, hr⟩ := (List.append_cons_inj_of_notMem (hbefore.call_notMem e)
      (hafter.call_notMem e)).mp hsplit
    cases hc
    exact ⟨rfl, rfl, hb.symm, hr.symm⟩

theorem Extracts.due {extractor : Option PdfCommand} {r : Except FlowError (Option Pending)}
    {e : Extraction} (h : Extracts extractor c log r) (he : e.In log) : e.Due extractor c := by
  cases h with
  | refused => simp [Extraction.In] at he
  | noExtractor => simp [Extraction.In] at he
  | gets hs hc hg =>
    cases hg with
    | lost =>
      have hmem : e.call ∈ e.before ++ e.call :: e.after :=
        List.mem_append_right _ List.mem_cons_self
      exact absurd (he ▸ hmem) (idle_downloading.call_notMem e)
    | @treated answers n _ _ _ _ hanswer hw ht =>
      obtain ⟨hcommand, hselection, hbefore, hafter⟩ := ht.extraction idle_downloading he
      refine ⟨hcommand ▸ hc, ?_, _, _, hs, hselection, hw, ?_, fun d d' hd => ?_⟩
      · rw [hbefore, hafter]
        exact idle_append (idle_append idle_downloading (by simp [Idle])) (by simp [Idle])
      · obtain ⟨earlier, heq, -⟩ := downloading_eq c _ answers n
        rw [hbefore, heq, hanswer, List.append_assoc, List.singleton_append]
        exact ⟨earlier, _, by simp, rfl⟩
      · rw [hbefore, Downloads.through_append_iff] at hd
        obtain ⟨between, -, hd⟩ := hd
        exact held_when_written hd

theorem Extracts.silent {extractor : Option PdfCommand} {r : Except FlowError (Option Pending)}
    (h : Extracts extractor c log r)
    (hn : extractor = none ∨ ∀ source, sourceOf c ≠ .ok source) : log = [] ∧ ∃ e, r = .error e := by
  cases h with
  | refused => exact ⟨rfl, _, rfl⟩
  | noExtractor => exact ⟨rfl, _, rfl⟩
  | gets hs hc =>
    rcases hn with hn | hn
    · cases hn.symm.trans hc
    · exact absurd hs (hn _)

end Files
end Actions

namespace Host

def directory (h : Host) : Downloads := fun scratch => h.scratch.lookup scratch

/-- Numbers that are still to be given to scratch directories are not taken. -/
def Tidy (h : Host) : Prop := ∀ scratch, h.scratchCount < scratch → h.directory scratch = none

section Directories

variable {h h' : Host} {x : Exchange} {log : Log}

theorem lookup_cons_eq_update (scratch : Nat) (content : Bytes) (held : List (Nat × Bytes)) :
    (((scratch, content) :: held).lookup ·) =
      Function.update (held.lookup ·) scratch (some content) := by
  funext m
  by_cases hm : m = scratch
  · simp [hm]
  · simp [List.lookup_cons, beq_eq_false_iff_ne.mpr hm, Function.update_of_ne hm]

theorem lookup_filter_eq_update (scratch : Nat) (held : List (Nat × Bytes)) :
    ((held.filter fun s => s.1 ≠ scratch).lookup ·) =
      Function.update (held.lookup ·) scratch none := by
  induction held with
  | nil => simp
  | cons s rest ih =>
    rw [lookup_cons_eq_update s.1 s.2 rest]
    by_cases hs : s.1 = scratch
    · rw [List.filter_cons_of_neg (by simpa using hs), ih, hs, Function.update_idem]
    · rw [List.filter_cons_of_pos (by simpa using hs), lookup_cons_eq_update s.1 s.2, ih,
        Function.update_comm hs]

theorem Serves.becomes (hs : Serves h x h') : h.directory.Becomes x h'.directory := by
  obtain ⟨op, r⟩ := x
  obtain ⟨rfl, hr⟩ := hs
  cases op with
  | newScratch =>
    obtain rfl : r = .ok (h.scratchCount + 1) := hr _ rfl
    exact lookup_cons_eq_update _ _ _
  | writeScratch scratch content =>
    obtain rfl : r = .ok () := hr _ rfl
    refine (lookup_cons_eq_update _ _ _).trans ?_
    rw [lookup_filter_eq_update, Function.update_idem]
    rfl
  | removeScratch scratch => exact lookup_filter_eq_update _ _
  | runExtractor command scratch selection =>
    exact ⟨_, rfl, (Function.update_eq_self _ _).symm⟩
  | _ => rfl

theorem Plays.through (hp : Plays Eq h log h') : h.directory.Through log h'.directory := by
  induction hp with
  | nil h => rfl
  | cons ho hs _ ih =>
    subst ho
    exact ⟨_, hs.becomes, ih⟩

theorem Serves.scratchCount_le (hs : Serves h x h') : h.scratchCount ≤ h'.scratchCount := by
  obtain ⟨op, r⟩ := x
  rw [hs.1]
  cases op <;> simp [absorb, answer?]

theorem Plays.scratchCount_lt (hp : Plays Eq h log h') {scratch : Nat}
    (hm : ⟨.newScratch, .ok scratch⟩ ∈ log) : h.scratchCount < scratch := by
  induction hp with
  | nil => cases hm
  | cons ho hs _ ih =>
    subst ho
    rcases List.mem_cons.mp hm with rfl | hm
    · have hnumber : (.ok scratch : Answer Nat) = .ok (_ + 1) := hs.2 _ rfl
      rw [Except.ok.inj hnumber]
      exact Nat.lt_succ_self _
    · exact Nat.lt_of_le_of_lt hs.scratchCount_le (ih hm)

theorem Plays.fresh (hp : Plays Eq h log h') (ht : h.Tidy) : h.directory.Fresh log :=
  fun scratch hm => ht scratch (hp.scratchCount_lt hm)

theorem tidy_start : start.Tidy := fun _ _ => rfl

theorem Plays.scratchCount_le (hp : Plays Eq h log h') : h.scratchCount ≤ h'.scratchCount := by
  induction hp with
  | nil => exact Nat.le_refl _
  | cons ho hs _ ih =>
    subst ho
    exact Nat.le_trans hs.scratchCount_le ih

theorem Plays.tidy (hp : Plays Eq h log h') (ht : h.Tidy) (hd : h'.directory = h.directory) :
    h'.Tidy := by
  intro scratch hlt
  rw [hd]
  exact ht scratch (Nat.lt_of_le_of_lt hp.scratchCount_le hlt)

end Directories
end Host

namespace Actions

/-- A step that extracts from a PDF, in the standard registry and with any answers. With fresh names
for its scratch directories, the download directory is at the end what it was: no scratch directory
is left, and no other one is touched. The extractor is run as it should be, if it is run. A step
that is refused, or for which no extractor is configured, fails without a call. And on every host
that gives fresh names the step comes to its end, whatever the driver does, with the directories of
the host as before, and the host still gives fresh names. -/
theorem downloads_restored (extractor : Option PdfCommand) {c : Context}
    (ha : c.step.action = .extractPdf) :
    let step := (Registry.standard extractor).execute c
    (∀ log r, Ends step log r →
      (∀ d d' : Downloads, d.Fresh log → (d.Through log d' ↔ d' = d)) ∧
      (∀ e : Extraction, e.In log → e.Due extractor c) ∧
      (extractor = none ∨ (∀ source, sourceOf c ≠ .ok source) →
        log = [] ∧ ∃ e, r = .error e)) ∧
    ∀ (h : Host) (drive : Prog.Behaviour Op Reply), h.Tidy → ∃ log r, Ends step log r ∧
      (h.along drive).Gives [] log ∧ h.Plays Eq log (h.after log) ∧
        (h.after log).directory = h.directory ∧ (h.after log).Tidy := by
  intro step
  have hcourse {log : Log} {r : Except FlowError (Option Pending)} (h : Ends step log r) :
      Extracts extractor c log r := by
    rw [show step = _ from Executor.execute_of_action extractor ha] at h
    exact ends_extractPdf_iff.mp h
  refine ⟨fun log r h => ?_, fun h drive ht => ?_⟩
  · exact ⟨fun d d' => (hcourse h).through_iff, fun e => (hcourse h).due, (hcourse h).silent⟩
  · obtain ⟨log, r, hlog, hg, hp⟩ := h.exists_plays drive step.run
    have hd := ((hcourse hlog).through_iff (hp.fresh ht)).mp hp.through
    exact ⟨log, r, hlog, hg, hp, hd, hp.tidy ht hd⟩

section Samples

def reader : PdfCommand := ⟨"reader", [], .ofSecs 60⟩

def invoicing : Context where
  session := ⟨0, ⟨0⟩, ⟨0⟩⟩
  step := .ofAction .extractPdf (.obj [("extract", .str "total"), ("url", .str "u")])
  prev := .empty
  selection := .empty
  config := .default

def lateReading : Extraction where
  before := [⟨.fetch ⟨0⟩ (.get "u" (.ofSecs 30)), .ok ⟨200, "u", [], Text.encode "%PDF"⟩⟩,
    ⟨.newScratch, .ok 1⟩, ⟨.writeScratch 1 (Text.encode "%PDF"), .ok ()⟩]
  command := reader
  scratch := 1
  selection := .str "total"
  ended := .late
  after := [⟨.removeScratch 1, ()⟩]

end Samples

/-- An extractor that is too late leaves nothing in the directory. -/
theorem downloads_restored_late :
    invoicing.step.action = .extractPdf ∧
      Downloads.Through (fun _ => none)
        (lateReading.before ++ lateReading.call :: lateReading.after) (fun _ => none) ∧
      lateReading.Due (some reader) invoicing ∧
      Host.start.Tidy ∧ ∀ drive, ∃ log r,
        Ends ((Registry.standard (some reader)).execute invoicing) log r ∧
          (Host.start.along drive).Gives [] log ∧
          (Host.start.after log).directory = Host.start.directory := by
  have h : Ends ((Registry.standard (some reader)).execute invoicing)
      (lateReading.before ++ lateReading.call :: lateReading.after)
      (.error (.timeout "reader to finish within 60000ms")) := by
    repeat (first | exact .done _ | refine .ask _ ?_)
  obtain ⟨hlogs, hhosts⟩ := @downloads_restored (some reader) invoicing rfl
  obtain ⟨hdirectory, hdue, -⟩ := hlogs _ _ h
  refine ⟨rfl, (hdirectory _ _ fun _ _ => rfl).mpr rfl, hdue _ rfl, Host.tidy_start, ?_⟩
  intro drive
  obtain ⟨log, r, hends, hg, -, hd, -⟩ := hhosts _ drive Host.tidy_start
  exact ⟨log, r, hends, hg, hd⟩

end Actions
end PageFlow
