import PageFlow.Engine.Pool
import PageFlow.Proofs.RemoteCalls

/-! Tabs that are opened for a page. The browser makes a target for the tab and sets it up; with
credentials for the proxy the page is prepared to give them. Each of these steps can fail once the
target is there, and then nobody asks it to close. -/
namespace PageFlow
namespace Chromium

open DevTools
open Prog (Exec)

def AskedToClose (p : Page) (log : Log) : Prop :=
  ∃ x ∈ log, x.op = .send (.page p) .closeTarget

/-- The calls for a new page that is there: its target is made, and it is set up. -/
def setUp (c : BrowserConfig) (b : Browser) (p : Page) : Log :=
  [⟨.send (.browser b) (.createTarget "about:blank"), some (.ok p)⟩,
    ⟨.send (.page p) (.viewport c.viewportWidth c.viewportHeight), some (.ok ())⟩]

/-- The calls for a new page of which the target is made, but cannot be set up. -/
def refusedSetUp (c : BrowserConfig) (b : Browser) (p : Page)
    (answer : Option (Except Fault (Returns (.viewport c.viewportWidth c.viewportHeight)))) : Log :=
  ⟨.send (.browser b) (.createTarget "about:blank"), some (.ok p)⟩ ::
    waited (.page p) (.viewport c.viewportWidth c.viewportHeight) answer

def listening (p : Page) : Log :=
  [⟨.listen p .authRequired, .ok ()⟩, ⟨.listen p .requestPaused, .ok ()⟩]

/-- How a page fails to be prepared: it cannot be listened to for one of the events, or it does not
pause its requests. -/
inductive Unprepared (p : Page) : Log → FlowError → Prop
  | unheard {f : Fault} : Unprepared p [⟨.listen p .authRequired, .error f⟩]
      (.session ("failed to listen for auth events: " ++ f.text))
  | unpaused {f : Fault} : Unprepared p
      [⟨.listen p .authRequired, .ok ()⟩, ⟨.listen p .requestPaused, .error f⟩]
      (.session ("failed to listen for paused requests: " ++ f.text))
  | disabled {answer f} : told answer = .error f →
      Unprepared p (listening p ++ waited (.page p) .enableFetch answer)
        (.session ("failed to enable fetch for proxy auth: " ++ f.text))

/-- How a page can be prepared to give the proxy credentials, which it need not be without them. -/
inductive Prepares (c : BrowserConfig) (p : Page) : Log → Engine.Answer Page → Prop
  | needless : credentials c = none → Prepares c p [] (.ok p)
  | prepared : (credentials c).isSome = true →
      Prepares c p (listening p ++ [⟨.send (.page p) .enableFetch, some (.ok ())⟩]) (.ok p)
  | failed {log e} : (credentials c).isSome = true → Unprepared p log e →
      Prepares c p log (.error e)

/-- How a page can be opened: there is no target for it, or it is not set up, or it is prepared. -/
inductive Opening (c : BrowserConfig) (b : Browser) : Log → Engine.Answer Page → Prop
  | noTarget {answer f} : told answer = .error f →
      Opening c b (waited (.browser b) (.createTarget "about:blank") answer) (openError f)
  | notSetUp {p answer f} : told answer = .error f →
      Opening c b (refusedSetUp c b p answer) (openError f)
  | setUp {p log r} : Prepares c p log r → Opening c b (setUp c b p ++ log) r

section Openings

variable {c : BrowserConfig} {b : Browser} {p : Page} {log : Log} {r : Engine.Answer Page}

theorem exec_prepareProxy_iff : Exec (prepareProxy c p) log r ↔ Prepares c p log r := by
  constructor
  · intro h
    rw [prepareProxy] at h
    split at h
    case isFalse hc =>
      obtain ⟨rfl, rfl⟩ := (Prog.exec_done_iff _ _).mp h
      exact .needless (by simpa using hc)
    case isTrue hc =>
      obtain ⟨asked, _, rfl, hasked⟩ := (Prog.exec_ask_iff _ _ _).mp h
      rcases asked with f | ⟨⟩
      · obtain ⟨rfl, rfl⟩ := (Prog.exec_done_iff _ _).mp hasked
        exact .failed hc .unheard
      obtain ⟨paused, _, rfl, hpaused⟩ := (Prog.exec_ask_iff _ _ _).mp hasked
      rcases paused with f | ⟨⟩
      · obtain ⟨rfl, rfl⟩ := (Prog.exec_done_iff _ _).mp hpaused
        exact .failed hc .unpaused
      rcases exec_call_cases.mp hpaused with ⟨answer, f, _, ht, rfl, hrest⟩ | ⟨_, _, rfl, hrest⟩
      · obtain ⟨rfl, rfl⟩ := (Prog.exec_done_iff _ _).mp hrest
        rw [List.append_nil]
        exact .failed hc (.disabled ht)
      · obtain ⟨rfl, rfl⟩ := (Prog.exec_done_iff _ _).mp hrest
        exact .prepared hc
  · intro h
    cases h with
    | needless hc =>
      rw [prepareProxy, hc]
      exact .done _
    | prepared hc =>
      rw [prepareProxy, if_pos hc]
      exact .ask _ (.ask _ (exec_call_cases.mpr (Or.inr ⟨(), [], rfl, .done _⟩)))
    | failed hc hu =>
      rw [prepareProxy, if_pos hc]
      cases hu with
      | unheard => exact .ask _ (.done _)
      | unpaused => exact .ask _ (.ask _ (.done _))
      | @disabled answer f ht =>
        refine .ask _ (.ask _ (exec_call_cases.mpr (Or.inl ⟨answer, f, [], ht, ?_, .done _⟩)))
        exact (List.append_nil _).symm

theorem exec_newPage_iff : Exec (newPage c b) log r ↔ Opening c b log r := by
  constructor
  · intro h
    obtain ⟨made, rest, rfl, hmade⟩ := exec_call_bind_iff.mp h
    cases hm : told made with
    | error f =>
      rw [hm] at hmade
      obtain ⟨rfl, rfl⟩ := (Prog.exec_done_iff _ _).mp hmade
      rw [List.append_nil]
      exact .noTarget hm
    | ok p =>
      rw [hm] at hmade
      obtain ⟨ready, rest, rfl, hready⟩ := exec_call_bind_iff.mp hmade
      rw [told_eq_ok_iff.mp hm]
      cases hr : told ready with
      | error f =>
        rw [hr] at hready
        obtain ⟨rfl, rfl⟩ := (Prog.exec_done_iff _ _).mp hready
        rw [List.append_nil]
        exact .notSetUp hr
      | ok _ =>
        rw [hr] at hready
        rw [told_eq_ok_iff.mp hr]
        exact .setUp (exec_prepareProxy_iff.mp hready)
  · intro h
    cases h with
    | @noTarget answer f ht =>
      refine exec_call_bind_iff.mpr ⟨answer, [], (List.append_nil _).symm, ?_⟩
      rw [ht]
      exact .done _
    | @notSetUp p answer f ht =>
      refine exec_call_bind_iff.mpr ⟨some (.ok p), _, rfl, ?_⟩
      refine exec_call_bind_iff.mpr ⟨answer, [], (List.append_nil _).symm, ?_⟩
      rw [ht]
      exact .done _
    | @setUp p log r hp =>
      refine exec_call_bind_iff.mpr ⟨some (.ok p), _, rfl, ?_⟩
      exact exec_call_bind_iff.mpr ⟨some (.ok ()), _, rfl, exec_prepareProxy_iff.mpr hp⟩

theorem exec_newPage_setUp_iff :
    Exec (newPage c b) (setUp c b p ++ log) r ↔ Prepares c p log r :=
  (exec_answered_iff.trans exec_answered_iff).trans exec_prepareProxy_iff

theorem prepares_error_iff {e : FlowError} :
    Prepares c p log (.error e) ↔ (credentials c).isSome = true ∧ Unprepared p log e := by
  constructor
  · intro h
    cases h with
    | failed hc hu => exact ⟨hc, hu⟩
  · rintro ⟨hc, hu⟩
    exact .failed hc hu

@[simp] theorem askedToClose_cons_iff {q : Page} {x : Exchange} : AskedToClose q (x :: log) ↔
    x.op = .send (.page q) .closeTarget ∨ AskedToClose q log := by
  simp [AskedToClose]

@[simp] theorem askedToClose_append_iff {q : Page} {first second : Log} :
    AskedToClose q (first ++ second) ↔ AskedToClose q first ∨ AskedToClose q second := by
  simp only [AskedToClose, List.mem_append, or_and_right, exists_or]

@[simp] theorem askedToClose_waited_iff {q : Page} {t : Target} {call : Call}
    {answer : Option (Except Fault (Returns call))} :
    AskedToClose q (waited t call answer) ↔ t = .page q ∧ call = .closeTarget := by
  cases answer <;> simp [AskedToClose, waited]

theorem not_askedToClose_nil (q : Page) : ¬ AskedToClose q [] := by simp [AskedToClose]

theorem not_askedToClose_setUp (q : Page) : ¬ AskedToClose q (setUp c b p) := by
  simp [setUp, not_askedToClose_nil]

theorem not_askedToClose_refusedSetUp (q : Page)
    (answer : Option (Except Fault (Returns (.viewport c.viewportWidth c.viewportHeight)))) :
    ¬ AskedToClose q (refusedSetUp c b p answer) := by
  simp [refusedSetUp]

theorem Unprepared.not_askedToClose {e : FlowError} (h : Unprepared p log e) (q : Page) :
    ¬ AskedToClose q log := by
  cases h <;> simp [listening, not_askedToClose_nil]

/-- Whatever comes of it, opening a page asks none to close. -/
theorem not_askedToClose_of_newPage (h : Exec (newPage c b) log r) (q : Page) :
    ¬ AskedToClose q log := by
  cases exec_newPage_iff.mp h with
  | noTarget => simp
  | notSetUp => exact not_askedToClose_refusedSetUp q _
  | setUp hp =>
    cases hp with
    | needless => simp [not_askedToClose_setUp]
    | prepared => simp [listening, not_askedToClose_setUp, not_askedToClose_nil]
    | failed _ hu => simp [not_askedToClose_setUp, hu.not_askedToClose]

end Openings

def refusedSession (c : BrowserConfig) (b : Browser) (p : Page) (log : Log) : Log :=
  [⟨.host .lockPool, ()⟩, ⟨.host .pooled, some b⟩, ⟨.isConnected b, true⟩] ++
    (setUp c b p ++ log) ++ [⟨.isConnected b, true⟩, ⟨.host .unlockPool, ()⟩]

theorem exec_refusedSession {c : BrowserConfig} {b : Browser} {p : Page} {log : Log} {e : FlowError}
    (hpage : Exec (newPage c b) (setUp c b p ++ log) (.error e)) :
    Exec (remote c Pool.acquire.run) (refusedSession c b p log) (.error (Pool.openError e)) := by
  refine (Prog.exec_expand_iff _ _).mpr ⟨[⟨.lockPool, ()⟩, ⟨.pooled, some b⟩,
    ⟨.isConnected b, true⟩, ⟨.newPage b, .error e⟩, ⟨.isConnected b, true⟩, ⟨.unlockPool, ()⟩],
    ?_, ?_⟩
  · repeat (first | exact .done _ | refine .ask _ ?_)
  · have hone (op : Op) (r : Reply op) : Exec (ask op) [⟨op, r⟩] r :=
      (Prog.exec_call_iff op r).mpr rfl
    refine Prog.realizes_cons_iff.mpr ⟨[⟨.host .lockPool, ()⟩], _, rfl, hone _ _, ?_⟩
    refine Prog.realizes_cons_iff.mpr ⟨[⟨.host .pooled, some b⟩], _, rfl, hone _ _, ?_⟩
    refine Prog.realizes_cons_iff.mpr ⟨[⟨.isConnected b, true⟩], _, rfl, hone _ _, ?_⟩
    refine Prog.realizes_cons_iff.mpr ⟨_, _, rfl, hpage, ?_⟩
    refine Prog.realizes_cons_iff.mpr ⟨[⟨.isConnected b, true⟩], _, rfl, hone _ _, ?_⟩
    exact Prog.realizes_cons_iff.mpr ⟨[⟨.host .unlockPool, ()⟩], _, rfl, hone _ _, .nil⟩

/-- Pages that fail to open, with any answers of the browser. Opening a page never asks one to close.
A page of which the target is made but cannot be set up fails to open, so its target is left behind,
with credentials for the proxy or without. Once the target is set up as well, the page fails to open
exactly if there are credentials and it cannot be prepared to give them: it cannot be listened to
for one of the two events, or does not pause its requests. So every target that is set up, and whose
page fails to open, is asked to close exactly if there are no credentials, as there is no such
target then. With credentials, a pool whose browser stays connected gives up the session and leaves
the target behind. -/
theorem failed_open_closes_iff (c : BrowserConfig) (b : Browser) :
    ((∀ p log e, Exec (newPage c b) (setUp c b p ++ log) (.error e) →
      AskedToClose p (setUp c b p ++ log)) ↔ credentials c = none) ∧
    (∀ p log e, Exec (newPage c b) (setUp c b p ++ log) (.error e) ↔
      (credentials c).isSome = true ∧ Unprepared p log e) ∧
    (∀ p answer f, told answer = .error f →
      Exec (newPage c b) (refusedSetUp c b p answer) (openError f)) ∧
    (∀ log r, Exec (newPage c b) log r → ∀ p, ¬ AskedToClose p log) ∧
    ∀ p log e, (credentials c).isSome = true → Unprepared p log e →
      Exec (remote c Pool.acquire.run) (refusedSession c b p log) (.error (Pool.openError e)) ∧
      ∀ q, ¬ AskedToClose q (refusedSession c b p log) := by
  have hfails (p : Page) (log : Log) (e : FlowError) :
      Exec (newPage c b) (setUp c b p ++ log) (.error e) ↔
        (credentials c).isSome = true ∧ Unprepared p log e :=
    exec_newPage_setUp_iff.trans prepares_error_iff
  refine ⟨⟨fun hcloses => ?_, fun hn p log e h => ?_⟩, hfails,
    fun p answer f ht => exec_newPage_iff.mpr (.notSetUp ht),
    fun log r h => not_askedToClose_of_newPage h, fun p log e hc hu =>
      ⟨exec_refusedSession ((hfails p log e).mpr ⟨hc, hu⟩), fun q => ?_⟩⟩
  · refine Option.not_isSome_iff_eq_none.mp fun hc => ?_
    have hfail := (hfails ⟨0⟩ _ _).mpr ⟨hc, .unheard (f := .gone)⟩
    exact not_askedToClose_of_newPage hfail _ (hcloses _ _ _ hfail)
  · obtain ⟨hc, -⟩ := (hfails p log e).mp h
    rw [hn] at hc
    cases hc
  · simp [refusedSession, not_askedToClose_setUp, not_askedToClose_nil, hu.not_askedToClose]

def proxied : BrowserConfig := BrowserConfig.default.withProxyAuth "http://p.test:1" "u" "w"

def refusedOpening : Log := setUp proxied ⟨0⟩ ⟨0⟩ ++ listening ⟨0⟩ ++
  [⟨.send (.page ⟨0⟩) .enableFetch, some (.error (.refused (-32000) "no"))⟩]

/-- The page is not opened, and its target stays. -/
theorem refused_opening_leaves_target :
    Exec (newPage proxied ⟨0⟩) refusedOpening
      (.error (.session "failed to enable fetch for proxy auth: Error -32000: no")) ∧
    ∀ p, ¬ AskedToClose p refusedOpening := by
  refine ⟨?_, fun p => by
    simp [refusedOpening, listening, not_askedToClose_setUp, not_askedToClose_nil]⟩
  repeat (first | exact .done _ | refine .ask _ ?_)

end Chromium
end PageFlow
