import PageFlow.Proofs.Polling

/-! What a lookup decides, and when. A poll is ready if all that it asks is answered and some
candidate qualifies; the first poll that is ready decides, and without one the lookup ends when its
deadline has come. -/
namespace PageFlow
namespace Locator

open Engine

def sightings (flags : List (Element × Bool)) : Log :=
  flags.map fun f => ⟨.isVisible f.1, .ok f.2⟩

/-- The calls of a poll that is ready, and what it decides: the first candidate that qualifies, or
all of them, in the order of the document. -/
inductive ReadyPoll (root : Root) (kind : SelectorKind) (selector : String) :
    WaitState → (multiple : Bool) → Log → Resolved → Prop
  | first (e rest) : ReadyPoll root kind selector .attached false
      [⟨.query root kind selector, .ok (e :: rest)⟩] (.one e)
  | all (e rest) : ReadyPoll root kind selector .attached true
      [⟨.query root kind selector, .ok (e :: rest)⟩] (.many (e :: rest))
  | firstVisible (hidden e rest) : ReadyPoll root kind selector .visible false
      (⟨.query root kind selector, .ok (hidden ++ e :: rest)⟩ ::
        sightings (hidden.map (·, false)) ++ [⟨.isVisible e, .ok true⟩]) (.one e)
  | allVisible (flags) (some : ∃ f ∈ flags, f.2 = true) : ReadyPoll root kind selector .visible true
      (⟨.query root kind selector, .ok (flags.map Prod.fst)⟩ :: sightings flags)
      (.many ((flags.filter Prod.snd).map Prod.fst))

/-- The calls of a poll that is not ready: something was not answered, or no candidate qualifies. -/
inductive IdlePoll (root : Root) (kind : SelectorKind) (selector : String) :
    WaitState → (multiple : Bool) → Log → Prop
  | failed (state multiple e) : IdlePoll root kind selector state multiple
      [⟨.query root kind selector, .error e⟩]
  | nothing (multiple) : IdlePoll root kind selector .attached multiple
      [⟨.query root kind selector, .ok []⟩]
  | hidden (multiple flags) (all : ∀ f ∈ flags, f.2 = false) :
      IdlePoll root kind selector .visible multiple
        (⟨.query root kind selector, .ok (flags.map Prod.fst)⟩ :: sightings flags)
  | unanswered (multiple flags e rest err) (early : multiple = false → ∀ f ∈ flags, f.2 = false) :
      IdlePoll root kind selector .visible multiple
        (⟨.query root kind selector, .ok (flags.map Prod.fst ++ e :: rest)⟩ ::
          sightings flags ++ [⟨.isVisible e, .error err⟩])

section Polls

variable {root : Root} {kind : SelectorKind} {selector : String} {state : WaitState}
  {multiple : Bool} {log : Log} {candidates : List Element}

theorem sightings_no_sleep (flags : List (Element × Bool)) :
    ∀ x ∈ sightings flags, ∀ d, x.op ≠ .sleep d := by
  intro x hx
  obtain ⟨f, -, rfl⟩ := List.mem_map.mp hx
  simp

theorem IdlePoll.no_sleep (h : IdlePoll root kind selector state multiple log) :
    ∀ x ∈ log, ∀ d, x.op ≠ .sleep d := by
  cases h with
  | failed | nothing => simp
  | hidden => exact List.forall_mem_cons.mpr ⟨nofun, sightings_no_sleep _⟩
  | unanswered =>
    refine List.forall_mem_append.mpr ⟨?_, by simp⟩
    exact List.forall_mem_cons.mpr ⟨nofun, sightings_no_sleep _⟩

theorem ReadyPoll.no_sleep {v : Resolved} (h : ReadyPoll root kind selector state multiple log v) :
    ∀ x ∈ log, ∀ d, x.op ≠ .sleep d := by
  cases h with
  | first | all => simp
  | firstVisible =>
    refine List.forall_mem_append.mpr ⟨?_, by simp⟩
    exact List.forall_mem_cons.mpr ⟨nofun, sightings_no_sleep _⟩
  | allVisible => exact List.forall_mem_cons.mpr ⟨nofun, sightings_no_sleep _⟩

/-- How candidates are asked one after the other: a single lookup stops at the first that is
visible, and both kinds stop where there is no answer. -/
inductive Asks (multiple : Bool) : List Element → Log → Except FlowError (List Element) → Prop
  | all (flags : List (Element × Bool)) : (multiple = false → ∀ f ∈ flags, f.2 = false) →
      Asks multiple (flags.map Prod.fst) (sightings flags)
        (.ok ((flags.filter Prod.snd).map Prod.fst))
  | first (hidden e rest) : multiple = false →
      Asks multiple (hidden ++ e :: rest)
        (sightings (hidden.map (·, false)) ++ [⟨.isVisible e, .ok true⟩]) (.ok [e])
  | unanswered (flags : List (Element × Bool)) (e rest err) :
      (multiple = false → ∀ f ∈ flags, f.2 = false) →
      Asks multiple (flags.map Prod.fst ++ e :: rest)
        (sightings flags ++ [⟨.isVisible e, .error err⟩]) (.error err)

theorem Asks.hidden {r : Except FlowError (List Element)} (e : Element)
    (h : Asks multiple candidates log r) :
    Asks multiple (e :: candidates) (⟨.isVisible e, .ok false⟩ :: log) r := by
  cases h with
  | all flags hf =>
    exact .all ((e, false) :: flags) fun hm => List.forall_mem_cons.mpr ⟨rfl, hf hm⟩
  | first hidden e' rest hm => exact .first (e :: hidden) e' rest hm
  | unanswered flags e' rest err hf =>
    exact .unanswered ((e, false) :: flags) e' rest err
      fun hm => List.forall_mem_cons.mpr ⟨rfl, hf hm⟩

theorem Asks.visible {r : Except FlowError (List Element)} (e : Element)
    (h : Asks true candidates log r) :
    Asks true (e :: candidates) (⟨.isVisible e, .ok true⟩ :: log) (r.map (e :: ·)) := by
  cases h with
  | all flags => exact .all ((e, true) :: flags) nofun
  | first _ _ _ hm => cases hm
  | unanswered flags e' rest err => exact .unanswered ((e, true) :: flags) e' rest err nofun

theorem ends_visibleOf {r : Except FlowError (List Element)}
    (h : Ends (visibleOf multiple candidates) log r) : Asks multiple candidates log r := by
  induction candidates generalizing log r with
  | nil =>
    obtain ⟨rfl, rfl⟩ := (ends_pure_iff _ _).mp h
    exact .all [] fun _ => List.forall_mem_nil _
  | cons e rest ih =>
    obtain ⟨v, more, rfl, hv⟩ := (ends_answer_bind_iff rfl _ _).mp h
    rcases v with err | visible
    · obtain ⟨rfl, rfl⟩ := (ends_throw_iff err _).mp hv
      exact .unanswered [] e rest err fun _ => List.forall_mem_nil _
    cases visible with
    | false =>
      have hrest : Ends (visibleOf multiple rest) more r := hv
      exact (ih hrest).hidden e
    | true =>
      cases multiple with
      | false =>
        obtain ⟨rfl, rfl⟩ := (ends_pure_iff [e] _).mp hv
        exact .first [] e rest rfl
      | true =>
        have hbind : Ends (visibleOf true rest >>= fun all => pure (e :: all)) more r := hv
        obtain ⟨o, ho, rfl⟩ := ends_map_iff.mp hbind
        exact (ih ho).visible e

theorem ends_poll {o : Options} {r : Except FlowError (List Element)}
    (h : Ends (poll root kind selector o) log r) :
    (IdlePoll root kind selector o.waitState o.multiple log ∧ ∀ e rest, r ≠ .ok (e :: rest)) ∨
      ∃ e rest, r = .ok (e :: rest) ∧ ReadyPoll root kind selector o.waitState o.multiple log
        (if o.multiple then .many (e :: rest) else .one e) := by
  obtain ⟨timeout, multiple, state, strict⟩ := o
  obtain ⟨v, rest, rfl, hv⟩ := (ends_answer_bind_iff rfl _ _).mp h
  rcases v with err | candidates
  · obtain ⟨rfl, rfl⟩ := (ends_throw_iff err _).mp hv
    exact Or.inl ⟨.failed state multiple err, nofun⟩
  cases state with
  | attached =>
    obtain ⟨rfl, rfl⟩ := (ends_pure_iff _ _).mp hv
    cases candidates with
    | nil => cases multiple <;> exact Or.inl ⟨.nothing _, nofun⟩
    | cons e rest =>
      cases multiple with
      | false => exact Or.inr ⟨e, [], rfl, .first e rest⟩
      | true => exact Or.inr ⟨e, rest, rfl, .all e rest⟩
  | visible =>
    have hready : Ends (visibleOf multiple candidates) rest r := hv
    cases ends_visibleOf hready with
    | all flags hf =>
      by_cases hall : ∀ f ∈ flags, f.2 = false
      · have hnone : flags.filter Prod.snd = [] := by simpa using hall
        exact Or.inl ⟨.hidden multiple flags hall, by simp [hnone]⟩
      · have hsome : ∃ f ∈ flags, f.2 = true := by simpa using hall
        obtain rfl : multiple = true := by
          by_contra hm
          exact hall (hf (Bool.eq_false_of_not_eq_true hm))
        have hready : ReadyPoll root kind selector .visible true _ _ := .allVisible flags hsome
        cases hq : (flags.filter Prod.snd).map Prod.fst with
        | nil =>
          obtain ⟨f, hmem, htrue⟩ := hsome
          have hf : f.1 ∈ (flags.filter Prod.snd).map Prod.fst :=
            List.mem_map_of_mem (List.mem_filter.mpr ⟨hmem, htrue⟩)
          simp [hq] at hf
        | cons e rest => exact Or.inr ⟨e, rest, rfl, hq ▸ hready⟩
    | first hidden e rest hm =>
      subst hm
      exact Or.inr ⟨e, [], rfl, .firstVisible hidden e rest⟩
    | unanswered flags e rest err hf =>
      exact Or.inl ⟨.unanswered multiple flags e rest err hf, nofun⟩

theorem ends_found {o : Options} {r : Except FlowError (Option (List Element))}
    (h : Ends (found root kind selector o) log r) :
    (r = .ok none ∧ IdlePoll root kind selector o.waitState o.multiple log) ∨
      ∃ e rest, r = .ok (some (e :: rest)) ∧
        ReadyPoll root kind selector o.waitState o.multiple log
          (if o.multiple then .many (e :: rest) else .one e) := by
  obtain ⟨first, polled, second, rfl, hp, hf⟩ := (ends_lift_bind_iff _ _ _).mp h
  rcases ends_poll hp with ⟨hidle, hn⟩ | ⟨e, rest, rfl, hready⟩
  · have hnone : Ends (pure none : Attempt (Option (List Element))) second r := by
      rcases polled with err | (_ | ⟨e, rest⟩)
      · exact hf
      · exact hf
      · exact absurd rfl (hn e rest)
    obtain ⟨rfl, rfl⟩ := (ends_pure_iff _ _).mp hnone
    rw [List.append_nil]
    exact Or.inl ⟨rfl, hidle⟩
  · obtain ⟨rfl, rfl⟩ := (ends_pure_iff (some (e :: rest)) _).mp hf
    rw [List.append_nil]
    exact Or.inr ⟨e, rest, rfl, hready⟩

theorem asksOnly_found (o : Options) :
    AsksOnly (fun op => ∀ d, op ≠ .sleep d) (found root kind selector o) := by
  intro log r h
  refine ⟨?_, fun _ _ => trivial⟩
  rcases ends_found h with ⟨-, hidle⟩ | ⟨e, rest, -, hready⟩
  · exact hidle.no_sleep
  · exact hready.no_sleep

theorem ends_resolve {o : Options} {r : Except FlowError Resolved}
    (h : Ends (resolve root kind selector o) log r) :
    (∃ e rest, Ends (waitFor (found root kind selector o) o.timeout) log
        (.ok (some (e :: rest))) ∧ r = .ok (if o.multiple then .many (e :: rest) else .one e)) ∨
      (Ends (waitFor (found root kind selector o) o.timeout) log (.ok none) ∧
        r = if o.strict then .error (.locatorTimeout (kind.describe selector) o.timeout.toMillis)
          else .ok (if o.multiple then .many [] else .none)) := by
  rcases (ends_bind_iff _ _ _).mp h with ⟨err, rfl, he⟩ | ⟨first, v, second, rfl, hv, hr⟩
  · obtain ⟨_, last, _, -, hlast, -⟩ := waitFor_last he
    rcases ends_found hlast with ⟨hn, -⟩ | ⟨_, _, hs, -⟩
    · cases hn
    · cases hs
  cases v with
  | some all =>
    obtain ⟨_, last, _, -, hlast, -⟩ := waitFor_last hv
    rcases ends_found hlast with ⟨hn, -⟩ | ⟨e, rest, hs, -⟩
    · cases hn
    cases hs
    obtain ⟨rfl, rfl⟩ := (ends_pure_iff _ _).mp hr
    rw [List.append_nil]
    exact Or.inl ⟨e, rest, hv, rfl⟩
  | none =>
    right
    by_cases hs : o.strict = true
    · simp only [hs, if_true] at hr ⊢
      obtain ⟨rfl, rfl⟩ := (ends_throw_iff _ _).mp hr
      rw [List.append_nil]
      exact ⟨hv, rfl⟩
    · simp only [hs] at hr ⊢
      obtain ⟨rfl, rfl⟩ := (ends_pure_iff _ _).mp hr
      rw [List.append_nil]
      exact ⟨hv, rfl⟩

end Polls

/-- How a lookup ends on a clock after polls that were not ready: its last poll is ready and
decides, or it is not and the deadline has come. -/
inductive Settles (root : Root) (kind : SelectorKind) (selector : String) (o : Options)
    (time : Nat → Nat) (misses : List Miss) : Log → Except FlowError Resolved → Prop
  | ready {last v} : ReadyPoll root kind selector o.waitState o.multiple last v →
      Settles root kind selector o time misses
        (opening (time 0) (time 0 + o.timeout.toNanos) misses ++ last) (.ok v)
  | late {last looks log} : IdlePoll root kind selector o.waitState o.multiple last →
      (∀ x ∈ looks, x.op = .now) →
      log = opening (time 0) (time 0 + o.timeout.toNanos) misses ++ last ++ looks →
      time 0 + o.timeout.toNanos ≤ time log.length →
      (Swift time log → misses.length = o.timeout.toNanos ⌈/⌉ interval) →
      Settles root kind selector o time misses log
        (if o.strict then .error (.locatorTimeout (kind.describe selector) o.timeout.toMillis)
        else .ok (if o.multiple then .many [] else .none))

/-- A lookup comes to its end with every driver. On a clock its polls that are not ready are no more
than the timeout has room for, whatever number the definition would allow; the polls start in time;
and the first that is ready decides. -/
theorem resolve_polls (root : Root) (kind : SelectorKind) (selector : String) (o : Options) :
    (∀ (d : Driver) (start : Nat), ∃ time log r,
      Ends (resolve root kind selector o) log r ∧ time 0 = start ∧ d.Drives time [] log ∧
        Clocked time log) ∧
    (∀ time (misses : List Miss),
      (∀ m ∈ misses, IdlePoll root kind selector o.waitState o.multiple m.log ∧
        m.stop < time 0 + o.timeout.toNanos) →
      Clocked time (opening (time 0) (time 0 + o.timeout.toNanos) misses) →
      Timed time o.timeout.toNanos misses) ∧
    ∀ time log r, Ends (resolve root kind selector o) log r → Clocked time log →
      ∃ misses : List Miss,
        (∀ m ∈ misses, IdlePoll root kind selector o.waitState o.multiple m.log ∧
          m.stop < time 0 + o.timeout.toNanos) ∧
        Timed time o.timeout.toNanos misses ∧ Settles root kind selector o time misses log r := by
  refine ⟨fun d start => ?_, fun time misses hm hc => ?_, fun time log r h hc => ?_⟩
  · obtain ⟨time, log, r, he, h0, hd⟩ := d.exists_exec (resolve root kind selector o).run start []
    exact ⟨time, log, r, he, h0, hd, hd.clocked⟩
  · exact timed (fun m h => (hm m h).2) (fun m h => (hm m h).1.no_sleep) hc
  · have hquiet : AsksOnly (fun op => ∀ d, op ≠ .sleep d) (found root kind selector o) :=
      asksOnly_found o
    have hidle {m : Miss} (hm : m.Goes (found root kind selector o) (time 0 + o.timeout.toNanos)) :
        IdlePoll root kind selector o.waitState o.multiple m.log ∧
          m.stop < time 0 + o.timeout.toNanos := by
      rcases ends_found hm.1 with ⟨-, hi⟩ | ⟨e, rest, hr, -⟩
      · exact ⟨hi, hm.2⟩
      · cases hr
    rcases ends_resolve h with ⟨e, rest, hw, rfl⟩ | ⟨hw, rfl⟩
    all_goals
      obtain ⟨misses, last, hg, ht, hlast, hlog⟩ := ends_waitFor hw hquiet hc
      refine ⟨misses, fun m hm => hidle (hg m hm), ht, ?_⟩
    · rcases ends_found hlast with ⟨hn, -⟩ | ⟨_, _, hs, hready⟩
      · cases hn
      cases hs
      rcases hlog with ⟨-, rfl⟩ | ⟨hn, -⟩
      · exact .ready hready
      · cases hn
    · rcases ends_found hlast with ⟨-, hi⟩ | ⟨_, _, hs, -⟩
      · rcases hlog with ⟨hn, -⟩ | ⟨-, looks, hlooks, hlog, hd, hswift⟩
        · exact absurd rfl hn
        · exact .late hi hlooks hlog hd hswift
      · cases hs

section Samples

def menu : Element := ⟨⟨2⟩, 1, "nav", "css nav"⟩

def patient : Options := ⟨.ofMillis 150, false, .visible, false⟩

def lateSighting : Log :=
  opening 0 (0 + patient.timeout.toNanos)
    [⟨[⟨.query (.page ⟨2⟩) .css "nav", .error (.element "busy")⟩], 0⟩,
      ⟨[⟨.query (.page ⟨2⟩) .css "nav", .ok [menu]⟩, ⟨.isVisible menu, .ok false⟩], 10 ^ 8⟩] ++
    [⟨.query (.page ⟨2⟩) .css "nav", .ok [menu]⟩, ⟨.isVisible menu, .ok true⟩]

def lateClock (k : Nat) : Nat := if k < 4 then 0 else if k < 8 then 10 ^ 8 else 15 * 10 ^ 7

end Samples

theorem resolve_polls_lateSighting :
    Ends (resolve (.page ⟨2⟩) .css "nav" patient) lateSighting (.ok (.one menu)) ∧
      ∃ misses : List Miss, Timed lateClock patient.timeout.toNanos misses ∧
        Settles (.page ⟨2⟩) .css "nav" patient lateClock misses lateSighting (.ok (.one menu)) := by
  have h : Ends (resolve (.page ⟨2⟩) .css "nav" patient) lateSighting (.ok (.one menu)) := by
    repeat (first | exact .done _ | refine .ask _ ?_)
  have hc : Clocked lateClock lateSighting := by
    repeat first
      | exact clocked_nil
      | refine clocked_cons_iff.mpr ⟨?_, ?_⟩
      | exact ⟨rfl, rfl⟩
      | exact Nat.le_refl _
      | rfl
  obtain ⟨misses, -, ht, hs⟩ := (resolve_polls (.page ⟨2⟩) .css "nav" patient).2.2 _ _ _ h hc
  exact ⟨h, misses, ht, hs⟩

end Locator
end PageFlow
