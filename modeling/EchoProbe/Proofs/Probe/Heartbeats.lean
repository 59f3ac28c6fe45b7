import EchoProbe.Proofs.Message
import EchoProbe.Proofs.Probe.Completion

/-!
# Heartbeats prolong nothing

A heartbeat that arrives in a wait leaves the run as it is, and the limit of the wait
counts from its beginning. So a run along a link can be followed beside the run along
the same link made plain (`Link.plain`): a heartbeat happens in the one and not in the
other, and everything else happens in both.

The two differ in what time it is, since one of them has last seen a heartbeat. Yet
what happens next is after both clocks: a message that arrives was not due before the
heartbeat, and neither was the cancellation (`Trails`). So it happens at the same
moment, and puts the clocks right. The induction is on the events of the run with the
heartbeats.

The result of probing is the same, then, to the time that it took (`conduct_plain`).
-/

namespace EchoProbe.Probe

/-! ## Plain links -/

/-- What is delivered, made plain. -/
def Delivery.plain? (d : Delivery) : Option Delivery :=
  d.arrival.plain?.map fun arrival => ⟨d.moment, arrival⟩

theorem Delivery.plain?_of_isHeartbeat {d : Delivery} (h : d.arrival.isHeartbeat = true) :
    d.plain? = none := by
  rw [Delivery.plain?, Arrival.plain?_of_isHeartbeat h, Option.map_none]

theorem Delivery.plain?_of_not_isHeartbeat {d : Delivery} (h : d.arrival.isHeartbeat = false) :
    d.plain? = some ⟨d.moment, d.arrival.asText⟩ := by
  rw [Delivery.plain?, Arrival.plain?_of_not_isHeartbeat h, Option.map_some]

/-- It is delivered at the same moment. -/
theorem Delivery.moment_of_plain? {d d' : Delivery} (h : d.plain? = some d') :
    d'.moment = d.moment := by
  obtain ⟨arrival, -, rfl⟩ := Option.map_eq_some_iff.mp h
  rfl

/-- **The same behaviour, made plain.** -/
def Link.plain (link : Link) : Link where
  opening := link.opening
  inbox := link.inbox.filterMap Delivery.plain?
  sendings := link.sendings
  cancelAt := link.cancelAt
  ordered := by
    refine link.ordered.filterMap _ fun a b hab a' ha' b' hb' => ?_
    rw [Delivery.moment_of_plain? ha', Delivery.moment_of_plain? hb']
    exact hab

/-- Whether a heartbeat has arrived. -/
def Event.isHeartbeat : Event → Bool
  | .arrived arrival => arrival.isHeartbeat
  | _ => false

theorem Event.exists_of_isHeartbeat {event : Event} (h : event.isHeartbeat = true) :
    ∃ arrival, event = .arrived arrival ∧ arrival.isHeartbeat = true := by
  cases event with
  | arrived arrival => exact ⟨arrival, rfl, h⟩
  | _ => nomatch h

/-- An event, with a payload of bytes read as text. -/
def Event.asText : Event → Event
  | .arrived arrival => .arrived arrival.asText
  | event => event

variable {plan : Plan} {link : Link} {run : Run}

theorem incoming?_asText (event : Event) :
    Run.incoming? event.asText = Run.incoming? event := by
  cases event with
  | arrived arrival =>
    cases arrival with
    | message m => cases m <;> rfl
    | _ => rfl
  | _ => rfl

/-- A run makes no difference between bytes and text. -/
theorem Run.step_asText (run : Run) (event : Event) :
    run.step plan event.asText = run.step plan event := by
  cases event with
  | arrived arrival =>
    have hincoming := incoming?_asText (.arrived arrival)
    rw [Event.asText] at hincoming
    simp only [Run.step, Event.asText, Run.complete, hincoming]
  | _ => rfl

/-- A heartbeat leaves a run as it is. -/
theorem Run.step_of_isHeartbeat (run : Run) {arrival : Arrival} (h : arrival.isHeartbeat = true) :
    run.step plan (.arrived arrival) = run := by
  have hincoming : Run.incoming? (.arrived arrival) = none := by
    cases arrival with
    | message m =>
      cases m with
      | ping data => rfl
      | pong data => rfl
      | _ => nomatch h
    | _ => nomatch h
  unfold Run.step
  split
  · rfl
  · simp only [Run.complete, hincoming]
    cases run.phase <;> rfl

/-! ## One run beside the other -/

/-- **A passage that has not seen the heartbeats** beside one that has. They differ in what
is still to arrive and in what time it is, and the time matters only during a wait. Then
the clock that is ahead is not ahead of anything that can still happen. -/
structure Trails (link : Link) (q p : Passage) : Prop where
  /-- The runs are the same. -/
  run : q.run = p.run
  /-- The steps began at the same moment. -/
  since : q.since = p.since
  sendings : q.sendings = p.sendings
  /-- What is still to arrive is the same, made plain. -/
  inbox : q.inbox = p.inbox.filterMap Delivery.plain?
  ordered : p.inbox.Pairwise fun a b => a.moment ≤ b.moment
  /-- A heartbeat can have been the last that happened. -/
  now_le : q.now ≤ p.now
  /-- Nothing that is still to arrive was due before it. -/
  le_moment (d : Delivery) (hd : d ∈ p.inbox) : p.now ≤ max q.now d.moment
  /-- Neither was the cancellation. -/
  le_cancelAt (moment : Moment) (h : link.cancelAt = some moment) : p.now ≤ max q.now moment
  /-- There are heartbeats only in a wait. -/
  now_eq (h : p.run.phase.isWait = false) : q.now = p.now

namespace Passage

variable {p : Passage}

/-- What completes a wait. -/
theorem next_of_isWait (plan : Plan) {phase : Phase} (hwait : phase.isWait = true) :
    ∃ limit, ∀ link p, p.run.phase = phase →
      next plan link p = some (within (p.since + limit) .expired p.nextArrival) := by
  cases phase with
  | greeting =>
    refine ⟨plan.settings.welcomeTimeout.nanoseconds, fun link p hphase => ?_⟩
    rw [next, hphase]
  | awaiting index =>
    refine ⟨plan.settings.exchangeTimeout.nanoseconds, fun link p hphase => ?_⟩
    rw [next, hphase]
  | _ => nomatch hwait

/-- It is no earlier than what arrives, unless the wait is over before. -/
theorem le_within {limit earliest : Nat} {late : Event} {next : Option (Moment × Event)}
    (hlimit : earliest ≤ limit)
    (hnext : ∀ moment event, next = some (moment, event) → earliest ≤ moment) :
    earliest ≤ (within limit late next).1 := by
  unfold within
  split
  · next moment event =>
    split
    · exact hnext moment event rfl
    · exact hlimit
  · exact hlimit

/-- What comes too late does not matter. -/
theorem within_of_lt {limit : Nat} {late : Event} {next : Option (Moment × Event)}
    (h : ∀ moment event, next = some (moment, event) → limit < moment) :
    within limit late next = (limit, late) := by
  unfold within
  split
  · next moment event => exact if_neg (Nat.not_le.mpr (h moment event rfl))
  · rfl

/-- An event that has a moment, with a payload of bytes read as text. -/
def asText (next : Moment × Event) : Moment × Event := (next.1, next.2.asText)

theorem within_map_asText (limit : Nat) (next : Option (Moment × Event)) :
    within limit .expired (next.map asText) = asText (within limit .expired next) := by
  cases next with
  | none => rfl
  | some next =>
    show (if next.1 ≤ limit then asText next else (limit, .expired)) = asText (if _ then _ else _)
    split <;> rfl

end Passage

namespace Trails

variable {q p : Passage}

/-- A moment at which something can happen is the same for both. -/
theorem max_eq {early late moment : Nat} (hle : early ≤ late) (h : late ≤ max early moment) :
    max early moment = max late moment := by
  omega

theorem start (plan : Plan) (link : Link) :
    Trails link (.start plan link.plain) (.start plan link) where
  run := rfl
  since := rfl
  sendings := rfl
  inbox := rfl
  ordered := link.ordered
  now_le := Nat.le_refl _
  le_moment _ _ := Nat.le_max_left _ _
  le_cancelAt _ _ := Nat.le_max_left _ _
  now_eq _ := rfl

/-- Outside the waits the two are in step. -/
theorem next_of_not_isWait (h : Trails link q p) (hwait : p.run.phase.isWait = false) :
    q.next plan link.plain = (p.next plan link).map Passage.asText := by
  have hnow := h.now_eq hwait
  unfold Passage.next
  rw [h.run, h.since]
  cases hphase : p.run.phase with
  | connecting =>
    show some (Passage.within _ _ (Passage.nextOpening link.opening))
      = some (Passage.asText (Passage.within _ _ (Passage.nextOpening link.opening)))
    unfold Passage.within Passage.nextOpening
    cases link.opening with
    | silent => rfl
    | _ =>
      dsimp only
      split <;> rfl
  | sending index =>
    show q.nextSending = p.nextSending.map Passage.asText
    rw [Passage.nextSending, Passage.nextSending, h.sendings, hnow]
    split <;> rfl
  | greeting => rw [hphase] at hwait; nomatch hwait
  | awaiting index => rw [hphase] at hwait; nomatch hwait
  | _ => rfl

/-- **In a wait** the other one is waiting too: for what arrives, if it is no heartbeat. -/
theorem next_of_isWait (h : Trails link q p) (hwait : p.run.phase.isWait = true) :
    (∃ moment arrival, p.next plan link = some (moment, .arrived arrival) ∧
      arrival.isHeartbeat = true ∧
      ∃ later, q.next plan link.plain = some later ∧ moment ≤ later.1) ∨
    q.next plan link.plain = (p.next plan link).map Passage.asText := by
  obtain ⟨limit, hlimit⟩ := Passage.next_of_isWait plan hwait
  rw [hlimit link.plain q (congrArg Run.phase h.run), hlimit link p rfl, h.since]
  cases hinbox : p.inbox with
  | nil =>
    right
    have hq : q.inbox = [] := by rw [h.inbox, hinbox]; rfl
    rw [Passage.nextArrival, Passage.nextArrival, hinbox, hq]
    rfl
  | cons d ds =>
    have hp : p.nextArrival = some (max p.now d.moment, .arrived d.arrival) := by
      rw [Passage.nextArrival, hinbox]
      rfl
    have hmax : max q.now d.moment = max p.now d.moment :=
      max_eq h.now_le (h.le_moment d (by rw [hinbox]; exact List.mem_cons_self))
    cases hheartbeat : d.arrival.isHeartbeat with
    | false =>
      right
      have hq : q.nextArrival = p.nextArrival.map Passage.asText := by
        rw [Passage.nextArrival, hp, h.inbox, hinbox,
          List.filterMap_cons_some (Delivery.plain?_of_not_isHeartbeat hheartbeat)]
        show some (max q.now d.moment, _) = some (max p.now d.moment, _)
        rw [hmax]
        rfl
      rw [hq, Passage.within_map_asText]
      rfl
    | true =>
      -- what arrives for the other one was not to arrive before the heartbeat
      have hlater : ∀ moment event, q.nextArrival = some (moment, event) →
          max p.now d.moment ≤ moment := by
        intro moment event hnext
        obtain ⟨d', hd', heq⟩ := Option.map_eq_some_iff.mp hnext
        obtain ⟨rfl, -⟩ := Prod.mk.inj heq
        have hmem : d' ∈ ds.filterMap Delivery.plain? := by
          rw [← List.filterMap_cons_none (Delivery.plain?_of_isHeartbeat hheartbeat), ← hinbox,
            ← h.inbox]
          exact List.mem_of_mem_head? hd'
        obtain ⟨e, he, hplain⟩ := List.mem_filterMap.mp hmem
        have hordered := h.ordered
        rw [hinbox, List.pairwise_cons] at hordered
        have hmoment : d.moment ≤ e.moment := hordered.1 e he
        have hle := h.le_moment e (by rw [hinbox]; exact List.mem_cons_of_mem d he)
        rw [Delivery.moment_of_plain? hplain]
        exact Nat.max_le.mpr ⟨hle, Nat.le_trans hmoment (Nat.le_max_right _ _)⟩
      by_cases hle : max p.now d.moment ≤ p.since + limit
      · left
        refine ⟨_, _, ?_, hheartbeat, _, rfl, Passage.le_within hle hlater⟩
        rw [hp, Passage.within, if_pos hle]
      · right
        have hlt := Nat.not_le.mp hle
        rw [hp, Passage.within_of_lt fun moment event hnext =>
            Nat.lt_of_lt_of_le hlt (hlater moment event hnext), Passage.within, if_neg hle]
        rfl

theorem next (h : Trails link q p) (plan : Plan) :
    (∃ moment arrival, p.next plan link = some (moment, .arrived arrival) ∧
      arrival.isHeartbeat = true ∧
      ∃ later, q.next plan link.plain = some later ∧ moment ≤ later.1) ∨
    q.next plan link.plain = (p.next plan link).map Passage.asText := by
  cases hwait : p.run.phase.isWait with
  | true => exact h.next_of_isWait hwait
  | false => exact .inr (h.next_of_not_isWait hwait)

/-- **What comes next** is a heartbeat, or the same for both. -/
theorem upcoming (h : Trails link q p) (plan : Plan) :
    (∃ moment arrival, p.upcoming plan link = some (moment, .arrived arrival) ∧
      arrival.isHeartbeat = true) ∨
    q.upcoming plan link.plain = (p.upcoming plan link).map Passage.asText := by
  have hnext := h.next plan
  unfold Passage.upcoming
  rw [h.run]
  cases hover : p.run.isOver with
  | true => exact .inr rfl
  | false =>
    show (∃ moment arrival, Passage.interrupt link.cancelAt p.now (p.next plan link) = _ ∧ _) ∨
      Passage.interrupt link.cancelAt q.now (q.next plan link.plain)
        = (Passage.interrupt link.cancelAt p.now (p.next plan link)).map Passage.asText
    have hcancelled : ∀ moment, link.cancelAt = some moment → max q.now moment = max p.now moment :=
      fun moment hmoment => max_eq h.now_le (h.le_cancelAt moment hmoment)
    cases hcancelAt : link.cancelAt with
    | none =>
      rcases hnext with ⟨moment, arrival, hp, hheartbeat, -⟩ | hsame
      · exact .inl ⟨moment, arrival, hp, hheartbeat⟩
      · exact .inr hsame
    | some cancelAt =>
      have hsame := hcancelled cancelAt hcancelAt
      rcases hnext with ⟨moment, arrival, hp, hheartbeat, later, hq, hle⟩ | hnext
      · rw [hp, hq]
        by_cases hlate : cancelAt ≤ moment
        · -- the cancellation wins over both
          right
          simp only [Passage.interrupt, if_pos hlate, if_pos (Nat.le_trans hlate hle), hsame]
          rfl
        · left
          exact ⟨moment, arrival, if_neg hlate, hheartbeat⟩
      · right
        rw [hnext]
        cases p.next plan link with
        | none => simp only [Option.map_none, Passage.interrupt, hsame]; rfl
        | some next =>
          simp only [Option.map_some, Passage.interrupt, Passage.asText, hsame]
          split <;> rfl

/-- **A heartbeat** moves one clock on, and nothing else. -/
theorem heartbeat (h : Trails link q p) {moment : Moment} {arrival : Arrival}
    (hupcoming : p.upcoming plan link = some (moment, .arrived arrival))
    (hheartbeat : arrival.isHeartbeat = true) :
    Trails link q (p.after plan moment (.arrived arrival)) := by
  obtain ⟨hwait, d, hinbox, rfl⟩ := Passage.wait_of_upcoming_arrived hupcoming
  have hrun : (p.after plan moment (.arrived d.arrival)).run = p.run :=
    Run.step_of_isHeartbeat p.run hheartbeat
  have hmoment : moment = max p.now d.moment := by
    obtain ⟨limit, hlimit⟩ := Passage.next_of_isWait plan hwait
    obtain ⟨-, hcancelled | ⟨hnext, -⟩⟩ := Passage.upcoming_cases hupcoming
    · exact nomatch hcancelled
    · rw [hlimit link p rfl, Option.some.injEq] at hnext
      have harrival := Passage.eq_of_within hnext nofun
      rw [Passage.nextArrival, hinbox] at harrival
      exact (Prod.mk.inj (Option.some.inj harrival)).1.symm
  have hordered := h.ordered
  rw [hinbox, List.pairwise_cons] at hordered
  have hd : p.now ≤ max q.now d.moment :=
    h.le_moment d (by rw [hinbox]; exact List.mem_cons_self)
  constructor
  · rw [hrun, h.run]
  · show q.since = if (p.after plan moment (.arrived d.arrival)).run.phase = p.run.phase
      then p.since else moment
    rw [hrun, if_pos rfl, h.since]
  · exact h.sendings
  · show q.inbox = p.inbox.tail.filterMap Delivery.plain?
    rw [h.inbox, hinbox, List.filterMap_cons_none (Delivery.plain?_of_isHeartbeat hheartbeat)]
    rfl
  · exact hordered.2
  · show q.now ≤ moment
    rw [hmoment]
    exact Nat.le_trans h.now_le (Nat.le_max_left _ _)
  · intro e he
    show moment ≤ max q.now e.moment
    have hle : p.now ≤ max q.now e.moment :=
      h.le_moment e (by rw [hinbox]; exact List.mem_cons_of_mem d he)
    rw [hmoment]
    exact Nat.max_le.mpr ⟨hle, Nat.le_trans (hordered.1 e he) (Nat.le_max_right _ _)⟩
  · intro cancelAt hcancelAt
    show moment ≤ max q.now cancelAt
    have hlt := Passage.lt_cancelAt_of_upcoming hupcoming nofun hcancelAt
    exact Nat.le_trans (Nat.le_of_lt hlt) (Nat.le_max_right _ _)
  · intro hnot
    rw [hrun, hwait] at hnot
    exact nomatch hnot

/-- **Everything else** happens in both, and puts the clocks right. -/
theorem after (h : Trails link q p) {moment : Moment} {event : Event}
    (hupcoming : p.upcoming plan link = some (moment, event))
    (hevent : event.isHeartbeat = false) :
    Trails link (q.after plan moment event.asText) (p.after plan moment event) := by
  have hrun : q.run.step plan event.asText = p.run.step plan event := by
    rw [h.run, Run.step_asText]
  constructor
  · exact hrun
  · show (if (q.run.step plan event.asText).phase = q.run.phase then q.since else moment)
      = if (p.run.step plan event).phase = p.run.phase then p.since else moment
    rw [hrun, h.run, h.since]
  · cases event with
    | sent => exact congrArg List.tail h.sendings
    | unsent error => exact congrArg List.tail h.sendings
    | _ => exact h.sendings
  · cases event with
    | arrived arrival =>
      obtain ⟨-, d, hinbox, rfl⟩ := Passage.wait_of_upcoming_arrived hupcoming
      show q.inbox.tail = p.inbox.tail.filterMap Delivery.plain?
      rw [h.inbox, hinbox, List.filterMap_cons_some (Delivery.plain?_of_not_isHeartbeat hevent)]
      rfl
    | _ => exact h.inbox
  · cases event with
    | arrived arrival => exact h.ordered.sublist (List.tail_sublist _)
    | _ => exact h.ordered
  · exact Nat.le_refl moment
  · exact fun _ _ => Nat.le_max_left _ _
  · exact fun _ _ => Nat.le_max_left _ _
  · exact fun _ => rfl

end Trails

/-! ## Whole runs -/

/-- **After any number of events** there is a plain run that has come as far. -/
theorem exists_trails (plan : Plan) (link : Link) (n : Nat) :
    ∃ k, Trails link (link.plain.passage plan k) (link.passage plan n) := by
  induction n with
  | zero => exact ⟨0, .start plan link⟩
  | succ n ih =>
    obtain ⟨k, h⟩ := ih
    rw [Link.passage_succ]
    generalize link.passage plan n = p at h
    cases hupcoming : p.upcoming plan link with
    | none =>
      rw [Passage.advance, hupcoming]
      exact ⟨k, h⟩
    | some next =>
      obtain ⟨moment, event⟩ := next
      rw [Passage.advance_of_upcoming hupcoming]
      cases hevent : event.isHeartbeat with
      | true =>
        obtain ⟨arrival, rfl, hheartbeat⟩ := Event.exists_of_isHeartbeat hevent
        exact ⟨k, h.heartbeat hupcoming hheartbeat⟩
      | false =>
        have hplain := (h.upcoming plan).resolve_left (by
          rintro ⟨moment', arrival, hsome, hheartbeat⟩
          obtain ⟨-, rfl⟩ := Prod.mk.inj (Option.some.inj (hupcoming.symm.trans hsome))
          exact Bool.eq_false_iff.mp hevent hheartbeat)
        rw [hupcoming] at hplain
        refine ⟨k + 1, ?_⟩
        rw [Link.passage_succ, Passage.advance_of_upcoming hplain]
        exact h.after hupcoming hevent

/-- **The plain run is the same run.** -/
theorem trails_run (plan : Plan) (link : Link) :
    Trails link (link.plain.run plan) (link.run plan) := by
  obtain ⟨k, h⟩ := exists_trails plan link (link.bound plan)
  have hover : (link.run plan).upcoming plan link = none := link.upcoming_run plan
  have hplain : (link.plain.passage plan k).upcoming plan link.plain = none := by
    rcases h.upcoming plan with ⟨moment, arrival, hsome, -⟩ | hsame
    · exact nomatch hover.symm.trans hsome
    · rw [hsame]
      exact congrArg (Option.map _) hover
  rw [Link.passage_eq_run hplain] at h
  exact h

/-- **Probing gives the same result** with the heartbeats and without them, and with text
in the place of bytes. -/
theorem conduct_plain (settings : Settings.Probe) (script : Script) (link : Link) :
    conduct settings script link.plain = conduct settings script link := by
  unfold conduct
  split
  · rfl
  · next url _ =>
    have h := trails_run ⟨url.toText, script, settings⟩ link
    have hnow := h.now_eq
    split
    · rfl
    · dsimp only
      rw [h.run]
      split
      · next hphase => rw [hnow (by rw [hphase]; rfl)]
      · rfl
      · rfl

end EchoProbe.Probe
