import EchoProbe.Proofs.Probe.Log

/-!
# Runs along a link, event by event

`Link.passage` is the run along a link after so many events. What the theory
of runs says of lists of events is carried over to it: a happening is met by
the events of a link if it is met after so many of them
(`happens_trace_iff`). And the link adds what a list of events does not
know: the messages are taken in the order in which they arrive, and none is
left out (`received_append_payloads`); no step takes longer than its limit
(`le_limit_of_upcoming`); and nothing but the cancellation happens from the
moment of a cancellation on (`lt_cancelAt_of_upcoming`).
-/

namespace EchoProbe.Probe

/-- **The run along a link after so many events.** -/
def Link.passage (plan : Plan) (link : Link) (n : Nat) : Passage :=
  Passage.follow plan link n (.start plan link)

/-- How long a step may take, if there is a limit. -/
def Plan.limit? (plan : Plan) : Phase → Option Duration
  | .connecting => some plan.settings.connectTimeout
  | .greeting => some plan.settings.welcomeTimeout
  | .awaiting _ => some plan.settings.exchangeTimeout
  | _ => none

/-- The payload that is delivered, if it is a data message. -/
def Delivery.payload? (d : Delivery) : Option String :=
  match d.arrival with
  | .message m => m.payload?
  | _ => none

/-- The payloads of the data messages that arrive, the first first. -/
def Link.payloads (link : Link) : List String := link.inbox.filterMap Delivery.payload?

variable {plan : Plan} {link : Link}

namespace Passage

variable {p : Passage}

theorem follow_add (m n : Nat) (p : Passage) :
    follow plan link (m + n) p = follow plan link n (follow plan link m p) := by
  induction m generalizing p with
  | zero => rw [Nat.zero_add, follow]
  | succ m ih => rw [Nat.add_right_comm, follow, follow, ih]

theorem trace_add (m n : Nat) (p : Passage) :
    trace plan link (m + n) p
      = trace plan link m p ++ trace plan link n (follow plan link m p) := by
  induction m generalizing p with
  | zero => rw [Nat.zero_add, trace, follow, List.nil_append]
  | succ m ih => rw [Nat.add_right_comm, trace, trace, follow, ih, List.append_assoc]

/-! ## What comes next -/

theorem le_of_within {limit moment : Moment} {late event : Event}
    {next : Option (Moment × Event)} (h : within limit late next = (moment, event)) :
    moment ≤ limit := by
  have hle : (within limit late next).1 ≤ limit := by
    unfold within
    split
    · split
      · assumption
      · exact Nat.le_refl limit
    · exact Nat.le_refl limit
  rwa [h] at hle

theorem eq_of_within {limit moment : Moment} {late event : Event}
    {next : Option (Moment × Event)} (h : within limit late next = (moment, event))
    (hlate : event ≠ late) : next = some (moment, event) := by
  unfold within at h
  split at h
  · split at h
    · rw [h]
    · exact absurd (congrArg Prod.snd h).symm hlate
  · exact absurd (congrArg Prod.snd h).symm hlate

/-- What comes next completes the step, or is the cancellation. -/
theorem upcoming_cases {moment : Moment} {event : Event}
    (h : p.upcoming plan link = some (moment, event)) :
    p.run.isOver = false ∧ (event = .cancelled ∨ p.next plan link = some (moment, event) ∧
      ∀ cancelAt, link.cancelAt = some cancelAt → moment < cancelAt) := by
  unfold upcoming at h
  split at h
  · cases h
  · next hover =>
    refine ⟨Bool.eq_false_iff.mpr hover, ?_⟩
    unfold interrupt at h
    split at h
    · next hnone =>
      refine .inr ⟨h, fun _ hsome => ?_⟩
      rw [hnone] at hsome
      cases hsome
    · obtain ⟨-, rfl⟩ := Prod.mk.inj (Option.some.inj h)
      exact .inl rfl
    · next cancelAt completion event' hcancelAt hnext =>
      split at h
      · obtain ⟨-, rfl⟩ := Prod.mk.inj (Option.some.inj h)
        exact .inl rfl
      · next hlt =>
        obtain ⟨rfl, rfl⟩ := Prod.mk.inj (Option.some.inj h)
        refine .inr ⟨hnext, fun t ht => ?_⟩
        obtain rfl := Option.some.inj (hcancelAt.symm.trans ht)
        exact Nat.not_le.mp hlt

/-- **Only the cancellation happens** from its moment on. -/
theorem lt_cancelAt_of_upcoming {moment cancelAt : Moment} {event : Event}
    (h : p.upcoming plan link = some (moment, event)) (hevent : event ≠ .cancelled)
    (hcancelAt : link.cancelAt = some cancelAt) : moment < cancelAt := by
  obtain ⟨-, hcancelled | ⟨-, hlt⟩⟩ := upcoming_cases h
  · exact absurd hcancelled hevent
  · exact hlt cancelAt hcancelAt

/-- **No step takes longer than its limit.** -/
theorem le_limit_of_upcoming {moment : Moment} {event : Event} {limit : Duration}
    (h : p.upcoming plan link = some (moment, event)) (hevent : event ≠ .cancelled)
    (hlimit : plan.limit? p.run.phase = some limit) :
    moment ≤ p.since + limit.nanoseconds := by
  obtain ⟨-, hcancelled | ⟨hnext, -⟩⟩ := upcoming_cases h
  · exact absurd hcancelled hevent
  · unfold next at hnext
    cases hphase : p.run.phase with
    | connecting | greeting | awaiting index =>
      rw [hphase] at hnext hlimit
      obtain rfl := Option.some.inj hlimit
      exact le_of_within (Option.some.inj hnext)
    | _ =>
      rw [hphase] at hlimit
      cases hlimit

/-- What arrives next is taken out of the inbox by a wait. -/
theorem wait_of_upcoming_arrived {moment : Moment} {arrival : Arrival}
    (h : p.upcoming plan link = some (moment, .arrived arrival)) :
    p.run.phase.isWait = true ∧ ∃ d, p.inbox = d :: p.inbox.tail ∧ d.arrival = arrival := by
  obtain ⟨-, hcancelled | ⟨hnext, -⟩⟩ := upcoming_cases h
  · cases hcancelled
  · have harrival : p.nextArrival = some (moment, .arrived arrival) →
        ∃ d, p.inbox = d :: p.inbox.tail ∧ d.arrival = arrival := by
      intro h
      obtain ⟨d, hhead, heq⟩ := Option.map_eq_some_iff.mp h
      refine ⟨d, List.eq_cons_of_mem_head? hhead, ?_⟩
      exact Event.arrived.inj (congrArg Prod.snd heq)
    unfold next at hnext
    cases hphase : p.run.phase with
    | greeting | awaiting index =>
      rw [hphase] at hnext
      exact ⟨rfl, harrival (eq_of_within (Option.some.inj hnext) (by rintro ⟨⟩))⟩
    | connecting =>
      rw [hphase] at hnext
      have hopening := eq_of_within (Option.some.inj hnext) (by rintro ⟨⟩)
      unfold nextOpening at hopening
      split at hopening <;> simp at hopening
    | sending index =>
      rw [hphase] at hnext
      have hsending : p.nextSending = some (moment, .arrived arrival) := hnext
      unfold nextSending at hsending
      split at hsending <;> simp at hsending
    | _ =>
      rw [hphase] at hnext
      simp at hnext

/-! ## What is taken out of the inbox -/

theorem taken?_arrived {phase : Phase} (hwait : phase.isWait = true) (d : Delivery) :
    taken? phase (.arrived d.arrival) = d.payload? := by
  rw [taken?, if_pos hwait]
  unfold Delivery.payload?
  cases d.arrival with
  | message m => cases m <;> rfl
  | ended => rfl
  | failed error =>
    simp only [Run.incoming?, Incoming.of?]
    cases error.closing? <;> rfl

/-- **The messages are taken in their order**, and none is left out. -/
theorem received_advance (p : Passage) :
    (p.advance plan link).run.received
        ++ (p.advance plan link).inbox.filterMap Delivery.payload?
      = p.run.received ++ p.inbox.filterMap Delivery.payload? := by
  unfold advance
  cases hupcoming : p.upcoming plan link with
  | none => rfl
  | some next =>
    obtain ⟨moment, event⟩ := next
    show (p.run.step plan event).received ++ _ = _
    rw [Run.received_step, List.append_assoc]
    cases event with
    | arrived arrival =>
      obtain ⟨hwait, d, hinbox, rfl⟩ := wait_of_upcoming_arrived hupcoming
      rw [taken?_arrived hwait, hinbox, List.filterMap_cons]
      show _ ++ (_ ++ List.filterMap Delivery.payload? p.inbox.tail) = _
      cases d.payload? <;> rfl
    | _ =>
      rw [taken?_eq_none]
      · rfl
      · rintro _ ⟨⟩

theorem received_follow (n : Nat) (p : Passage) :
    (follow plan link n p).run.received
        ++ (follow plan link n p).inbox.filterMap Delivery.payload?
      = p.run.received ++ p.inbox.filterMap Delivery.payload? := by
  induction n generalizing p with
  | zero => rfl
  | succ n ih => rw [follow, ih, received_advance]

/-- **Nothing is sent after what ends a run.** -/
theorem sent_follow_of_ends {moment : Moment} {event : Event}
    (h : p.upcoming plan link = some (moment, event)) (hends : Ends p.run.phase event) (n : Nat) :
    (follow plan link n p).run.sent = p.run.sent := by
  cases n with
  | zero => rfl
  | succ n =>
    have hadvance : p.advance plan link = p.after plan moment event := by rw [advance, h]
    rw [follow, hadvance, run_follow]
    exact Run.sent_steps_of_ends hends _

end Passage

namespace Link

/-- What has been received is the beginning of what arrives. -/
theorem received_append_payloads (plan : Plan) (link : Link) (n : Nat) :
    (link.passage plan n).run.received
      ++ (link.passage plan n).inbox.filterMap Delivery.payload? = link.payloads :=
  Passage.received_follow n _

/-- The run after so many events is the one that they tell. -/
theorem run_passage (plan : Plan) (link : Link) (n : Nat) :
    (link.passage plan n).run
      = (Run.start plan).steps plan (Passage.trace plan link n (.start plan link)) :=
  Passage.run_follow plan link n _

theorem course_passage (plan : Plan) (link : Link) (n : Nat) :
    Course plan (Passage.trace plan link n (.start plan link)) (link.passage plan n).run := by
  rw [run_passage]
  exact course_steps plan _

theorem passage_succ (plan : Plan) (link : Link) (n : Nat) :
    link.passage plan (n + 1) = (link.passage plan n).advance plan link := by
  rw [passage, Passage.follow_add]
  rfl

/-- **A happening is met by a run along a link** if it is met after some of
its events. -/
theorem happens_trace_iff (plan : Plan) (link : Link) (n : Nat) (what : Phase → Event → Prop) :
    Happens plan (Passage.trace plan link n (.start plan link)) what ↔
      ∃ m < n, ∃ moment event, (link.passage plan m).upcoming plan link = some (moment, event) ∧
        what (link.passage plan m).run.phase event := by
  induction n with
  | zero =>
    refine iff_of_false (not_happens_nil plan what) ?_
    rintro ⟨m, hm, -⟩
    exact Nat.not_lt_zero m hm
  | succ n ih =>
    have htrace : Passage.trace plan link (n + 1) (.start plan link)
        = Passage.trace plan link n (.start plan link)
          ++ (((link.passage plan n).upcoming plan link).map Prod.snd).toList := by
      rw [Passage.trace_add, Passage.trace, Passage.trace, List.append_nil]
      rfl
    have hlast : (∃ m < n + 1, ∃ moment event,
          (link.passage plan m).upcoming plan link = some (moment, event) ∧
            what (link.passage plan m).run.phase event) ↔
        (∃ m < n, ∃ moment event,
          (link.passage plan m).upcoming plan link = some (moment, event) ∧
            what (link.passage plan m).run.phase event) ∨
        ∃ moment event, (link.passage plan n).upcoming plan link = some (moment, event) ∧
          what (link.passage plan n).run.phase event := by
      constructor
      · rintro ⟨m, hm, hmet⟩
        rcases Nat.lt_succ_iff_lt_or_eq.mp hm with hlt | rfl
        · exact .inl ⟨m, hlt, hmet⟩
        · exact .inr hmet
      · rintro (⟨m, hm, hmet⟩ | hmet)
        · exact ⟨m, Nat.lt_succ_of_lt hm, hmet⟩
        · exact ⟨n, Nat.lt_succ_self n, hmet⟩
    rw [hlast, ← ih, htrace]
    cases hupcoming : (link.passage plan n).upcoming plan link with
    | none =>
      rw [Option.map_none, Option.toList_none, List.append_nil]
      refine (or_iff_left ?_).symm
      rintro ⟨_, _, ⟨⟩, _⟩
    | some next =>
      obtain ⟨moment, event⟩ := next
      rw [Option.map_some, Option.toList_some, happens_concat_iff, ← run_passage]
      refine or_congr_right ⟨fun h => ⟨moment, event, rfl, h⟩, ?_⟩
      rintro ⟨_, _, ⟨⟩, h⟩
      exact h

end Link

end EchoProbe.Probe
