import EchoProbe.Proofs.Probe.Account

/-!
# What the logs of a run record

A run logs the data messages that it takes and the frames that it sends. Here
the logs are tied to what happens: the message at an index of the one log is
the message that was taken in the wait of this number
(`getElem?_received_iff`), and the other log changes by nothing but the step
that sends (`Run.sent_step`). So nothing is sent any more after what ends a
run (`Run.sent_steps_of_ends`).
-/

namespace EchoProbe.Probe

/-! ## What is taken and what ends a run -/

/-- The number of the data message that a wait is for: first the welcome,
then the echoes. -/
def Phase.turn? : Phase → Option Nat
  | .greeting => some 0
  | .awaiting index => some (index + 1)
  | _ => none

/-- **A data message is taken** in the wait of this number. -/
inductive Takes : Nat → String → Phase → Event → Prop
  | welcome {m : Message} {text : String} (htext : m.payload? = some text) :
    Takes 0 text .greeting (.arrived (.message m))
  | answer {index : Nat} {m : Message} {text : String} (htext : m.payload? = some text) :
    Takes (index + 1) text (.awaiting index) (.arrived (.message m))

/-- **What ends a run** before all is answered: an upgrade that fails, a wait
that expires, a peer that closes the connection, an error of the transport, or
a cancellation. -/
inductive Ends : Phase → Event → Prop
  | unconnected {phase : Phase} {event : Event} (h : ConnectFails phase event) : Ends phase event
  | expired {phase : Phase} {event : Event} (h : Expires phase event) : Ends phase event
  | closed {phase : Phase} {event : Event} (h : Closes phase event) : Ends phase event
  | broken {phase : Phase} {event : Event} (h : Breaks phase event) : Ends phase event
  | cancelled {phase : Phase} : Ends phase .cancelled

/-- The payload that a wait ends with. -/
def Incoming.payload? : Incoming → Option String
  | .payload text => some text
  | _ => none

/-- The payload that an event brings to a phase that waits for one. -/
def taken? (phase : Phase) (event : Event) : Option String :=
  if phase.isWait then (Run.incoming? event).bind Incoming.payload? else none

theorem incoming?_payload_iff {event : Event} {text : String} :
    (Run.incoming? event).bind Incoming.payload? = some text ↔
      ∃ m, event = .arrived (.message m) ∧ m.payload? = some text := by
  constructor
  · intro h
    cases event with
    | arrived arrival =>
      cases arrival with
      | message m =>
        refine ⟨m, rfl, ?_⟩
        cases m <;> exact h
      | ended => cases h
      | failed error =>
        simp only [Run.incoming?, Incoming.of?] at h
        cases herror : error.closing? <;> (rw [herror] at h; cases h)
    | _ => cases h
  · rintro ⟨m, rfl, h⟩
    cases m <;> exact h

/-- Nothing is taken but what arrives. -/
theorem taken?_eq_none {phase : Phase} {event : Event}
    (h : ∀ arrival, event ≠ .arrived arrival) : taken? phase event = none := by
  refine Option.eq_none_iff_forall_ne_some.mpr fun text htaken => ?_
  unfold taken? at htaken
  split at htaken
  · obtain ⟨m, rfl, -⟩ := incoming?_payload_iff.mp htaken
    exact h _ rfl
  · cases htaken

theorem takes_iff {turn : Nat} {text : String} {phase : Phase} {event : Event} :
    Takes turn text phase event ↔ phase.turn? = some turn ∧ taken? phase event = some text := by
  constructor
  · rintro (htext | htext)
    · exact ⟨rfl, incoming?_payload_iff.mpr ⟨_, rfl, htext⟩⟩
    · exact ⟨rfl, incoming?_payload_iff.mpr ⟨_, rfl, htext⟩⟩
  · rintro ⟨hturn, htaken⟩
    cases phase with
    | greeting =>
      obtain ⟨m, rfl, htext⟩ := incoming?_payload_iff.mp htaken
      obtain rfl := Option.some.inj hturn
      exact .welcome htext
    | awaiting index =>
      obtain ⟨m, rfl, htext⟩ := incoming?_payload_iff.mp htaken
      obtain rfl := Option.some.inj hturn
      exact .answer htext
    | _ => cases hturn

/-! ## What one event logs -/

namespace Run

variable {plan : Plan} (run : Run)

theorem logs_proceed (index : Nat) :
    (run.proceed plan index).sent = run.sent ∧
      (run.proceed plan index).received = run.received := by
  unfold proceed
  split <;> exact ⟨rfl, rfl⟩

theorem logs_greeted (incoming : Incoming) :
    (run.greeted plan incoming).sent = run.sent ∧
      (run.greeted plan incoming).received = run.received ++ incoming.payload?.toList := by
  cases incoming with
  | payload text =>
    simp only [greeted]
    split
    · exact logs_proceed _ 0
    · exact ⟨rfl, rfl⟩
  | _ => exact ⟨rfl, (List.append_nil _).symm⟩

theorem logs_answered (index : Nat) (incoming : Incoming) :
    (run.answered plan index incoming).sent = run.sent ∧
      (run.answered plan index incoming).received
        = run.received ++ incoming.payload?.toList := by
  cases incoming with
  | payload text => exact logs_proceed _ _
  | _ => exact ⟨rfl, (List.append_nil _).symm⟩

theorem logs_undelivered (index : Nat) (error : TransportError) :
    (run.undelivered plan index error).sent = run.sent ∧
      (run.undelivered plan index error).received = run.received := by
  unfold undelivered
  split <;> exact ⟨rfl, rfl⟩

/-- **What an event logs**: the payload that is taken, and the frame that has
been sent. -/
theorem logs_complete (event : Event) :
    (run.complete plan event).received = run.received ++ (taken? run.phase event).toList ∧
      ((∀ index, run.phase = .sending index → event ≠ .sent) →
        (run.complete plan event).sent = run.sent) := by
  unfold complete taken?
  cases run.phase with
  | connecting =>
    refine ⟨?_, fun _ => ?_⟩
    · cases event <;> exact (List.append_nil _).symm
    · cases event <;> rfl
  | greeting =>
    dsimp only [Phase.isWait]
    cases incoming? event with
    | some incoming => exact ⟨(logs_greeted run incoming).2, fun _ => (logs_greeted run incoming).1⟩
    | none => exact ⟨(List.append_nil _).symm, fun _ => rfl⟩
  | pausing index =>
    refine ⟨?_, fun _ => ?_⟩
    · cases event <;> exact (List.append_nil _).symm
    · cases event <;> rfl
  | sending index =>
    cases event with
    | sent => exact ⟨(List.append_nil _).symm, fun h => absurd rfl (h index rfl)⟩
    | unsent error =>
      exact ⟨(logs_undelivered run index error).2.trans (List.append_nil _).symm,
        fun _ => (logs_undelivered run index error).1⟩
    | _ => exact ⟨(List.append_nil _).symm, fun _ => rfl⟩
  | awaiting index =>
    dsimp only [Phase.isWait]
    cases incoming? event with
    | some incoming =>
      exact ⟨(logs_answered run index incoming).2, fun _ => (logs_answered run index incoming).1⟩
    | none => exact ⟨(List.append_nil _).symm, fun _ => rfl⟩
  | finished => exact ⟨(List.append_nil _).symm, fun _ => rfl⟩
  | cancelled => exact ⟨(List.append_nil _).symm, fun _ => rfl⟩

theorem isWait_of_isOver (h : run.isOver = true) : run.phase.isWait = false := by
  unfold isOver at h
  cases hphase : run.phase with
  | finished => rfl
  | cancelled => rfl
  | _ => rw [hphase] at h; exact absurd h Bool.false_ne_true

/-- **The log of what was received** grows by what is taken. -/
theorem received_step (event : Event) :
    (run.step plan event).received = run.received ++ (taken? run.phase event).toList := by
  by_cases hover : run.isOver = true
  · rw [step_of_isOver hover, taken?, isWait_of_isOver run hover]
    exact (List.append_nil _).symm
  · by_cases hcancelled : event = .cancelled
    · subst hcancelled
      rw [step, if_neg hover, taken?]
      split <;> exact (List.append_nil _).symm
    · rw [step_of_not_isOver hover plan hcancelled]
      exact (logs_complete run event).1

/-- **The log of what was sent** changes by a sending alone. -/
theorem sent_step {event : Event} (h : ∀ index, run.phase = .sending index → event ≠ .sent) :
    (run.step plan event).sent = run.sent := by
  by_cases hover : run.isOver = true
  · rw [step_of_isOver hover]
  · by_cases hcancelled : event = .cancelled
    · subst hcancelled
      rw [step, if_neg hover]
    · rw [step_of_not_isOver hover plan hcancelled]
      exact (logs_complete run event).2 h

theorem steps_of_isOver (h : run.isOver = true) (events : List Event) :
    run.steps plan events = run := by
  induction events with
  | nil => rfl
  | cons event events ih =>
    show (run.step plan event).steps plan events = run
    rw [step_of_isOver h, ih]

variable {run}

theorem isOver_greeted_of_ends {incoming : Incoming} (h : incoming.payload? = none) :
    (run.greeted plan incoming).isOver = true := by
  cases incoming with
  | payload text => cases h
  | _ => rfl

theorem isOver_answered_of_ends {index : Nat} {incoming : Incoming}
    (h : incoming.payload? = none) : (run.answered plan index incoming).isOver = true := by
  cases incoming with
  | payload text => cases h
  | _ => rfl

/-- A wait that ends without a payload ends the run. -/
theorem isOver_complete_of_wait {event : Event} {incoming : Incoming}
    (hwait : run.phase.isWait = true) (hincoming : incoming? event = some incoming)
    (h : incoming.payload? = none) : (run.complete plan event).isOver = true := by
  unfold complete
  cases hphase : run.phase with
  | greeting =>
    simp only [hincoming]
    exact isOver_greeted_of_ends h
  | awaiting index =>
    simp only [hincoming]
    exact isOver_answered_of_ends h
  | _ => rw [hphase] at hwait; exact absurd hwait Bool.false_ne_true

theorem isOver_complete_of_connectFails {event : Event} (h : ConnectFails run.phase event) :
    (run.complete plan event).isOver = true := by
  have hphase := h.phase_eq
  rw [hphase] at h
  unfold complete
  rw [hphase]
  cases h <;> rfl

theorem isOver_complete_unsent {index : Nat} (hphase : run.phase = .sending index)
    (error : TransportError) : (run.complete plan (.unsent error)).isOver = true := by
  simp only [complete, hphase, undelivered]
  split <;> rfl

/-- **What ends a run ends it at once.** -/
theorem isOver_step_of_ends {event : Event} (h : Ends run.phase event) :
    (run.step plan event).isOver = true := by
  by_cases hover : run.isOver = true
  · rw [step_of_isOver hover]
    exact hover
  · by_cases hcancelled : event = .cancelled
    · subst hcancelled
      rw [step, if_neg hover]
      rfl
    · rw [step_of_not_isOver hover plan hcancelled]
      have hconnect : ConnectFails run.phase event → (run.complete plan event).isOver = true :=
        isOver_complete_of_connectFails
      generalize hphase : run.phase = phase at h hconnect
      have hwaits : ∀ incoming, phase.isWait = true → incoming? event = some incoming →
          incoming.payload? = none → (run.complete plan event).isOver = true :=
        fun incoming hwait => isOver_complete_of_wait (hphase ▸ hwait)
      cases h with
      | unconnected h => exact hconnect h
      | expired h =>
        obtain ⟨hwait⟩ := h
        exact hwaits _ hwait rfl rfl
      | closed h =>
        cases h with
        | said hwait => exact hwaits _ hwait rfl rfl
        | ended hwait => exact hwaits _ hwait rfl rfl
        | @received _ error reason hwait herror =>
          refine hwaits (.closed reason) hwait ?_ rfl
          simp only [incoming?, Incoming.of?, herror]
        | sent herror => exact isOver_complete_unsent hphase _
      | broken h =>
        cases h with
        | @received _ error hwait herror =>
          refine hwaits (.broken error.message) hwait ?_ rfl
          simp only [incoming?, Incoming.of?, herror]
        | sent herror => exact isOver_complete_unsent hphase _
      | cancelled => exact absurd rfl hcancelled

/-- **Nothing is sent after what ends a run.** -/
theorem sent_steps_of_ends {event : Event} (h : Ends run.phase event) (events : List Event) :
    ((run.step plan event).steps plan events).sent = run.sent := by
  rw [steps_of_isOver _ (isOver_step_of_ends h)]
  refine sent_step run ?_
  rintro index hphase rfl
  rw [hphase] at h
  cases h with
  | unconnected h => cases h
  | expired h => cases h
  | closed h => cases h
  | broken h => cases h

end Run

/-! ## The log of what was received -/

variable {plan : Plan} {events : List Event} {run : Run}

theorem Place.length_received (h : Place plan run) {turn : Nat}
    (hturn : run.phase.turn? = some turn) : run.received.length = turn := by
  cases h with
  | greeting => exact Option.some.inj hturn
  | awaiting hwelcome hlt => exact Option.some.inj hturn
  | _ => cases hturn

/-- In the wait for a message so many have been received. -/
theorem Course.length_received (h : Course plan events run) {turn : Nat}
    (hturn : run.phase.turn? = some turn) : run.received.length = turn := by
  cases h with
  | underway hplace => exact hplace.length_received hturn
  | stopped hphase _ _ _ _ =>
    rw [hphase] at hturn
    cases hturn
  | _ => cases hturn

/-- **The message at an index** of the log is the one that was taken in the
wait of this number. -/
theorem getElem?_received_iff (plan : Plan) (events : List Event) (turn : Nat) (text : String) :
    ((Run.start plan).steps plan events).received[turn]? = some text ↔
      Happens plan events (Takes turn text) := by
  induction events using List.reverseRecOn with
  | nil => exact iff_of_false (Option.some_ne_none _).symm (not_happens_nil plan _)
  | append_singleton events event ih =>
    have hcourse := course_steps plan events
    rw [happens_concat_iff, ← ih, Run.steps_concat, Run.received_step, takes_iff]
    generalize (Run.start plan).steps plan events = run at hcourse
    cases htaken : taken? run.phase event with
    | none =>
      rw [Option.toList_none, List.append_nil]
      exact (or_iff_left fun h => Option.some_ne_none _ h.2.symm).symm
    | some text' =>
      obtain ⟨turn', hturn⟩ : ∃ turn', run.phase.turn? = some turn' := by
        unfold taken? at htaken
        cases hphase : run.phase with
        | greeting => exact ⟨0, rfl⟩
        | awaiting index => exact ⟨index + 1, rfl⟩
        | _ => rw [hphase] at htaken; cases htaken
      have hlength := hcourse.length_received hturn
      -- the new message stands at the end of the log
      rw [hturn, Option.some.injEq, Option.some.injEq, ← hlength, Option.toList_some,
        List.getElem?_append]
      rcases Nat.lt_trichotomy turn run.received.length with hlt | rfl | hlt
      · rw [if_pos hlt]
        exact (or_iff_left fun h => absurd h.1 (Nat.ne_of_gt hlt)).symm
      · rw [if_neg (Nat.lt_irrefl _), Nat.sub_self, List.getElem?_eq_none (Nat.le_refl _)]
        simp
      · rw [if_neg (Nat.not_lt_of_gt hlt), List.getElem?_eq_none (Nat.le_of_lt hlt),
          List.getElem?_eq_none (by rw [List.length_singleton]; omega)]
        exact (or_iff_left fun h => absurd h.1 (Nat.ne_of_lt hlt)).symm

/-! ## What the logs say of each other -/

variable {answers : List String}

theorem Log.sent_prefix (h : Log plan answers run) : run.sent <+: plan.wires := by
  cases h with
  | unwelcomed hsent _ _ _ =>
    rw [hsent]
    exact List.nil_prefix
  | welcomed _ _ _ hsent _ _ =>
    rcases hsent with hsent | ⟨-, hsent⟩
    · rw [hsent]
      exact List.take_prefix _ _
    · rw [hsent]
      exact List.take_prefix _ _

theorem Log.length_sent_le (h : Log plan answers run) :
    run.sent.length ≤ run.received.length := by
  cases h with
  | unwelcomed hsent _ _ _ =>
    rw [hsent]
    exact Nat.zero_le _
  | welcomed _ hreceived _ hsent _ _ =>
    rw [hreceived, List.length_cons]
    rcases hsent with hsent | ⟨-, hsent⟩
    · rw [hsent]
      exact Nat.le_succ_of_le (List.length_take_le _ _)
    · rw [hsent]
      exact List.length_take_le _ _

theorem Log.exists_welcome (h : Log plan answers run) (hsent : run.sent ≠ []) :
    ∃ text, run.received.head? = some text ∧ verifyWelcome text = .verified := by
  cases h with
  | unwelcomed hnone _ _ _ => exact absurd hnone hsent
  | @welcomed run welcome answers hwelcome hreceived _ _ _ _ =>
    exact ⟨welcome, by rw [hreceived]; rfl, hwelcome⟩

/-- The answers are the data messages behind the first. -/
theorem Log.getElem?_answers (h : Log plan answers run) (index : Nat) :
    answers[index]? = run.received[index + 1]? := by
  cases h with
  | unwelcomed _ _ hlength _ =>
    rw [List.getElem?_nil, List.getElem?_eq_none (by omega)]
  | welcomed _ hreceived _ _ _ _ => rw [hreceived, List.getElem?_cons_succ]

theorem Log.length_le_size (h : Log plan answers run) : answers.length ≤ plan.size := by
  cases h with
  | unwelcomed _ _ _ _ => exact Nat.zero_le _
  | welcomed _ _ hle _ _ _ => exact hle

theorem Log.length_sent (h : Log plan answers run) :
    run.sent.length = answers.length ∨ run.sent.length = answers.length + 1 := by
  cases h with
  | unwelcomed hsent _ _ _ => exact .inl (congrArg List.length hsent)
  | welcomed _ _ hle hsent _ _ =>
    rcases hsent with hsent | ⟨hlt, hsent⟩
    · left
      rw [hsent, List.length_take, Plan.length_wires, Nat.min_eq_left hle]
    · right
      rw [hsent, List.length_take, Plan.length_wires, Nat.min_eq_left hlt]

theorem Log.length_received (h : Log plan answers run) (hwelcome : run.report.welcome = .verified) :
    run.received.length = answers.length + 1 := by
  cases h with
  | unwelcomed _ _ _ hnone => exact absurd hwelcome hnone
  | welcomed _ hreceived _ _ _ _ => rw [hreceived, List.length_cons]

theorem Log.eq_nil_of_unwelcomed (h : Log plan answers run)
    (hnone : run.report.upgrade = false ∨ run.report.welcome ≠ .verified) :
    answers.length = 0 ∧ run.sent = [] := by
  cases h with
  | unwelcomed hsent _ _ _ => exact ⟨rfl, hsent⟩
  | welcomed _ _ _ _ hwelcome hupgrade =>
    rcases hnone with hnone | hnone
    · rw [hupgrade] at hnone
      cases hnone
    · exact absurd hwelcome hnone

end EchoProbe.Probe
