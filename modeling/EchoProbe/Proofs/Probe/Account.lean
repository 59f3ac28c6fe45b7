import EchoProbe.Proofs.Probe.Exchanges
import EchoProbe.Proofs.Probe.Happening

/-!
# What a run has to show

At every point of a run its report and its logs are those of so many
*answers*, the data messages that were taken for echoes: the exchanges with an
answer have the check of this answer, and all later ones are open, for a
reason (`Plan.exchanges`). The welcome comes before all answers, and nothing
is sent without it (`Account`).

As long as a run is under way there are few places where it can be (`Place`),
and the reason is always the same. Only an event that stops the run before
its end puts another reason there, and which one depends on the event alone
(`Stops`). So `Course` says all there is to say of a run: it is at a place,
or was cancelled there, or all frames have got an answer, or it was stopped.
-/

namespace EchoProbe.Probe

variable (plan : Plan)

/-! ## What stops a run -/

/-- The peer ends the connection, and the probe gets to know it: in a wait,
or because nothing can be sent any more. -/
inductive Closes : Phase → Event → Prop
  | said {phase : Phase} {frame : Option CloseFrame} (hwait : phase.isWait = true) :
    Closes phase (.arrived (.message (.close frame)))
  | ended {phase : Phase} (hwait : phase.isWait = true) : Closes phase (.arrived .ended)
  | received {phase : Phase} {error : TransportError} {reason : String}
      (hwait : phase.isWait = true) (herror : error.closing? = some reason) :
    Closes phase (.arrived (.failed error))
  | sent {index : Nat} {error : TransportError} {reason : String}
      (herror : error.closing? = some reason) : Closes (.sending index) (.unsent error)

/-- What closes a wait is a close by the peer. -/
theorem closes_of_incoming? {phase : Phase} {event : Event} {reason : String}
    (hwait : phase.isWait = true) (h : Run.incoming? event = some (.closed reason)) :
    Closes phase event := by
  cases event with
  | arrived arrival =>
    cases arrival with
    | message m =>
      cases m with
      | close frame => exact .said hwait
      | _ => cases h
    | ended => exact .ended hwait
    | failed error =>
      cases herror : error.closing? with
      | some reason => exact .received hwait herror
      | none =>
        simp only [Run.incoming?, Incoming.of?, herror] at h
        cases h
  | _ => cases h

/-- **What stops a run before its end**, how many answers it has got by then,
and the reason that is left in each exchange without an answer. -/
inductive Stops : Phase → Event → Nat → (Nat → String) → Prop
  /-- There is no connection. -/
  | unconnected {event : Event} (h : ConnectFails .connecting event) :
    Stops .connecting event 0 fun _ => "not sent"
  /-- The wait for the welcome ends with something else. -/
  | misgreeted {event : Event} (h : GreetsWrong .greeting event) :
    Stops .greeting event 0 fun _ => "not sent"
  | greetingBroken {event : Event} (h : Breaks .greeting event) :
    Stops .greeting event 0 fun _ => "not sent"
  | greetingClosed {event : Event} (h : Closes .greeting event) :
    Stops .greeting event 0 fun _ => "peer closed"
  | greetingExpired : Stops .greeting .expired 0 fun _ => "welcome not received"
  /-- A frame cannot be sent. -/
  | sendingBroken {index : Nat} {event : Event} (h : Breaks (.sending index) event) :
    Stops (.sending index) event index fun _ => "send failed"
  | sendingClosed {index : Nat} {event : Event} (h : Closes (.sending index) event) :
    Stops (.sending index) event index fun _ => "peer closed"
  /-- The wait for an echo ends without any. -/
  | awaitingBroken {index : Nat} {event : Event} (h : Breaks (.awaiting index) event) :
    Stops (.awaiting index) event index fun _ => "receive failed"
  | awaitingClosed {index : Nat} {event : Event} (h : Closes (.awaiting index) event) :
    Stops (.awaiting index) event index fun _ => "peer closed"
  /-- Only the frame that was sent last has waited for its echo. -/
  | awaitingExpired {index : Nat} :
    Stops (.awaiting index) .expired index fun i =>
      if i = index then "no echo within " ++ plan.settings.exchangeTimeout.toText
      else "skipped after timeout"

/-! ## Where a run can be -/

/-- The report after a verified welcome and these answers. -/
def Plan.midway (answers : List String) : Report :=
  { Report.pending plan.target plan.script.frames with
    upgrade := true
    welcome := .verified
    exchanges := plan.exchanges answers fun _ => "not sent" }

/-- **Where a run can be** as long as it is under way. -/
inductive Place : Run → Prop
  | connecting : Place (.start plan)
  | greeting : Place (Run.start plan).upgraded
  | pausing {welcome : String} {answers : List String}
      (hwelcome : verifyWelcome welcome = .verified) (hlt : answers.length < plan.size) :
    Place ⟨.pausing answers.length, plan.midway answers, plan.wires.take answers.length,
      welcome :: answers⟩
  | sending {welcome : String} {answers : List String}
      (hwelcome : verifyWelcome welcome = .verified) (hlt : answers.length < plan.size) :
    Place ⟨.sending answers.length, plan.midway answers, plan.wires.take answers.length,
      welcome :: answers⟩
  | awaiting {welcome : String} {answers : List String}
      (hwelcome : verifyWelcome welcome = .verified) (hlt : answers.length < plan.size) :
    Place ⟨.awaiting answers.length, plan.midway answers, plan.wires.take (answers.length + 1),
      welcome :: answers⟩

/-- **What the logs of a run say**, given its answers. -/
inductive Log : List String → Run → Prop
  /-- There was no welcome, and nothing was sent. -/
  | unwelcomed {run : Run} (hsent : run.sent = [])
      (hreceived : ∀ text ∈ run.received, verifyWelcome text ≠ .verified)
      (hlength : run.received.length ≤ 1) (hwelcome : run.report.welcome ≠ .verified) :
    Log [] run
  /-- After the welcome, each frame but the last one sent has its answer. -/
  | welcomed {run : Run} {welcome : String} {answers : List String}
      (hparse : verifyWelcome welcome = .verified) (hreceived : run.received = welcome :: answers)
      (hle : answers.length ≤ plan.size)
      (hsent : run.sent = plan.wires.take answers.length ∨
        answers.length < plan.size ∧ run.sent = plan.wires.take (answers.length + 1))
      (hwelcome : run.report.welcome = .verified) (hupgrade : run.report.upgrade = true) :
    Log answers run

/-- **What a run has to show**: its answers, and why it has no more. -/
structure Account (answers : List String) (reason : Nat → String) (run : Run) : Prop where
  exchanges_eq : run.report.exchanges = plan.exchanges answers reason
  log : Log plan answers run

/-- **Where an event leads to** that belongs to the phase. -/
inductive Leads (phase : Phase) (event : Event) : Run → Prop
  /-- The run is under way. -/
  | place {run : Run} (h : Place plan run) : Leads phase event run
  /-- Every frame has got its answer. -/
  | completed {welcome : String} {answers : List String}
      (hwelcome : verifyWelcome welcome = .verified) (hsize : answers.length = plan.size) :
    Leads phase event ⟨.finished,
      (plan.midway answers).conclude .completed plan.settings.strict, plan.wires,
      welcome :: answers⟩
  /-- The run was stopped. -/
  | stopped {answers : List String} {reason : Nat → String} {run : Run}
      (hphase : run.phase = .finished) (hstops : Stops plan phase event answers.length reason)
      (h : Account plan answers reason run)
      (hopen : run.report.welcome = .verified → answers.length < plan.size)
      (hsuccess : run.report.outcome.isSuccess = true → ∀ i, ¬ run.report.IsMismatchAt i) :
    Leads phase event run

variable {plan} {answers : List String} {reason : Nat → String} {run : Run} {event : Event}
  {phase : Phase} {welcome : String}

/-- Before the welcome there is nothing to show. -/
theorem account_nil (hexchanges : run.report.exchanges = (Run.start plan).report.exchanges)
    (hsent : run.sent = []) (hreceived : run.received = [])
    (hwelcome : run.report.welcome ≠ .verified) : Account plan [] (fun _ => "not sent") run := by
  refine ⟨hexchanges.trans (plan.exchanges_nil plan.target), .unwelcomed hsent ?_ ?_ hwelcome⟩
  · rw [hreceived]
    exact List.forall_mem_nil _
  · rw [hreceived]
    exact Nat.zero_le 1

/-- At each place the run has to show the answers it got. -/
theorem Place.exists_account (h : Place plan run) :
    ∃ answers, Account plan answers (fun _ => "not sent") run := by
  cases h with
  | connecting =>
    exact ⟨[], account_nil rfl rfl rfl (by rintro ⟨⟩)⟩
  | greeting =>
    exact ⟨[], account_nil rfl rfl rfl (by rintro ⟨⟩)⟩
  | pausing hwelcome hlt =>
    exact ⟨_, rfl, .welcomed hwelcome rfl (Nat.le_of_lt hlt) (.inl rfl) rfl rfl⟩
  | sending hwelcome hlt =>
    exact ⟨_, rfl, .welcomed hwelcome rfl (Nat.le_of_lt hlt) (.inl rfl) rfl rfl⟩
  | awaiting hwelcome hlt =>
    exact ⟨_, rfl, .welcomed hwelcome rfl (Nat.le_of_lt hlt) (.inr ⟨hlt, rfl⟩) rfl rfl⟩

/-- The logs do not change with the outcome and the exchanges. -/
theorem Log.congr {run' : Run} (h : Log plan answers run) (hsent : run'.sent = run.sent)
    (hreceived : run'.received = run.received)
    (hwelcome : run'.report.welcome = run.report.welcome)
    (hupgrade : run'.report.upgrade = run.report.upgrade) : Log plan answers run' := by
  cases h with
  | unwelcomed hs hr hl hw =>
    exact .unwelcomed (hsent.trans hs) (by rwa [hreceived]) (by rwa [hreceived])
      (by rwa [hwelcome])
  | welcomed hp hr hle hs hw hu =>
    exact .welcomed hp (hreceived.trans hr) hle (by rwa [hsent]) (hwelcome.trans hw)
      (hupgrade.trans hu)

/-! ## What each event does -/

/-- Going on to the next frame, or to the end. -/
theorem leads_proceed (hwelcome : verifyWelcome welcome = .verified)
    (hle : answers.length ≤ plan.size) (before : Phase) :
    Leads plan phase event (Run.proceed plan
      ⟨before, plan.midway answers, plan.wires.take answers.length, welcome :: answers⟩
      answers.length) := by
  by_cases hlt : answers.length < plan.size
  · rw [Run.proceed, if_pos hlt]
    by_cases hpause : (0 < answers.length && !plan.script.pause.isZero) = true
    · simp only [if_pos hpause]
      exact .place (.pausing hwelcome hlt)
    · simp only [if_neg hpause]
      exact .place (.sending hwelcome hlt)
  · have hsize : answers.length = plan.size := Nat.le_antisymm hle (Nat.not_lt.mp hlt)
    have hall : plan.wires.take answers.length = plan.wires :=
      List.take_of_length_le (by rw [Plan.length_wires, hsize])
    rw [Run.proceed, if_neg hlt, hall]
    exact .completed hwelcome hsize

/-- **A run that is given up** is stopped: the reason reaches every exchange
from the first one without an answer on. -/
theorem leads_giveUp {before : Nat → String} {index : Nat} {why : String} {ending : Ending}
    (hending : ending ≠ .broken) (hstops : Stops plan phase event answers.length reason)
    (h : Account plan answers before run)
    (hopen : run.report.welcome = .verified → answers.length < plan.size)
    (hreason : ∀ i, answers.length ≤ i → (if index ≤ i then why else before i) = reason i) :
    Leads plan phase event (run.giveUp plan index why ending) := by
  have hsuccess : (run.giveUp plan index why ending).report.outcome.isSuccess = true →
      ∀ i, ¬ (run.giveUp plan index why ending).report.IsMismatchAt i :=
    (run.report.abandonFrom index why).not_isMismatchAt_conclude hending
  obtain ⟨outcome, heq⟩ :=
    (run.report.abandonFrom index why).exists_conclude_eq ending plan.settings.strict
  have hgiveUp : run.giveUp plan index why ending
      = run.finish { run.report.abandonFrom index why with outcome } := by
    rw [Run.giveUp, heq]
  rw [hgiveUp] at hsuccess ⊢
  refine .stopped rfl hstops ⟨?_, h.log.congr rfl rfl rfl rfl⟩ hopen hsuccess
  show (run.report.abandonFrom index why).exchanges = _
  rw [Plan.exchanges_abandonFrom h.exchanges_eq]
  exact Plan.exchanges_congr hreason

/-- So is a run whose transport breaks in an exchange. -/
theorem leads_breakOff {before : Nat → String} {why failure : String}
    (hstops : Stops plan phase event answers.length fun _ => why)
    (h : Account plan answers before run)
    (hlt : answers.length < plan.size) :
    Leads plan phase event (run.breakOff answers.length why failure) := by
  refine .stopped rfl hstops ⟨?_, h.log.congr rfl rfl rfl rfl⟩ (fun _ => hlt) (by rintro ⟨⟩)
  show (run.report.abandonFrom answers.length why).exchanges = _
  rw [Plan.exchanges_abandonFrom h.exchanges_eq]
  exact Plan.exchanges_congr fun i hi => if_pos hi

/-- So is a run that fails before the first exchange. -/
theorem leads_fail {before : Nat → String} {failure : String}
    (hstops : Stops plan phase event 0 before) (h : Account plan [] before run)
    (hopen : run.report.welcome ≠ .verified) :
    Leads plan phase event (run.fail failure) := by
  have haccount : Account plan [] before (run.fail failure) :=
    ⟨h.exchanges_eq, h.log.congr rfl rfl rfl rfl⟩
  refine .stopped rfl ?_ haccount (fun h => absurd h hopen) (by rintro ⟨⟩)
  exact hstops

theorem leads_connecting (event : Event) :
    Leads plan .connecting event ((Run.start plan).complete plan event) := by
  have hfail : ∀ failure, ConnectFails .connecting event →
      Leads plan .connecting event ((Run.start plan).fail failure) := by
    intro failure hfails
    have hwelcome : (Run.start plan).report.welcome ≠ .verified := by rintro ⟨⟩
    exact leads_fail (.unconnected hfails) (account_nil rfl rfl rfl hwelcome) hwelcome
  cases event with
  | opened => exact .place .greeting
  | refused error => exact hfail _ (.refused error)
  | unopened => exact hfail _ .unopened
  | _ => exact .place .connecting

theorem leads_greeting (event : Event) :
    Leads plan .greeting event ((Run.start plan).upgraded.complete plan event) := by
  have hwaits : Waits plan .greeting event (Run.incoming? event) := waits plan rfl event
  have hcloses : ∀ reason, Run.incoming? event = some (.closed reason) → Closes .greeting event :=
    fun _ => closes_of_incoming? rfl
  have hnone : ∀ reason, Account plan [] (fun _ => "not sent")
      ((Run.start plan).upgraded.setWelcome (.unverified reason)) :=
    fun _ => account_nil rfl rfl rfl (by rintro ⟨⟩)
  have hphase : (Run.start plan).upgraded.phase = .greeting := rfl
  simp only [Run.complete, hphase]
  generalize Run.incoming? event = incoming at hwaits hcloses
  cases hwaits with
  | @payload m text htext =>
    by_cases hverified : verifyWelcome text = .verified
    · have hreport : { (Run.start plan).upgraded.report with welcome := .verified }
          = plan.midway [] :=
        congrArg (fun exchanges => { plan.midway [] with exchanges })
          (plan.exchanges_nil plan.target)
      have hgreeted : (Run.start plan).upgraded.greeted plan (.payload text)
          = Run.proceed plan ⟨.greeting, plan.midway [], [], [text]⟩ 0 := by
        rw [← hreport]
        simp only [Run.greeted, hverified]
        rfl
      show Leads plan .greeting _ ((Run.start plan).upgraded.greeted plan (.payload text))
      rw [hgreeted]
      exact leads_proceed hverified (Nat.zero_le _) .greeting
    · have hfails : (verifyWelcome text).isVerified ≠ true := by
        rwa [ne_eq, Check.isVerified_iff]
      simp only [Run.greeted, hfails]
      refine leads_fail (.misgreeted (.intro htext ?_))
        ⟨plan.exchanges_nil plan.target, .unwelcomed rfl ?_ (Nat.le_refl 1) hverified⟩ hverified
      · intro message path timestamp hparse
        exact hfails ((isVerified_verifyWelcome_iff text).mpr ⟨message, path, timestamp, hparse⟩)
      · intro text' htext'
        rwa [List.mem_singleton.mp htext']
  | closed _ =>
    exact leads_giveUp (by rintro ⟨⟩) (.greetingClosed (hcloses _ rfl)) (hnone _) (by rintro ⟨⟩)
      fun i _ => if_pos (Nat.zero_le i)
  | expired =>
    exact leads_giveUp (by rintro ⟨⟩) .greetingExpired (hnone _) (by rintro ⟨⟩)
      fun i _ => if_pos (Nat.zero_le i)
  | broken herror =>
    exact leads_fail (.greetingBroken (.received rfl herror)) (hnone "not received")
      (by rintro ⟨⟩)
  | skipped _ => exact .place .greeting

theorem leads_pausing (hwelcome : verifyWelcome welcome = .verified)
    (hlt : answers.length < plan.size) (event : Event) :
    Leads plan (.pausing answers.length) event (Run.complete plan
      ⟨.pausing answers.length, plan.midway answers, plan.wires.take answers.length,
        welcome :: answers⟩ event) := by
  cases event with
  | resumed => exact .place (.sending hwelcome hlt)
  | _ => exact .place (.pausing hwelcome hlt)

theorem leads_sending (hwelcome : verifyWelcome welcome = .verified)
    (hlt : answers.length < plan.size) (event : Event) :
    Leads plan (.sending answers.length) event (Run.complete plan
      ⟨.sending answers.length, plan.midway answers, plan.wires.take answers.length,
        welcome :: answers⟩ event) := by
  cases event with
  | sent =>
    refine .place ?_
    simp only [Run.complete, Run.delivered]
    rw [← Plan.take_succ_wires hlt]
    exact .awaiting hwelcome hlt
  | unsent error =>
    have haccount : Account plan answers (fun _ => "not sent")
        ⟨.sending answers.length, plan.midway answers, plan.wires.take answers.length,
          welcome :: answers⟩ :=
      ⟨rfl, .welcomed hwelcome rfl (Nat.le_of_lt hlt) (.inl rfl) rfl rfl⟩
    cases herror : error.closing? with
    | some reason =>
      simp only [Run.complete, Run.undelivered, herror]
      exact leads_giveUp (by rintro ⟨⟩) (.sendingClosed (.sent herror)) haccount (fun _ => hlt)
        fun i hi => if_pos hi
    | none =>
      simp only [Run.complete, Run.undelivered, herror]
      exact leads_breakOff (.sendingBroken (.sent herror)) haccount hlt
  | _ => exact .place (.sending hwelcome hlt)

theorem leads_awaiting (hwelcome : verifyWelcome welcome = .verified)
    (hlt : answers.length < plan.size) (event : Event) :
    Leads plan (.awaiting answers.length) event (Run.complete plan
      ⟨.awaiting answers.length, plan.midway answers, plan.wires.take (answers.length + 1),
        welcome :: answers⟩ event) := by
  have hwaits : Waits plan (.awaiting answers.length) event (Run.incoming? event) :=
    waits plan rfl event
  have hcloses : ∀ reason, Run.incoming? event = some (.closed reason) →
      Closes (.awaiting answers.length) event := fun _ => closes_of_incoming? rfl
  have haccount : Account plan answers (fun _ => "not sent")
      ⟨.awaiting answers.length, plan.midway answers, plan.wires.take (answers.length + 1),
        welcome :: answers⟩ :=
    ⟨rfl, .welcomed hwelcome rfl (Nat.le_of_lt hlt) (.inr ⟨hlt, rfl⟩) rfl rfl⟩
  simp only [Run.complete]
  generalize Run.incoming? event = incoming at hwaits hcloses
  cases hwaits with
  | @payload m text htext =>
    have hreport : (plan.midway answers).setCheck answers.length
          (verifyEcho (plan.wire answers.length) text) = plan.midway (answers ++ [text]) :=
      congrArg (fun exchanges => { plan.midway answers with exchanges })
        (Plan.exchanges_setCheck_answer rfl text)
    have hlength : (answers ++ [text]).length = answers.length + 1 := List.length_append
    simp only [Run.answered, Run.receive, Run.setCheck, hreport, List.cons_append]
    rw [← hlength]
    exact leads_proceed hwelcome (by rw [hlength]; exact hlt) _
  | closed _ =>
    exact leads_giveUp (by rintro ⟨⟩) (.awaitingClosed (hcloses _ rfl)) haccount (fun _ => hlt)
      fun i hi => if_pos hi
  | expired =>
    -- the frame that was sent last has a reason of its own
    refine leads_giveUp (by rintro ⟨⟩) .awaitingExpired
      ⟨Plan.exchanges_setCheck_open haccount.exchanges_eq (Nat.le_refl _) _,
        haccount.log.congr rfl rfl rfl rfl⟩ (fun _ => hlt) fun i hi => ?_
    rcases Nat.eq_or_lt_of_le hi with rfl | hi
    · rw [if_neg (Nat.not_succ_le_self _), if_pos rfl, if_pos rfl]
    · rw [if_pos (Nat.succ_le_of_lt hi), if_neg (Nat.ne_of_gt hi)]
  | broken herror =>
    exact leads_breakOff (.awaitingBroken (.received rfl herror)) haccount hlt
  | skipped _ => exact .place (.awaiting hwelcome hlt)

/-- **Each event leads somewhere.** -/
theorem Place.leads (h : Place plan run) (event : Event) :
    Leads plan run.phase event (run.complete plan event) := by
  cases h with
  | connecting => exact leads_connecting event
  | greeting => exact leads_greeting event
  | pausing hwelcome hlt => exact leads_pausing hwelcome hlt event
  | sending hwelcome hlt => exact leads_sending hwelcome hlt event
  | awaiting hwelcome hlt => exact leads_awaiting hwelcome hlt event

theorem Place.isOver_eq_false (h : Place plan run) : run.isOver = false := by
  cases h <;> rfl

theorem Place.phase_ne_finished (h : Place plan run) : run.phase ≠ .finished := by
  cases h <;> rintro ⟨⟩

/-! ## Whole runs -/

/-- **What there is to say of a run** that these events tell. -/
inductive Course (plan : Plan) (events : List Event) : Run → Prop
  /-- It is under way. -/
  | underway {run : Run} (h : Place plan run) : Course plan events run
  /-- It was cancelled. -/
  | cancelled {run : Run} (h : Place plan run) : Course plan events { run with phase := .cancelled }
  /-- Every frame has got its answer. -/
  | completed {welcome : String} {answers : List String}
      (hwelcome : verifyWelcome welcome = .verified) (hsize : answers.length = plan.size) :
    Course plan events ⟨.finished, (plan.midway answers).conclude .completed plan.settings.strict,
      plan.wires, welcome :: answers⟩
  /-- It was stopped at some point. -/
  | stopped {answers : List String} {reason : Nat → String} {run : Run}
      (hphase : run.phase = .finished)
      (hstops : Happens plan events fun phase event =>
        Stops plan phase event answers.length reason)
      (h : Account plan answers reason run)
      (hopen : run.report.welcome = .verified → answers.length < plan.size)
      (hsuccess : run.report.outcome.isSuccess = true → ∀ i, ¬ run.report.IsMismatchAt i) :
    Course plan events run

variable {events : List Event}

/-- **One event more.** -/
theorem Course.step (hrun : (Run.start plan).steps plan events = run) (h : Course plan events run)
    (event : Event) : Course plan (events ++ [event]) (run.step plan event) := by
  cases h with
  | underway hplace =>
    have hover : ¬ run.isOver = true := by
      rw [hplace.isOver_eq_false]
      exact Bool.false_ne_true
    by_cases hcancelled : event = .cancelled
    · subst hcancelled
      rw [Run.step, if_neg hover]
      exact .cancelled hplace
    · rw [Run.step_of_not_isOver hover plan hcancelled]
      have hleads := hplace.leads event
      generalize run.complete plan event = run' at hleads
      cases hleads with
      | place hplace => exact .underway hplace
      | completed hwelcome hsize => exact .completed hwelcome hsize
      | stopped hphase hstops haccount hopen hsuccess =>
        refine .stopped hphase ?_ haccount hopen hsuccess
        rw [happens_concat_iff, hrun]
        exact .inr hstops
  | cancelled hplace =>
    rw [Run.step_of_isOver rfl]
    exact .cancelled hplace
  | completed hwelcome hsize =>
    rw [Run.step_of_isOver rfl]
    exact .completed hwelcome hsize
  | stopped hphase hstops haccount hopen hsuccess =>
    have hover : run.isOver = true := by rw [Run.isOver, hphase]
    rw [Run.step_of_isOver hover]
    refine .stopped hphase ?_ haccount hopen hsuccess
    rw [happens_concat_iff]
    exact .inl hstops

/-- **Every run takes such a course.** -/
theorem course_steps (plan : Plan) (events : List Event) :
    Course plan events ((Run.start plan).steps plan events) := by
  induction events using List.reverseRecOn with
  | nil => exact .underway .connecting
  | append_singleton events event ih =>
    rw [Run.steps_concat]
    exact ih.step rfl event

/-- A run that got every answer has them to show. -/
theorem account_completed (hwelcome : verifyWelcome welcome = .verified)
    (hsize : answers.length = plan.size) :
    Account plan answers (fun _ => "not sent") ⟨.finished,
      (plan.midway answers).conclude .completed plan.settings.strict, plan.wires,
      welcome :: answers⟩ := by
  obtain ⟨outcome, heq⟩ :=
    (plan.midway answers).exists_conclude_eq .completed plan.settings.strict
  have hall : plan.wires = plan.wires.take answers.length :=
    (List.take_of_length_le (by rw [Plan.length_wires, hsize])).symm
  rw [heq]
  exact ⟨rfl, .welcomed hwelcome rfl (Nat.le_of_eq hsize) (.inl hall) rfl rfl⟩

/-- At every point a run has something to show. -/
theorem Course.exists_account (h : Course plan events run) :
    ∃ answers reason, Account plan answers reason run := by
  cases h with
  | underway hplace =>
    obtain ⟨answers, haccount⟩ := hplace.exists_account
    exact ⟨answers, _, haccount⟩
  | cancelled hplace =>
    obtain ⟨answers, haccount⟩ := hplace.exists_account
    exact ⟨answers, _, haccount.exchanges_eq, haccount.log.congr rfl rfl rfl rfl⟩
  | completed hwelcome hsize => exact ⟨_, _, account_completed hwelcome hsize⟩
  | stopped _ _ haccount _ _ => exact ⟨_, _, haccount⟩

/-- A run that has finished and has not failed has met no mismatch. -/
theorem Course.not_isMismatchAt (h : Course plan events run) (hphase : run.phase = .finished)
    (hsuccess : run.report.outcome.isSuccess = true) (i : Nat) : ¬ run.report.IsMismatchAt i := by
  cases h with
  | underway hplace => exact absurd hphase hplace.phase_ne_finished
  | cancelled _ => cases hphase
  | @completed welcome answers _ _ =>
    have hcompleted : Ending.completed ≠ .broken := by rintro ⟨⟩
    exact (plan.midway answers).not_isMismatchAt_conclude hcompleted hsuccess i
  | stopped _ _ _ _ hnot => exact hnot hsuccess i

end EchoProbe.Probe
