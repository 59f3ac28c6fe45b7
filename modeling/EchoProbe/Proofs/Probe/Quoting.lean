import EchoProbe.Proofs.Net.Url
import EchoProbe.Proofs.Probe.Shape
import EchoProbe.Proofs.Probe.Timely
import EchoProbe.Proofs.Report.Lines

/-!
# What a report quotes

A report has a fixed number of lines as long as nothing in it breaks one. Payloads do not,
whatever the peer sends: they are shown as JSON, which writes a line feed as an escape. Other
texts from outside are quoted as they are, and there are few (`Quotes`): the reason of a close
message in the place of the welcome, and the wordings that the transport has for a violation of
the protocol. So a report has its lines exactly if none of these holds a line feed
(`lineCount_conduct_iff`) – and the first of them may (`farewell_breaks_line`).
-/

namespace EchoProbe

open Text

/-! ## Reports without line feeds -/

theorem Check.oneLine_unverified {reason : String} (h : OneLine reason.toList) :
    OneLine (Check.unverified reason).detail.toList := by
  simp [Check.detail, h]

/-- A check says nothing that breaks the line, if the reason for which it is open does not. -/
theorem Check.oneLine_detail {check : Check}
    (h : ∀ reason, check = .unverified reason → OneLine reason.toList) :
    OneLine check.detail.toList := by
  cases check with
  | verified => decide
  | mismatch received => simp [Check.detail]
  | unverified reason => exact Check.oneLine_unverified (h reason rfl)

namespace Report

/-- **Nothing in a report breaks the line**, be it shown or not. -/
structure Plain (r : Report) : Prop where
  target : OneLine r.target.toList
  outcome : OneLine r.outcome.toText.toList
  welcome : OneLine r.welcome.detail.toList
  exchanges : ∀ e ∈ r.exchanges, OneLine e.check.detail.toList

variable {r : Report}

theorem Plain.showsOneLine (h : r.Plain) : r.ShowsOneLine :=
  ⟨h.target, h.outcome, fun _ => h.welcome, fun _ => h.exchanges⟩

theorem Plain.fail (h : r.Plain) {reason : String} (hreason : OneLine reason.toList) :
    (r.fail reason).Plain :=
  ⟨h.target, by simp [Report.fail, Outcome.toText, hreason], h.welcome, h.exchanges⟩

theorem Plain.abandonFrom (h : r.Plain) (index : Nat) {reason : String}
    (hreason : OneLine reason.toList) : (r.abandonFrom index reason).Plain := by
  refine ⟨h.target, h.outcome, h.welcome, fun e he => ?_⟩
  obtain ⟨i, hi⟩ := List.mem_iff_getElem?.mp he
  rw [getElem?_abandonFrom] at hi
  obtain ⟨e', he', rfl⟩ := Option.map_eq_some_iff.mp hi
  have hdetail := h.exchanges e' (List.mem_of_getElem? he')
  split
  · cases hcheck : e'.check with
    | unverified _ => simp [Check.abandon, Check.detail, hreason]
    | _ => rwa [hcheck] at hdetail
  · exact hdetail

theorem Plain.setCheck (h : r.Plain) (index : Nat) {check : Check}
    (hcheck : OneLine check.detail.toList) : (r.setCheck index check).Plain := by
  refine ⟨h.target, h.outcome, h.welcome, fun e he => ?_⟩
  obtain ⟨i, hi⟩ := List.mem_iff_getElem?.mp he
  rw [getElem?_setCheck] at hi
  obtain ⟨e', he', rfl⟩ := Option.map_eq_some_iff.mp hi
  split
  · exact hcheck
  · exact h.exchanges e' (List.mem_of_getElem? he')

theorem oneLine_strictFailure? {reason : String} (h : r.strictFailure? = some reason) :
    OneLine reason.toList := by
  unfold strictFailure? at h
  split at h
  · cases h
    decide
  · split at h
    · cases h
      simp
    · cases h

/-- The outcome that is derived is worded without line feeds. -/
theorem Plain.conclude (h : r.Plain) (ending : Ending) (strict : Bool) :
    (r.conclude ending strict).Plain := by
  unfold Report.conclude
  split
  · exact h
  · split
    · exact h.fail (by simp)
    · split
      · next hreason =>
        split at hreason
        · exact h.fail (oneLine_strictFailure? hreason)
        · cases hreason
      · have houtcome : OneLine (softOutcome ending).toText.toList := by cases ending <;> decide
        exact ⟨h.target, houtcome, h.welcome, h.exchanges⟩

theorem plain_pending {target : String} (htarget : OneLine target.toList) (frames : List Frame) :
    (pending target frames).Plain := by
  refine ⟨htarget, by simp [pending, Outcome.toText], by simp [pending, Check.detail],
    fun e he => ?_⟩
  obtain ⟨frame, -, rfl⟩ := List.mem_map.mp he
  simp [Check.detail]

end Report

namespace Probe

variable {plan : Plan} {run : Run} {phase : Phase} {event : Event}

/-! ## What is quoted -/

/-- **A text from outside that a report quotes as it is**, for the event that brings it. -/
inductive Quotes : Phase → Event → String → Prop
  /-- The reason of a close message that comes in the place of the welcome. -/
  | farewell {frame : CloseFrame} :
    Quotes .greeting (.arrived (.message (.close (some frame)))) frame.reason
  /-- The wording of a violation for which the upgrade fails, … -/
  | refused {text : String} : Quotes .connecting (.refused (.violation text)) text
  /-- … or a wait for a message, … -/
  | received {phase : Phase} {text : String} (hwait : phase.isWait = true) :
    Quotes phase (.arrived (.failed (.violation text))) text
  /-- … or the sending of a frame. -/
  | unsent {index : Nat} {text : String} : Quotes (.sending index) (.unsent (.violation text)) text

/-- Nothing that is quoted for an event breaks the line. -/
def QuotesOneLine (phase : Phase) (event : Event) : Prop :=
  ∀ text, Quotes phase event text → OneLine text.toList

/-- What a wait ends with that is a close is worded without line feeds, but for the reason of a
close message. -/
theorem oneLine_of_closed {reason : String} (h : Run.incoming? event = some (.closed reason))
    (hquotes : QuotesOneLine .greeting event) : OneLine reason.toList := by
  cases event with
  | arrived arrival =>
    cases arrival with
    | message m =>
      cases m with
      | close frame =>
        cases h
        cases frame with
        | some frame => simp [closeReason, hquotes _ .farewell]
        | none => decide
      | _ => cases h
    | ended =>
      cases h
      decide
    | failed error =>
      cases error with
      | violation text => cases h
      | _ =>
        cases h
        simp
  | _ => cases h

/-- A failure of the transport is worded without line feeds, but for a violation. -/
theorem oneLine_of_error {error : TransportError}
    (h : ∀ text, error = .violation text → OneLine text.toList) : OneLine error.message.toList := by
  cases error with
  | violation text => exact h text rfl
  | _ => simp [TransportError.message]

theorem oneLine_of_broken {reason : String} (hwait : phase.isWait = true)
    (h : Run.incoming? event = some (.broken reason)) (hquotes : QuotesOneLine phase event) :
    OneLine reason.toList := by
  cases event with
  | arrived arrival =>
    cases arrival with
    | message m => cases m <;> cases h
    | ended => cases h
    | failed error =>
      have hreason : reason = error.message := by
        unfold Run.incoming? Incoming.of? at h
        dsimp only at h
        split at h
        · cases h
        · cases h
          rfl
      rw [hreason]
      refine oneLine_of_error ?_
      rintro text rfl
      exact hquotes text (.received hwait)
  | _ => cases h

/-! ## One event -/

theorem plain_proceed (h : run.report.Plain) (index : Nat) :
    (run.proceed plan index).report.Plain := by
  unfold Run.proceed
  split
  · exact h
  · exact h.conclude .completed plan.settings.strict

theorem plain_giveUp (h : run.report.Plain) (index : Nat) {reason : String}
    (hreason : OneLine reason.toList) (ending : Ending) :
    (run.giveUp plan index reason ending).report.Plain :=
  (h.abandonFrom index hreason).conclude ending plan.settings.strict

theorem plain_breakOff (h : run.report.Plain) (index : Nat) {reason failure : String}
    (hreason : OneLine reason.toList) (hfailure : OneLine failure.toList) :
    (run.breakOff index reason failure).report.Plain :=
  (h.abandonFrom index hreason).fail hfailure

theorem plain_setWelcome (h : run.report.Plain) {check : Check}
    (hcheck : OneLine check.detail.toList) : (run.setWelcome check).report.Plain :=
  ⟨h.target, h.outcome, hcheck, h.exchanges⟩

/-- What is compared is shown as JSON. -/
theorem oneLine_verifyWelcome (text : String) : OneLine (verifyWelcome text).detail.toList := by
  unfold verifyWelcome
  split
  · decide
  · simp [Check.detail]

theorem oneLine_verifyEcho (sent text : String) :
    OneLine (verifyEcho sent text).detail.toList := by
  refine Check.oneLine_detail fun reason h => ?_
  have hopen := isUnverified_verifyEcho sent text
  rw [h] at hopen
  cases hopen

theorem plain_greeted (h : run.report.Plain) {incoming : Incoming}
    (hclosed : ∀ reason, incoming = .closed reason → OneLine reason.toList)
    (hbroken : ∀ reason, incoming = .broken reason → OneLine reason.toList) :
    (run.greeted plan incoming).report.Plain := by
  cases incoming with
  | payload text =>
    have hwelcome : ((run.receive text).setWelcome (verifyWelcome text)).report.Plain :=
      plain_setWelcome h (oneLine_verifyWelcome text)
    unfold Run.greeted
    dsimp only
    split
    · exact plain_proceed hwelcome 0
    · exact hwelcome.fail (by decide)
  | closed reason =>
    refine plain_giveUp (plain_setWelcome h (Check.oneLine_unverified ?_)) 0 (by decide) _
    simp [hclosed reason rfl]
  | expired =>
    refine plain_giveUp (plain_setWelcome h (Check.oneLine_unverified ?_)) 0 (by decide) _
    simp
  | broken reason => exact h.fail (by simp [hbroken reason rfl])

theorem plain_answered (h : run.report.Plain) (index : Nat) {incoming : Incoming}
    (hbroken : ∀ reason, incoming = .broken reason → OneLine reason.toList) :
    (run.answered plan index incoming).report.Plain := by
  cases incoming with
  | payload text => exact plain_proceed (h.setCheck index (oneLine_verifyEcho _ text)) _
  | closed reason => exact plain_giveUp h index (by decide) _
  | expired =>
    refine plain_giveUp (h.setCheck index (Check.oneLine_unverified ?_)) (index + 1)
      (by decide) _
    simp
  | broken reason => exact plain_breakOff h index (by decide) (by simp [hbroken reason rfl])

theorem plain_undelivered (h : run.report.Plain) (index : Nat) {error : TransportError}
    (herror : OneLine error.message.toList) :
    (run.undelivered plan index error).report.Plain := by
  unfold Run.undelivered
  split
  · exact plain_giveUp h index (by decide) _
  · exact plain_breakOff h index (by decide) (by simp [herror])

/-- **An event that quotes no line feed** brings none into the report. -/
theorem plain_complete (h : run.report.Plain) (hquotes : QuotesOneLine run.phase event) :
    (run.complete plan event).report.Plain := by
  unfold Run.complete
  cases hphase : run.phase with
  | connecting =>
    rw [hphase] at hquotes
    cases event with
    | opened => exact ⟨h.target, h.outcome, h.welcome, h.exchanges⟩
    | refused error =>
      have herror : OneLine error.message.toList := by
        refine oneLine_of_error ?_
        rintro text rfl
        exact hquotes text .refused
      exact h.fail (by simp [herror])
    | unopened => exact h.fail (by simp)
    | _ => exact h
  | greeting =>
    rw [hphase] at hquotes
    dsimp only
    cases hincoming : Run.incoming? event with
    | some incoming =>
      refine plain_greeted h ?_ ?_
      · rintro reason rfl
        exact oneLine_of_closed hincoming hquotes
      · rintro reason rfl
        exact oneLine_of_broken rfl hincoming hquotes
    | none => exact h
  | pausing index => cases event <;> exact h
  | sending index =>
    rw [hphase] at hquotes
    cases event with
    | unsent error =>
      have herror : OneLine error.message.toList := by
        refine oneLine_of_error ?_
        rintro text rfl
        exact hquotes text .unsent
      exact plain_undelivered h index herror
    | _ => exact h
  | awaiting index =>
    rw [hphase] at hquotes
    dsimp only
    cases hincoming : Run.incoming? event with
    | some incoming =>
      refine plain_answered h index ?_
      rintro reason rfl
      exact oneLine_of_broken rfl hincoming hquotes
    | none => exact h
  | finished => exact h
  | cancelled => exact h

/-- The reason of a failure is shown. -/
theorem oneLine_of_failed {r : Report} {f text : String} (h : r.ShowsOneLine)
    (houtcome : r.outcome = .failed (f ++ text)) : OneLine text.toList := by
  have hshown := h.outcome
  rw [houtcome] at hshown
  simp only [Outcome.toText, String.toList_append, oneLine_append] at hshown
  exact hshown.1.2.2

/-- **An event that quotes a line feed** brings it into the report. -/
theorem Place.quotesOneLine (h : Place plan run)
    (hshows : (run.complete plan event).report.ShowsOneLine) : QuotesOneLine run.phase event := by
  intro text hquotes
  cases h with
  | connecting =>
    cases hquotes with
    | refused => exact oneLine_of_failed (f := "connect: ") hshows rfl
    | received hwait => cases hwait
  | greeting =>
    cases hquotes with
    | @farewell frame =>
      let greeted := (Run.start plan).upgraded.setWelcome
        (.unverified ("peer closed: " ++ closeReason (some frame)))
      have hreport : ((Run.start plan).upgraded.complete plan
          (.arrived (.message (.close (some frame))))).report
            = (greeted.report.abandonFrom 0 "peer closed").conclude .peerClosed
                plan.settings.strict := rfl
      obtain ⟨outcome, heq⟩ := (greeted.report.abandonFrom 0 "peer closed").exists_conclude_eq
        .peerClosed plan.settings.strict
      rw [hreport, heq] at hshows
      have hwelcome : OneLine (Check.unverified
          ("peer closed: " ++ closeReason (some frame))).detail.toList := hshows.welcome rfl
      simp only [Check.detail, closeReason, String.toList_append, oneLine_append] at hwelcome
      exact hwelcome.1.2.2.2
    | received _ => exact oneLine_of_failed (f := "handshake: ") hshows rfl
  | pausing _ _ =>
    cases hquotes with
    | received hwait => cases hwait
  | sending _ _ =>
    cases hquotes with
    | received hwait => cases hwait
    | unsent => exact oneLine_of_failed (f := "send: ") hshows rfl
  | awaiting _ _ =>
    cases hquotes with
    | received _ => exact oneLine_of_failed (f := "receive: ") hshows rfl

/-- As long as a run is under way nothing breaks the line. -/
theorem Place.plain (htarget : OneLine plan.target.toList) (h : Place plan run) :
    run.report.Plain := by
  have hpending := Report.plain_pending htarget plan.script.frames
  have hmidway : ∀ answers, (plan.midway answers).Plain := by
    intro answers
    have hverified : OneLine Check.verified.detail.toList := by decide
    refine ⟨htarget, hpending.outcome, hverified, fun e he => ?_⟩
    obtain ⟨i, hi⟩ := List.mem_iff_getElem?.mp he
    have hexchange : (plan.exchanges answers fun _ => "not sent")[i]? = some e := hi
    rw [Plan.getElem?_exchanges] at hexchange
    obtain ⟨frame, -, rfl⟩ := Option.map_eq_some_iff.mp hexchange
    cases answers[i]? with
    | none => simp [Check.detail]
    | some text => exact oneLine_verifyEcho frame.wire text
  cases h with
  | connecting => exact hpending
  | greeting => exact ⟨hpending.target, hpending.outcome, hpending.welcome, hpending.exchanges⟩
  | pausing _ _ => exact hmidway _
  | sending _ _ => exact hmidway _
  | awaiting _ _ => exact hmidway _

/-! ## Whole runs -/

/-- A run that is over quotes nothing any more. -/
theorem not_quotes_of_isOver (h : run.isOver = true) (event : Event) (text : String) :
    ¬ Quotes run.phase event text := by
  have hwait := run.isWait_of_isOver h
  unfold Run.isOver at h
  intro hquotes
  generalize run.phase = phase at h hwait hquotes
  cases hquotes with
  | received hwaits => exact Bool.false_ne_true (hwait.symm.trans hwaits)
  | _ => cases h

theorem not_quotes_cancelled (phase : Phase) (text : String) : ¬ Quotes phase .cancelled text :=
  nofun

/-- **A run that quotes no line feed** has none in its report. -/
theorem plain_steps (htarget : OneLine plan.target.toList) (events : List Event)
    (hquotes : ∀ text, Happens plan events (Quotes · · text) → OneLine text.toList) :
    ((Run.start plan).steps plan events).report.Plain := by
  induction events using List.reverseRecOn with
  | nil => exact Report.plain_pending htarget _
  | append_singleton events event ih =>
    have hplain := ih fun text h =>
      hquotes text ((happens_concat_iff plan events event _).mpr (.inl h))
    have hnow : QuotesOneLine ((Run.start plan).steps plan events).phase event := fun text h =>
      hquotes text ((happens_concat_iff plan events event _).mpr (.inr h))
    rw [Run.steps_concat]
    generalize (Run.start plan).steps plan events = run at hplain hnow
    by_cases hover : run.isOver = true
    · rwa [Run.step_of_isOver hover]
    · by_cases hcancelled : event = .cancelled
      · subst hcancelled
        rw [Run.step, if_neg hover]
        exact hplain
      · rw [Run.step_of_not_isOver hover plan hcancelled]
        exact plain_complete hplain hnow

/-- **A line feed that a run quotes** is shown. -/
theorem oneLine_of_happens (htarget : OneLine plan.target.toList) (events : List Event)
    (hshows : ((Run.start plan).steps plan events).report.ShowsOneLine) {text : String}
    (h : Happens plan events (Quotes · · text)) : OneLine text.toList := by
  induction events using List.reverseRecOn with
  | nil => exact absurd h (not_happens_nil plan _)
  | append_singleton events event ih =>
    have hcourse := course_steps plan events
    rw [happens_concat_iff] at h
    rw [Run.steps_concat] at hshows
    generalize (Run.start plan).steps plan events = run at hshows h hcourse ih
    by_cases hover : run.isOver = true
    · rw [Run.step_of_isOver hover] at hshows
      exact ih hshows (h.resolve_right (not_quotes_of_isOver hover event text))
    · have hplace := hcourse.place_or_isOver.resolve_right hover
      have hbefore := ih (hplace.plain htarget).showsOneLine
      by_cases hcancelled : event = .cancelled
      · subst hcancelled
        exact hbefore (h.resolve_right (not_quotes_cancelled _ text))
      · rw [Run.step_of_not_isOver hover plan hcancelled] at hshows
        exact h.elim hbefore (hplace.quotesOneLine hshows text)

/-- How long a run took breaks no line. -/
theorem showsOneLine_elapsed_iff {r : Report} {elapsed : Duration} :
    { r with elapsed }.ShowsOneLine ↔ r.ShowsOneLine := by
  constructor
  · rintro ⟨htarget, houtcome, hwelcome, hexchanges⟩
    exact ⟨htarget, houtcome, hwelcome, hexchanges⟩
  · rintro ⟨htarget, houtcome, hwelcome, hexchanges⟩
    exact ⟨htarget, houtcome, hwelcome, hexchanges⟩

/-- **A report shows no line feed** exactly if its run quotes none. -/
theorem showsOneLine_run_iff (htarget : OneLine plan.target.toList) (link : Link) :
    (link.run plan).run.report.ShowsOneLine ↔
      ∀ text, Happens plan (link.events plan) (Quotes · · text) → OneLine text.toList := by
  rw [Link.run_run]
  constructor
  · intro hshows text hquotes
    exact oneLine_of_happens htarget _ hshows hquotes
  · intro hquotes
    exact (plain_steps htarget _ hquotes).showsOneLine

/-- **A report has three lines without an upgrade, and else one for each frame and six more**,
exactly if no text that it quotes holds a line feed. -/
theorem lineCount_conduct_iff {settings : Settings.Probe} {script : Script} {link : Link}
    {report : Report} (h : conduct settings script link = some (.ok report)) :
    ∃ url, Net.Url.parse settings.proxyUrl = .ok url ∧
      (lineCount (report.render false)
          = (if report.upgrade then script.frames.length + 6 else 3) ↔
        ∀ text, Happens ⟨url.toText, script, settings⟩
          (link.events ⟨url.toText, script, settings⟩) (Quotes · · text) → '\n' ∉ text.toList) := by
  obtain ⟨url, hurl, hphase, rfl⟩ := exists_of_conduct h
  obtain ⟨count, hshaped⟩ := exists_shaped hphase ⟨(link.run ⟨url.toText, script, settings⟩).now⟩
  have hlength : script.frames.length
      = (link.run ⟨url.toText, script, settings⟩).run.report.exchanges.length := by
    simpa using (congrArg List.length hshaped.sent_eq).symm
  have htarget : OneLine (Plan.mk url.toText script settings).target.toList := Net.oneLine_url hurl
  have hshows := showsOneLine_run_iff htarget link
  generalize (link.run ⟨url.toText, script, settings⟩) = run at hlength hshows ⊢
  refine ⟨url, hurl, ?_⟩
  rw [hlength]
  exact Report.lineCount_render_iff.trans (showsOneLine_elapsed_iff.trans hshows)

/-- A peer that sends a line feed in the place of the welcome. -/
def garblingLink : Link where
  opening := .opens .zero
  inbox := [⟨0, .message (.text "a\nb")⟩]
  sendings := []
  cancelAt := none
  ordered := List.pairwise_singleton _ _

/-- The payload is shown as JSON, and two frames make eight lines. -/
theorem lineCount_conduct_garbling :
    ∃ report, conduct { proxyUrl := "ws://[::1]:8080/ws" } .minimal garblingLink
        = some (.ok report) ∧
      report.upgrade = true ∧ lineCount (report.render false) = 8 ∧
      ∃ url, Net.Url.parse "ws://[::1]:8080/ws" = .ok url ∧
        (lineCount (report.render false) = (if report.upgrade then 2 + 6 else 3) ↔
          ∀ text, Happens ⟨url.toText, .minimal, { proxyUrl := "ws://[::1]:8080/ws" }⟩
            (garblingLink.events ⟨url.toText, .minimal, { proxyUrl := "ws://[::1]:8080/ws" }⟩)
            (Quotes · · text) → '\n' ∉ text.toList) := by
  have hview : ((conduct { proxyUrl := "ws://[::1]:8080/ws" } .minimal garblingLink).bind
      Except.toOption).map
        (fun report => (report.upgrade, report.exchanges.length, decide report.ShowsOneLine))
      = some (true, 2, true) := by
    decide +kernel
  obtain ⟨report, hreport, hview⟩ := exists_report hview
  simp only [Prod.mk.injEq, decide_eq_true_eq] at hview
  obtain ⟨hupgrade, hlength, hshows⟩ := hview
  have hcount := Report.lineCount_render_iff.mpr hshows
  rw [hupgrade, hlength] at hcount
  exact ⟨report, hreport, hupgrade, hcount, lineCount_conduct_iff hreport⟩

/-- A peer that says farewell in the place of the welcome, in two lines. -/
def farewellLink : Link where
  opening := .opens .zero
  inbox := [⟨0, .message (.close (some ⟨1000, "a\nb"⟩))⟩]
  sendings := []
  cancelAt := none
  ordered := List.pairwise_singleton _ _

/-- **The reason of a close message can break the line**: two frames make nine lines. -/
theorem farewell_breaks_line :
    ∃ report, conduct { proxyUrl := "ws://[::1]:8080/ws" } .minimal farewellLink
        = some (.ok report) ∧
      report.upgrade = true ∧
      lineCount (report.render false) ≠ Script.minimal.frames.length + 6 := by
  have hview : ((conduct { proxyUrl := "ws://[::1]:8080/ws" } .minimal farewellLink).bind
      Except.toOption).map
        (fun report => (report.upgrade, report.exchanges.length, decide report.ShowsOneLine))
      = some (true, 2, false) := by
    decide +kernel
  obtain ⟨report, hreport, hview⟩ := exists_report hview
  simp only [Prod.mk.injEq, decide_eq_false_iff_not] at hview
  obtain ⟨hupgrade, hlength, hshows⟩ := hview
  refine ⟨report, hreport, hupgrade, fun hcount => hshows ?_⟩
  rw [← Report.lineCount_render_iff, hupgrade, hlength]
  exact hcount

end Probe

end EchoProbe
