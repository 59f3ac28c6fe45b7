import Mathlib.Data.Nat.Find
import EchoProbe.Proofs.Probe.Happening
import EchoProbe.Proofs.Probe.Verification
import EchoProbe.Proofs.Report

/-!
# Which outcome a lenient run has

The outcome of a run is put together wherever the run can stop. Here it is
put in terms of what happened (`EchoProbe.Proofs.Probe.Happening`): a
lenient run has failed exactly if something contradicts a faithful proxy, it
has timed out exactly if nothing does and a wait expired, and it has passed
in every other case (`Classified`).

The induction is on the events, from the first to the last. As long as a run
is under way, nothing has happened that ends it, and its report is *faithful*
to what happened: exactly those exchanges are mismatches for which a mismatch
happened, and none of these is still ahead (`Underway`). A report that is
faithful when the run ends is concluded with the right outcome
(`classified_conclude`); a failure that ends the run at once is one that
happened (`classified_fail`).
-/

namespace EchoProbe.Probe

variable (plan : Plan)

/-- **Something contradicts a faithful proxy.** -/
def Contradicted (events : List Event) : Prop :=
  Happens plan events ConnectFails ∨ Happens plan events GreetsWrong ∨
    Happens plan events Breaks ∨ ∃ index, Happens plan events (Mismatches plan index)

/-- **The outcome is the one that what happened calls for.** -/
structure Classified (events : List Event) (outcome : Outcome) : Prop where
  /-- The run has failed exactly if there is a contradiction. -/
  failed_iff : (∃ reason, outcome = .failed reason) ↔ Contradicted plan events
  /-- It has timed out exactly if there is none, and a wait expired. -/
  timedOut_iff : outcome = .timedOut ↔ ¬ Contradicted plan events ∧ Happens plan events Expires
  /-- It has passed in every other case. -/
  passed_iff : outcome = .passed ↔ ¬ Contradicted plan events ∧ ¬ Happens plan events Expires
  /-- A run that could not connect says so. -/
  connect : Happens plan events ConnectFails → ∃ reason, outcome = .failed ("connect: " ++ reason)
  /-- A mismatch is reported with the number of the first one, unless the
  transport breaks. -/
  first_mismatch : ∀ index, Happens plan events (Mismatches plan index) →
    (∀ j < index, ¬ Happens plan events (Mismatches plan j)) → ¬ Happens plan events Breaks →
    outcome = .failed ("echo mismatch on message " ++ Text.decimal (index + 1))

/-- **The report is faithful**: its mismatches are those that happened, and
nothing else contradicts a faithful proxy so far. -/
structure Faithful (events : List Event) (report : Report) : Prop where
  length_eq : report.exchanges.length = plan.size
  mismatch_iff : ∀ index, Happens plan events (Mismatches plan index) ↔ report.IsMismatchAt index
  not_connectFails : ¬ Happens plan events ConnectFails
  not_greetsWrong : ¬ Happens plan events GreetsWrong
  not_breaks : ¬ Happens plan events Breaks

/-- The exchange that a phase belongs to. -/
def Phase.exchange? : Phase → Option Nat
  | .pausing index => some index
  | .sending index => some index
  | .awaiting index => some index
  | _ => none

/-- **A run that is under way.** -/
structure Underway (events : List Event) (run : Run) : Prop where
  faithful : Faithful plan events run.report
  not_expires : ¬ Happens plan events Expires
  exchange_lt : ∀ index, run.phase.exchange? = some index → index < plan.size
  /-- No exchange that is still ahead is a mismatch. -/
  ahead : ∀ index, run.phase.exchange?.getD 0 ≤ index → ¬ run.report.IsMismatchAt index

/-- What is true of a run at every point. -/
def Sound (events : List Event) (run : Run) : Prop :=
  match run.phase with
  | .finished => Classified plan events run.report.outcome
  | .cancelled => True
  | _ => Underway plan events run

variable {plan} {events : List Event} {report : Report}

/-! ## Ends -/

theorem Faithful.contradicted_iff (h : Faithful plan events report) :
    Contradicted plan events ↔ ∃ index, report.IsMismatchAt index := by
  rw [Contradicted, or_iff_right h.not_connectFails, or_iff_right h.not_greetsWrong,
    or_iff_right h.not_breaks]
  exact exists_congr h.mismatch_iff

/-- **A faithful report is concluded with the right outcome.** -/
theorem classified_conclude {ending : Ending} (h : Faithful plan events report)
    (hending : ending ≠ .broken) (hexpires : ending = .timedOut ↔ Happens plan events Expires) :
    Classified plan events (report.conclude ending false).outcome := by
  by_cases hmismatch : ∃ index, report.IsMismatchAt index
  · -- the first mismatch decides
    classical
    have hfirst := Nat.find_spec hmismatch
    have hleast : ∀ j < Nat.find hmismatch, ¬ report.IsMismatchAt j :=
      fun j hj => Nat.find_min hmismatch hj
    have houtcome := report.outcome_conclude_of_first hending false hfirst hleast
    have hcontradicted := h.contradicted_iff.mpr hmismatch
    rw [houtcome]
    refine ⟨iff_of_true ⟨_, rfl⟩ hcontradicted, iff_of_false nofun (fun h => h.1 hcontradicted),
      iff_of_false nofun (fun h => h.1 hcontradicted),
      fun hconnect => absurd hconnect h.not_connectFails, ?_⟩
    intro index hindex hbefore _
    have hindex' : report.IsMismatchAt index := (h.mismatch_iff index).mp hindex
    have heq : Nat.find hmismatch = index := by
      refine le_antisymm (Nat.find_min' hmismatch hindex') (not_lt.mp fun hlt => ?_)
      exact hbefore _ hlt ((h.mismatch_iff _).mpr hfirst)
    rw [heq]
  · have hnone : ∀ index, ¬ report.IsMismatchAt index := not_exists.mp hmismatch
    have hcontradicted : ¬ Contradicted plan events := fun hc => hmismatch (h.contradicted_iff.mp hc)
    rw [report.outcome_conclude_of_forall_not hending hnone]
    have hfails : ∀ reason, Report.softOutcome ending ≠ .failed reason := by
      cases ending <;> nofun
    refine ⟨iff_of_false (fun ⟨reason, h⟩ => hfails reason h) hcontradicted, ?_, ?_,
      fun hconnect => absurd hconnect h.not_connectFails,
      fun index hindex => absurd ((h.mismatch_iff index).mp hindex) (hnone index)⟩
    · rw [and_iff_right hcontradicted, ← hexpires]
      cases ending <;> simp [Report.softOutcome]
    · rw [and_iff_right hcontradicted, ← hexpires]
      cases ending <;> simp [Report.softOutcome]

/-! ## One event more -/

variable {run run' : Run} {event : Event}

/-- A report that has taken down what happens now is faithful to it. -/
theorem Faithful.concat {report' : Report} {phase : Phase}
    (hphase : ((Run.start plan).steps plan events).phase = phase)
    (h : Faithful plan events report) (hconnect : ¬ ConnectFails phase event)
    (hgreets : ¬ GreetsWrong phase event) (hbreaks : ¬ Breaks phase event)
    (hlength : report'.exchanges.length = report.exchanges.length)
    (hmismatch : ∀ index, report'.IsMismatchAt index ↔
      report.IsMismatchAt index ∨ Mismatches plan index phase event) :
    Faithful plan (events ++ [event]) report' where
  length_eq := hlength.trans h.length_eq
  mismatch_iff index := by
    rw [happens_concat_iff, hphase, h.mismatch_iff, hmismatch]
  not_connectFails := by
    rw [happens_concat_of_not hphase hconnect]
    exact h.not_connectFails
  not_greetsWrong := by
    rw [happens_concat_of_not hphase hgreets]
    exact h.not_greetsWrong
  not_breaks := by
    rw [happens_concat_of_not hphase hbreaks]
    exact h.not_breaks

/-- A report with the same exchanges is as faithful, when nothing happens. -/
theorem Faithful.concat_quiet {report' : Report} {phase : Phase}
    (hphase : ((Run.start plan).steps plan events).phase = phase)
    (h : Faithful plan events report) (hquiet : Quiet plan phase event)
    (hexchanges : report'.exchanges = report.exchanges) :
    Faithful plan (events ++ [event]) report' := by
  refine h.concat hphase hquiet.not_connectFails hquiet.not_greetsWrong hquiet.not_breaks
    (congrArg List.length hexchanges) fun index => ?_
  rw [Report.IsMismatchAt, hexchanges, or_iff_left (hquiet.not_mismatches index)]
  rfl

theorem Underway.not_expires_concat (hrun : (Run.start plan).steps plan events = run)
    (h : Underway plan events run) (hnot : ¬ Expires run.phase event) :
    ¬ Happens plan (events ++ [event]) Expires := by
  rw [happens_concat_of_not (by rw [hrun]) hnot]
  exact h.not_expires

/-- **A run goes on** when nothing happens. -/
theorem Underway.concat_quiet (hrun : (Run.start plan).steps plan events = run)
    (h : Underway plan events run) (hquiet : Quiet plan run.phase event)
    (hexchanges : run'.report.exchanges = run.report.exchanges)
    (hlt : ∀ index, run'.phase.exchange? = some index → index < plan.size)
    (hahead : run.phase.exchange?.getD 0 ≤ run'.phase.exchange?.getD 0) :
    Underway plan (events ++ [event]) run' where
  faithful := h.faithful.concat_quiet (by rw [hrun]) hquiet hexchanges
  not_expires := h.not_expires_concat hrun hquiet.not_expires
  exchange_lt := hlt
  ahead index hindex := by
    rw [Report.IsMismatchAt, hexchanges]
    exact h.ahead index (le_trans hahead hindex)

/-- The classification of a run that is over does not change. -/
theorem Classified.concat_quiet {phase : Phase} {outcome : Outcome}
    (hphase : ((Run.start plan).steps plan events).phase = phase)
    (h : Classified plan events outcome) (hquiet : Quiet plan phase event) :
    Classified plan (events ++ [event]) outcome := by
  have hmismatches : ∀ index, Happens plan (events ++ [event]) (Mismatches plan index) ↔
      Happens plan events (Mismatches plan index) :=
    fun index => happens_concat_of_not hphase (hquiet.not_mismatches index)
  have hconnect := happens_concat_of_not hphase hquiet.not_connectFails
  have hbreaks := happens_concat_of_not hphase hquiet.not_breaks
  have hexpires := happens_concat_of_not hphase hquiet.not_expires
  have hcontradicted : Contradicted plan (events ++ [event]) ↔ Contradicted plan events := by
    rw [Contradicted, hconnect, happens_concat_of_not hphase hquiet.not_greetsWrong, hbreaks,
      exists_congr hmismatches]
    rfl
  obtain ⟨hfailed, htimedOut, hpassed, hreason, hfirst⟩ := h
  refine ⟨by rwa [hcontradicted], by rwa [hcontradicted, hexpires],
    by rwa [hcontradicted, hexpires], by rwa [hconnect], ?_⟩
  intro index hindex hbefore hnot
  rw [hmismatches] at hindex
  rw [hbreaks] at hnot
  exact hfirst index hindex (fun j hj hmismatch => hbefore j hj ((hmismatches j).mpr hmismatch)) hnot

/-- **A failure that ends the run at once** is one that happened. -/
theorem classified_fail {reason : String} (hrun : (Run.start plan).steps plan events = run)
    (h : Underway plan events run)
    (hnow : ConnectFails run.phase event ∨ GreetsWrong run.phase event ∨ Breaks run.phase event)
    (hconnect : ConnectFails run.phase event → ∃ r, reason = "connect: " ++ r)
    (hmismatch : ¬ Breaks run.phase event → ∀ index, ¬ run.report.IsMismatchAt index) :
    Classified plan (events ++ [event]) (.failed reason) := by
  have hcontradicted : Contradicted plan (events ++ [event]) := by
    simp only [Contradicted, happens_concat_iff, hrun]
    exact hnow.imp .inr (.imp .inr fun hbreaks => .inl (.inr hbreaks))
  refine ⟨iff_of_true ⟨_, rfl⟩ hcontradicted, iff_of_false nofun (fun h => h.1 hcontradicted),
    iff_of_false nofun (fun h => h.1 hcontradicted), ?_, ?_⟩
  · rw [happens_concat_iff, hrun]
    rintro (hbefore | hconnecting)
    · exact absurd hbefore h.faithful.not_connectFails
    · obtain ⟨r, rfl⟩ := hconnect hconnecting
      exact ⟨r, rfl⟩
  · intro index hindex _ hbreaks
    rw [happens_concat_iff, hrun, not_or] at hbreaks
    rw [happens_concat_iff, hrun] at hindex
    rcases hindex with hbefore | hmismatches
    · exact absurd ((h.faithful.mismatch_iff index).mp hbefore) (hmismatch hbreaks.2 index)
    · -- a mismatch is none of the failures that end a run at once
      generalize run.phase = phase at hnow hmismatches
      cases hmismatches
      rcases hnow with hnow | hnow | hnow <;> cases hnow

/-- A transport that breaks ends the run at once, too. -/
theorem classified_break {reason : String} (hrun : (Run.start plan).steps plan events = run)
    (h : Underway plan events run) (hphase : run.phase ≠ .connecting)
    (hbreaks : Breaks run.phase event) :
    Classified plan (events ++ [event]) (.failed reason) := by
  refine classified_fail hrun h (.inr (.inr hbreaks)) (fun hconnect => ?_) fun hnot => ?_
  · exact absurd hconnect.phase_eq hphase
  · exact absurd hbreaks hnot

/-! ## Where a run goes -/

theorem Underway.sound (h : Underway plan events run) (hover : run.isOver = false) :
    Sound plan events run := by
  unfold Sound
  unfold Run.isOver at hover
  split
  · next hphase => simp [hphase] at hover
  · trivial
  · exact h

/-- An event that means nothing to the phase changes nothing. -/
theorem Underway.stay (hrun : (Run.start plan).steps plan events = run)
    (h : Underway plan events run) (hquiet : Quiet plan run.phase event)
    (hover : run.isOver = false) : Sound plan (events ++ [event]) run :=
  (h.concat_quiet hrun hquiet rfl h.exchange_lt (le_refl _)).sound hover

/-- A run goes on to an exchange, or it is over. -/
theorem sound_proceed (hlenient : plan.settings.strict = false) {index : Nat}
    (hfaithful : Faithful plan events run.report) (hexpires : ¬ Happens plan events Expires)
    (hahead : ∀ i, index ≤ i → ¬ run.report.IsMismatchAt i) :
    Sound plan events (run.proceed plan index) := by
  by_cases hlt : index < plan.size
  · rw [Run.proceed, if_pos hlt]
    by_cases hpause : (0 < index && !plan.script.pause.isZero) = true
    · simp only [if_pos hpause]
      exact ⟨hfaithful, hexpires, by rintro _ ⟨⟩; exact hlt, hahead⟩
    · simp only [if_neg hpause]
      exact ⟨hfaithful, hexpires, by rintro _ ⟨⟩; exact hlt, hahead⟩
  · rw [Run.proceed, if_neg hlt, hlenient]
    exact classified_conclude hfaithful nofun (iff_of_false nofun hexpires)

/-- A run that is given up is over. -/
theorem sound_giveUp (hlenient : plan.settings.strict = false) {ending : Ending}
    (hfaithful : Faithful plan events run.report) (hending : ending ≠ .broken)
    (hexpires : ending = .timedOut ↔ Happens plan events Expires) (index : Nat) (reason : String) :
    Sound plan events (run.giveUp plan index reason ending) := by
  have habandoned : Faithful plan events (run.report.abandonFrom index reason) := by
    refine ⟨?_, fun i => ?_, hfaithful.not_connectFails, hfaithful.not_greetsWrong,
      hfaithful.not_breaks⟩
    · rw [Report.length_abandonFrom, hfaithful.length_eq]
    · rw [Report.isMismatchAt_abandonFrom_iff, hfaithful.mismatch_iff]
  rw [Run.giveUp, hlenient]
  exact classified_conclude habandoned hending hexpires

/-- A peer that closes the connection is no contradiction. -/
theorem Underway.close (hlenient : plan.settings.strict = false)
    (hrun : (Run.start plan).steps plan events = run) (h : Underway plan events run)
    (hquiet : Quiet plan run.phase event)
    (hexchanges : run'.report.exchanges = run.report.exchanges) (index : Nat) (reason : String) :
    Sound plan (events ++ [event]) (run'.giveUp plan index reason .peerClosed) := by
  have hfaithful : Faithful plan (events ++ [event]) run'.report :=
    h.faithful.concat_quiet (by rw [hrun]) hquiet hexchanges
  have hexpires := h.not_expires_concat hrun hquiet.not_expires
  exact sound_giveUp hlenient hfaithful (by decide) (iff_of_false (by decide) hexpires) _ _

theorem Underway.connecting (hrun : (Run.start plan).steps plan events = run)
    (h : Underway plan events run) (hphase : run.phase = .connecting) (event : Event) :
    Sound plan (events ++ [event]) (run.complete plan event) := by
  -- all exchanges are still ahead
  have hnone : ∀ i, ¬ run.report.IsMismatchAt i := by
    intro i
    refine h.ahead i ?_
    rw [hphase]
    exact Nat.zero_le i
  have hquiet : ¬ ConnectFails .connecting event → Quiet plan run.phase event := by
    intro hconnect
    rw [hphase]
    exact quiet_of_not_wait plan rfl hconnect nofun
  have hsame : ¬ ConnectFails .connecting event → Sound plan (events ++ [event]) run :=
    fun hconnect => h.stay hrun (hquiet hconnect) (by rw [Run.isOver, hphase])
  simp only [Run.complete, hphase]
  cases event with
  | opened =>
    show Underway plan _ run.upgraded
    refine h.concat_quiet hrun (hquiet nofun) rfl nofun ?_
    rw [hphase]
    exact Nat.zero_le _
  | refused error =>
    refine classified_fail hrun h (.inl ?_) (fun _ => ⟨_, rfl⟩) (fun _ => hnone)
    rw [hphase]
    exact .refused error
  | unopened =>
    refine classified_fail hrun h (.inl ?_) (fun _ => ?_) (fun _ => hnone)
    · rw [hphase]
      exact .unopened
    · have hreason : "connect: no upgrade within " = "connect: " ++ "no upgrade within " := by
        decide
      exact ⟨_, by rw [hreason, String.append_assoc]⟩
  | _ => exact hsame nofun

theorem Underway.greeting (hlenient : plan.settings.strict = false)
    (hrun : (Run.start plan).steps plan events = run) (h : Underway plan events run)
    (hphase : run.phase = .greeting) (event : Event) :
    Sound plan (events ++ [event]) (run.complete plan event) := by
  have hstart : ((Run.start plan).steps plan events).phase = .greeting := by rw [hrun, hphase]
  have hnone : ∀ i, ¬ run.report.IsMismatchAt i := by
    intro i
    refine h.ahead i ?_
    rw [hphase]
    exact Nat.zero_le i
  have hwaits : Waits plan .greeting event (Run.incoming? event) := waits plan rfl event
  simp only [Run.complete, hphase]
  generalize Run.incoming? event = incoming at hwaits
  cases hwaits with
  | @payload m text htext =>
    by_cases hverified : (verifyWelcome text).isVerified = true
    · have hquiet : Quiet plan .greeting (.arrived (.message m)) := by
        refine ⟨nofun, ?_, nofun, nofun, nofun⟩
        rintro ⟨htext', hparse⟩
        obtain rfl : text = _ := Option.some.inj (htext.symm.trans htext')
        obtain ⟨message, path, timestamp, hwelcome⟩ :=
          (isVerified_verifyWelcome_iff text).mp hverified
        exact hparse message path timestamp hwelcome
      simp only [Run.greeted, hverified, if_true]
      exact sound_proceed hlenient (h.faithful.concat_quiet hstart hquiet rfl)
        (h.not_expires_concat hrun (hphase ▸ hquiet.not_expires)) fun i _ => hnone i
    · simp only [Run.greeted, hverified]
      refine classified_fail hrun h (.inr (.inl ?_)) (fun hconnect => ?_) fun _ => hnone
      · rw [hphase]
        exact .intro htext fun message path timestamp hparse =>
          hverified ((isVerified_verifyWelcome_iff text).mpr ⟨message, path, timestamp, hparse⟩)
      · rw [hphase] at hconnect
        exact absurd hconnect.phase_eq nofun
  | closed hquiet =>
    refine h.close hlenient hrun (hphase ▸ hquiet) ?_ _ _
    rfl
  | expired =>
    have hfaithful : ∀ check, Faithful plan (events ++ [.expired]) (run.setWelcome check).report :=
      fun _ => h.faithful.concat hstart nofun nofun nofun rfl fun _ => (or_iff_left nofun).symm
    have hexpires : Happens plan (events ++ [.expired]) Expires := happens_concat hstart (.intro rfl)
    exact sound_giveUp hlenient (hfaithful _) (by decide) (iff_of_true rfl hexpires) _ _
  | broken herror =>
    refine classified_break hrun h ?_ ?_
    · rw [hphase]
      exact nofun
    · rw [hphase]
      exact .received rfl herror
  | skipped hquiet => exact h.stay hrun (hphase ▸ hquiet) (by rw [Run.isOver, hphase])

theorem Underway.pausing (hrun : (Run.start plan).steps plan events = run)
    (h : Underway plan events run) {index : Nat} (hphase : run.phase = .pausing index)
    (event : Event) : Sound plan (events ++ [event]) (run.complete plan event) := by
  have hquiet : Quiet plan run.phase event := by
    rw [hphase]
    exact quiet_of_not_wait plan rfl nofun nofun
  have hlt : index < plan.size := h.exchange_lt index (by rw [hphase]; rfl)
  simp only [Run.complete, hphase]
  cases event with
  | resumed =>
    refine h.concat_quiet hrun hquiet rfl ?_ ?_
    · rintro _ ⟨⟩
      exact hlt
    · rw [hphase]
      exact le_refl _
  | _ => exact h.stay hrun hquiet (by rw [Run.isOver, hphase])

theorem Underway.sending (hlenient : plan.settings.strict = false)
    (hrun : (Run.start plan).steps plan events = run) (h : Underway plan events run) {index : Nat}
    (hphase : run.phase = .sending index) (event : Event) :
    Sound plan (events ++ [event]) (run.complete plan event) := by
  have hquiet : ¬ Breaks (.sending index) event → Quiet plan run.phase event := by
    intro hbreaks
    rw [hphase]
    exact quiet_of_not_wait plan rfl nofun hbreaks
  have hlt : index < plan.size := h.exchange_lt index (by rw [hphase]; rfl)
  simp only [Run.complete, hphase]
  cases event with
  | sent =>
    refine h.concat_quiet hrun (hquiet nofun) rfl ?_ ?_
    · rintro _ ⟨⟩
      exact hlt
    · rw [hphase]
      exact le_refl _
  | unsent error =>
    cases herror : error.closing? with
    | some reason =>
      have hquiet : Quiet plan run.phase (.unsent error) := by
        refine hquiet fun hbreaks => ?_
        cases hbreaks with
        | sent hnone =>
          rw [herror] at hnone
          exact Option.some_ne_none reason hnone
      simp only [Run.undelivered, herror]
      exact h.close hlenient hrun hquiet rfl _ _
    | none =>
      simp only [Run.undelivered, herror]
      refine classified_break hrun h ?_ ?_
      · rw [hphase]
        exact nofun
      · rw [hphase]
        exact .sent herror
  | _ => exact h.stay hrun (hquiet nofun) (by rw [Run.isOver, hphase])

/-- Taking down a check at the exchange that is under way. -/
theorem Underway.setCheck {index : Nat} (h : Underway plan events run)
    (hphase : run.phase = .awaiting index) (check : Check) (i : Nat) :
    (run.report.setCheck index check).IsMismatchAt i ↔
      run.report.IsMismatchAt i ∨ index = i ∧ check.isMismatch = true := by
  have hlt : index < run.report.exchanges.length := by
    rw [h.faithful.length_eq]
    exact h.exchange_lt index (by rw [hphase]; rfl)
  rw [Report.isMismatchAt_setCheck_iff]
  by_cases hi : index = i
  · subst hi
    have hnot : ¬ run.report.IsMismatchAt index := by
      refine h.ahead index ?_
      rw [hphase]
      exact le_refl _
    rw [if_pos rfl, or_iff_right hnot, and_iff_right hlt, and_iff_right rfl]
  · rw [if_neg hi, or_iff_left fun hcheck => hi hcheck.1]

theorem Underway.awaiting (hlenient : plan.settings.strict = false)
    (hrun : (Run.start plan).steps plan events = run) (h : Underway plan events run) {index : Nat}
    (hphase : run.phase = .awaiting index) (event : Event) :
    Sound plan (events ++ [event]) (run.complete plan event) := by
  have hstart : ((Run.start plan).steps plan events).phase = .awaiting index := by
    rw [hrun, hphase]
  have hwaits : Waits plan (.awaiting index) event (Run.incoming? event) := waits plan rfl event
  have hset := h.setCheck hphase
  simp only [Run.complete, hphase]
  generalize Run.incoming? event = incoming at hwaits
  cases hwaits with
  | @payload m text htext =>
    have hmismatch : ∀ i, Mismatches plan i (.awaiting index) (.arrived (.message m)) ↔
        index = i ∧ (verifyEcho (plan.wire index) text).isMismatch = true := by
      intro i
      constructor
      · rintro ⟨htext', hcheck⟩
        rw [htext] at htext'
        exact ⟨rfl, Option.some.inj htext' ▸ hcheck⟩
      · rintro ⟨rfl, hcheck⟩
        exact .intro htext hcheck
    -- whatever the echo says, the run goes on to the next exchange
    refine sound_proceed hlenient ?_ ?_ fun i hi => ?_
    · refine h.faithful.concat hstart nofun nofun nofun (Report.length_setCheck _ _ _) fun i => ?_
      rw [hmismatch]
      exact hset _ i
    · refine h.not_expires_concat hrun ?_
      rw [hphase]
      exact nofun
    · intro hi'
      rcases (hset _ i).mp hi' with hbefore | ⟨rfl, -⟩
      · refine h.ahead i ?_ hbefore
        rw [hphase]
        exact le_trans (Nat.le_succ index) hi
      · exact absurd hi (Nat.not_succ_le_self _)
  | closed hquiet => exact h.close hlenient hrun (hphase ▸ hquiet) rfl _ _
  | expired =>
    -- the check that is taken down is open, so it is no mismatch
    have hfaithful : ∀ reason, Faithful plan (events ++ [.expired])
        (run.setCheck index (.unverified reason)).report := by
      intro reason
      refine h.faithful.concat hstart nofun nofun nofun (Report.length_setCheck _ _ _) fun i => ?_
      rw [or_iff_left nofun]
      exact (hset _ i).trans (or_iff_left fun hcheck => Bool.false_ne_true hcheck.2)
    have hexpires : Happens plan (events ++ [.expired]) Expires := happens_concat hstart (.intro rfl)
    exact sound_giveUp hlenient (hfaithful _) (by decide) (iff_of_true rfl hexpires) _ _
  | broken herror =>
    refine classified_break hrun h ?_ ?_
    · rw [hphase]
      exact nofun
    · rw [hphase]
      exact .received rfl herror
  | skipped hquiet => exact h.stay hrun (hphase ▸ hquiet) (by rw [Run.isOver, hphase])

/-! ## Whole runs -/

/-- **One event keeps a run sound.** -/
theorem Sound.step (hlenient : plan.settings.strict = false)
    (hrun : (Run.start plan).steps plan events = run) (h : Sound plan events run) (event : Event) :
    Sound plan (events ++ [event]) (run.step plan event) := by
  by_cases hover : run.isOver = true
  · rw [Run.step_of_isOver hover]
    unfold Sound at h ⊢
    unfold Run.isOver at hover
    cases hphase : run.phase with
    | finished =>
      rw [hphase] at h
      have hstart : ((Run.start plan).steps plan events).phase = .finished := by rw [hrun, hphase]
      exact h.concat_quiet hstart (quiet_of_not_wait plan rfl nofun nofun)
    | cancelled => trivial
    | _ => rw [hphase] at hover; exact absurd hover Bool.false_ne_true
  · by_cases hcancelled : event = .cancelled
    · subst hcancelled
      unfold Run.step
      rw [if_neg hover]
      trivial
    · rw [Run.step_of_not_isOver hover plan hcancelled]
      unfold Sound at h
      unfold Run.isOver at hover
      cases hphase : run.phase with
      | connecting => rw [hphase] at h; exact h.connecting hrun hphase event
      | greeting => rw [hphase] at h; exact h.greeting hlenient hrun hphase event
      | pausing index => rw [hphase] at h; exact h.pausing hrun hphase event
      | sending index => rw [hphase] at h; exact h.sending hlenient hrun hphase event
      | awaiting index => rw [hphase] at h; exact h.awaiting hlenient hrun hphase event
      | finished => rw [hphase] at hover; exact absurd rfl hover
      | cancelled => rw [hphase] at hover; exact absurd rfl hover

end EchoProbe.Probe
