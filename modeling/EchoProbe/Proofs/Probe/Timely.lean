import EchoProbe.Proofs.Probe.LockStep

/-!
# Runs in which everything comes in time

A run in which nothing goes wrong receives a welcome and then the echo of each
frame (`Faultless`). That is a property of the log of what was received, and
it decides the run: a run that has finished has a report in which everything
is verified exactly if its log is faultless, and then it has passed.

Along a link the same is said of what happens: the upgrade completes, the
first data message is a welcome, each later one is the echo that is due, and
none of this takes longer than its wait (`Prompt`). A run never takes notice
of what comes too late, so both say the same (`prompt_iff`).
-/

namespace EchoProbe.Probe

variable {plan : Plan} {link : Link} {events : List Event} {run : Run} {answers : List String}
  {reason : Nat → String}

/-! ## Faultless logs -/

/-- **What was received is what was due**: a welcome, and an echo of each
frame. -/
structure Faultless (plan : Plan) (received : List String) : Prop where
  welcomed : ∃ text, received[0]? = some text ∧ verifyWelcome text = .verified
  echoed : ∀ index < plan.size, ∃ text, received[index + 1]? = some text ∧
    verifyEcho (plan.wire index) text = .verified

/-- If everything is verified the log is faultless. -/
theorem Account.faultless (h : Account plan answers reason run)
    (hwelcome : run.report.welcome = .verified)
    (hechoes : ∀ e ∈ run.report.exchanges, e.check = .verified) :
    Faultless plan run.received := by
  obtain ⟨hexchanges, hlog⟩ := h
  constructor
  · cases hlog with
    | unwelcomed _ _ _ hnone => exact absurd hwelcome hnone
    | welcomed hparse hreceived _ _ _ _ => exact ⟨_, by rw [hreceived]; rfl, hparse⟩
  · intro index hlt
    have hframe : plan.script.frames[index]? = some plan.script.frames[index] :=
      List.getElem?_eq_getElem hlt
    have hexchange : (plan.exchanges answers reason)[index]? = _ := Plan.getElem?_exchanges index
    rw [← hexchanges, hframe, Option.map_some] at hexchange
    have hcheck := hechoes _ (List.mem_of_getElem? hexchange)
    rw [← hlog.getElem?_answers, Plan.wire_of_getElem? hframe]
    cases hanswer : answers[index]? with
    | none =>
      rw [hanswer] at hcheck
      cases hcheck
    | some text =>
      rw [hanswer] at hcheck
      exact ⟨text, rfl, hcheck⟩

/-- After a faultless log there was a welcome. -/
theorem Log.welcome_of_faultless (h : Log plan answers run)
    (hfaultless : Faultless plan run.received) :
    run.report.welcome = .verified ∧ run.report.upgrade = true := by
  cases h with
  | unwelcomed _ hnone _ _ =>
    obtain ⟨text, htext, hparse⟩ := hfaultless.welcomed
    exact absurd hparse (hnone text (List.mem_of_getElem? htext))
  | welcomed _ _ _ _ hwelcome hupgrade => exact ⟨hwelcome, hupgrade⟩

/-- **A run with a faultless log passes**, strict or not. -/
theorem Course.outcome_of_faultless (h : Course plan events run) (hphase : run.phase = .finished)
    (hfaultless : Faultless plan run.received) : run.report.outcome = .passed := by
  cases h with
  | underway hplace => exact absurd hphase hplace.phase_ne_finished
  | cancelled _ => cases hphase
  | @completed welcome answers hwelcome hsize =>
    have hverified : ∀ e ∈ (plan.midway answers).exchanges, e.check = .verified :=
      Plan.verified_exchanges fun index hlt => by
        obtain ⟨text, htext, hverified⟩ := hfaultless.echoed index hlt
        exact ⟨text, htext, hverified⟩
    show ((plan.midway answers).conclude .completed plan.settings.strict).outcome = .passed
    rw [Report.conclude_of_verified _ rfl hverified]
  | @stopped answers _ _ _ _ haccount hopen _ =>
    -- the answer to the first frame without one is in the log
    have hlt := hopen (haccount.log.welcome_of_faultless hfaultless).1
    obtain ⟨text, htext, -⟩ := hfaultless.echoed answers.length hlt
    rw [← haccount.log.getElem?_answers, List.getElem?_eq_none (Nat.le_refl _)] at htext
    cases htext

/-! ## The upgrade -/

/-- The upgrade completes. -/
inductive Opens : Phase → Event → Prop
  | intro : Opens .connecting .opened

theorem Place.opens_of_upgrade (h : Place plan run) {event : Event}
    (hupgrade : (run.step plan event).report.upgrade = true) :
    run.report.upgrade = true ∨ Opens run.phase event := by
  cases h with
  | connecting =>
    cases event with
    | opened => exact .inr .intro
    | _ => exact absurd hupgrade Bool.false_ne_true
  | greeting => exact .inl rfl
  | pausing _ _ => exact .inl rfl
  | sending _ _ => exact .inl rfl
  | awaiting _ _ => exact .inl rfl

/-- A run is at a place, or over. -/
theorem Course.place_or_isOver (h : Course plan events run) :
    Place plan run ∨ run.isOver = true := by
  cases h with
  | underway hplace => exact .inl hplace
  | cancelled _ => exact .inr rfl
  | completed _ _ => exact .inr rfl
  | stopped hphase _ _ _ _ => exact .inr (by rw [Run.isOver, hphase])

/-- What reports the upgrade has seen it. -/
theorem happens_opens (plan : Plan) (events : List Event)
    (h : ((Run.start plan).steps plan events).report.upgrade = true) :
    Happens plan events Opens := by
  induction events using List.reverseRecOn with
  | nil => exact absurd h Bool.false_ne_true
  | append_singleton events event ih =>
    rw [happens_concat_iff]
    rw [Run.steps_concat] at h
    rcases (course_steps plan events).place_or_isOver with hplace | hover
    · exact (hplace.opens_of_upgrade h).imp_left ih
    · rw [Run.step_of_isOver hover] at h
      exact .inl (ih h)

/-! ## In time -/

/-- **A happening is met in time** by the run along a link: when it is met,
its step has not taken longer than it may. -/
def Link.MeetsInTime (plan : Plan) (link : Link) (what : Phase → Event → Prop) : Prop :=
  ∃ n < link.bound plan, ∃ moment event,
    (link.passage plan n).upcoming plan link = some (moment, event) ∧
      what (link.passage plan n).run.phase event ∧
      ∀ limit, plan.limit? (link.passage plan n).run.phase = some limit →
        moment ≤ (link.passage plan n).since + limit.nanoseconds

/-- Nothing that happens is late, except for a cancellation. -/
theorem Link.meetsInTime_iff {what : Phase → Event → Prop}
    (hwhat : ∀ phase, ¬ what phase .cancelled) :
    link.MeetsInTime plan what ↔ Happens plan (link.events plan) what := by
  rw [Link.events, Link.happens_trace_iff]
  refine exists_congr fun n => and_congr_right fun _ => exists_congr fun moment =>
    exists_congr fun event => and_congr_right fun hupcoming => and_iff_left_of_imp fun h => ?_
  have hevent : event ≠ .cancelled := by
    rintro rfl
    exact hwhat _ h
  exact fun limit => Passage.le_limit_of_upcoming hupcoming hevent

/-- **Everything comes, and in time**: the upgrade, a welcome as the first data
message, and after it for each frame its echo. An envelope carries frames as
JSON values, and as such they are compared. -/
structure Prompt (plan : Plan) (link : Link) : Prop where
  opened : link.MeetsInTime plan Opens
  welcomed : ∃ text, link.payloads[0]? = some text ∧ link.MeetsInTime plan (Takes 0 text) ∧
    ∃ message path timestamp, Envelope.parse text = .ok (.welcome message path timestamp)
  echoed : ∀ index < plan.size, ∃ text, link.payloads[index + 1]? = some text ∧
    link.MeetsInTime plan (Takes (index + 1) text) ∧
    ∃ frame processedAt server, Envelope.parse text = .ok (.echo frame processedAt server) ∧
      frame.toValue = (Frame.decode (plan.wire index)).toValue

/-- The message at an index of the log is the one that arrived in its turn, and
was taken in time. -/
theorem Link.getElem?_received_run_iff {turn : Nat} {text : String} :
    (link.run plan).run.received[turn]? = some text ↔
      link.payloads[turn]? = some text ∧ link.MeetsInTime plan (Takes turn text) := by
  rw [Link.meetsInTime_iff (by rintro _ ⟨⟩), ← getElem?_received_iff, ← Link.run_run]
  refine (and_iff_right_of_imp fun h => ?_).symm
  rw [← link.received_append_payloads plan (link.bound plan)]
  show ((link.run plan).run.received ++ _)[turn]? = some text
  rw [List.getElem?_append_left (List.getElem?_eq_some_iff.mp h).1, h]

/-- **A log is faultless** exactly if everything came, and in time. -/
theorem prompt_iff : Prompt plan link ↔ Faultless plan (link.run plan).run.received := by
  have hwelcome : ∀ text, verifyWelcome text = .verified ↔
      ∃ message path timestamp, Envelope.parse text = .ok (.welcome message path timestamp) :=
    fun text => by rw [← isVerified_verifyWelcome_iff, Check.isVerified_iff]
  constructor
  · rintro ⟨-, ⟨text, hpayload, htaken, hparse⟩, hechoed⟩
    refine ⟨⟨text, Link.getElem?_received_run_iff.mpr ⟨hpayload, htaken⟩, (hwelcome _).mpr hparse⟩,
      fun index hlt => ?_⟩
    obtain ⟨text, hpayload, htaken, hecho⟩ := hechoed index hlt
    exact ⟨text, Link.getElem?_received_run_iff.mpr ⟨hpayload, htaken⟩,
      (verifyEcho_eq_verified_iff _ _).mpr hecho⟩
  · intro h
    obtain ⟨answers, reason, -, hlog⟩ :=
      (link.course_passage plan (link.bound plan)).exists_account
    refine ⟨?_, ?_, fun index hlt => ?_⟩
    · rw [Link.meetsInTime_iff (by rintro _ ⟨⟩)]
      refine happens_opens plan _ ?_
      rw [← Link.run_run]
      exact (hlog.welcome_of_faultless h).2
    · obtain ⟨text, htext, hparse⟩ := h.welcomed
      obtain ⟨hpayload, htaken⟩ := Link.getElem?_received_run_iff.mp htext
      exact ⟨text, hpayload, htaken, (hwelcome _).mp hparse⟩
    · obtain ⟨text, htext, hecho⟩ := h.echoed index hlt
      obtain ⟨hpayload, htaken⟩ := Link.getElem?_received_run_iff.mp htext
      exact ⟨text, hpayload, htaken, (verifyEcho_eq_verified_iff _ _).mp hecho⟩

end EchoProbe.Probe
