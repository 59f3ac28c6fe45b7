import EchoProbe.Proofs.Probe.LockStep

/-!
# The shape of every report

A report has one record for each frame of the script. The records are filled
from the front: the first ones, as many as there were answers, say whether the
answer was right, and all later ones are open (`Shaped`). If there are fewer
answers than frames, something stopped the run, and what stopped it decides
the reason that each open record gives.

This holds of whatever a run has to show when it finishes (`Account`), so the
work here is to count: the answers are the data messages that were taken in
the waits for an echo.
-/

namespace EchoProbe.Probe

variable {plan : Plan} {answers : List String} {reason : Nat → String} {run : Run}
  {events : List Event}

/-- **The shape of a report** of a run along a link that got so many answers. -/
structure Shaped (plan : Plan) (link : Link) (report : Report) (count : Nat) : Prop where
  /-- There is one record for each frame, in order and with this frame. -/
  sent_eq : report.exchanges.map Exchange.sent = plan.script.frames
  count_le : count ≤ plan.size
  /-- The first records have a result. -/
  answered : ∀ index < count, ∃ frame check, report.exchanges[index]? = some ⟨frame, check⟩ ∧
    (check = .verified ∨ ∃ received, check = .mismatch received)
  /-- All later ones are open. -/
  unanswered : ∀ index e, count ≤ index → report.exchanges[index]? = some e →
    ∃ why, e.check = .unverified why
  /-- The answers are the data messages that were taken in the waits for an
  echo, one in each of the first waits. -/
  taken_iff : ∀ index,
    (∃ text, Happens plan (link.events plan) (Takes (index + 1) text)) ↔ index < count
  /-- They came after a verified welcome, and nothing else was received. -/
  length_received : report.welcome = .verified →
    (link.run plan).run.received.length = count + 1
  /-- Besides the frames that were answered at most one was sent. -/
  length_sent : (link.run plan).run.sent.length = count ∨
    (link.run plan).run.sent.length = count + 1
  /-- Without a welcome nothing was sent, and nothing taken as an answer. -/
  unwelcomed : report.upgrade = false ∨ report.welcome ≠ .verified →
    count = 0 ∧ (link.run plan).run.sent = []
  /-- If not every frame was answered something stopped the run, and this
  decides the reason in each open record. -/
  stopped : count < plan.size → ∃ reason,
    Happens plan (link.events plan) (fun phase event => Stops plan phase event count reason) ∧
      ∀ index e, count ≤ index → report.exchanges[index]? = some e →
        e.check = .unverified (reason index)

/-! ## Counting the answers -/

/-- A run that has finished got every answer, or was stopped. -/
theorem Course.exists_stops (h : Course plan events run) (hphase : run.phase = .finished) :
    ∃ answers reason, Account plan answers reason run ∧ (answers.length < plan.size →
      Happens plan events fun phase event => Stops plan phase event answers.length reason) := by
  cases h with
  | underway hplace => exact absurd hphase hplace.phase_ne_finished
  | cancelled _ => cases hphase
  | completed hwelcome hsize =>
    exact ⟨_, _, account_completed hwelcome hsize, fun hlt => absurd hsize (Nat.ne_of_lt hlt)⟩
  | stopped _ hstops haccount _ _ => exact ⟨_, _, haccount, fun _ => hstops⟩

/-! ## Reports -/

theorem exists_shaped {link : Link} (hphase : (link.run plan).run.phase = .finished)
    (elapsed : Duration) :
    ∃ count, Shaped plan link { (link.run plan).run.report with elapsed } count := by
  have hcourse : Course plan (link.events plan) (link.run plan).run := by
    rw [Link.run_run]
    exact course_steps plan _
  obtain ⟨answers, reason, ⟨hexchanges, hlog⟩, hstops⟩ := hcourse.exists_stops hphase
  have hopen : ∀ index e, answers.length ≤ index →
      (link.run plan).run.report.exchanges[index]? = some e →
        e.check = .unverified (reason index) := by
    intro index e hle he
    rw [hexchanges] at he
    exact Plan.exchanges_of_le hle he
  refine ⟨answers.length, ?_, hlog.length_le_size, fun index hlt => ?_,
    fun index e hle he => ⟨reason index, hopen index e hle he⟩, fun index => ?_,
    hlog.length_received, hlog.length_sent, hlog.eq_nil_of_unwelcomed,
    fun hlt => ⟨reason, hstops hlt, hopen⟩⟩
  · show (link.run plan).run.report.exchanges.map Exchange.sent = _
    rw [hexchanges, Plan.map_sent_exchanges]
  · show ∃ frame check, (link.run plan).run.report.exchanges[index]? = _ ∧ _
    rw [hexchanges]
    exact Plan.exchanges_of_lt hlt hlog.length_le_size
  · -- the message of this turn stands in the log, and so among the answers
    simp only [← getElem?_received_iff, ← Link.run_run, ← hlog.getElem?_answers]
    constructor
    · rintro ⟨text, htext⟩
      exact (List.getElem?_eq_some_iff.mp htext).1
    · intro hlt
      exact ⟨_, List.getElem?_eq_getElem hlt⟩

/-- **Every report has this shape**, for every script and every behaviour of
the transport. -/
theorem conduct_shaped {settings : Settings.Probe} {script : Script} {link : Link}
    {report : Report} (h : conduct settings script link = some (.ok report)) :
    ∃ url, Net.Url.parse settings.proxyUrl = .ok url ∧
      ∃ count, Shaped ⟨url.toText, script, settings⟩ link report count := by
  obtain ⟨url, hurl, hphase, rfl⟩ := exists_of_conduct h
  exact ⟨url, hurl, exists_shaped hphase _⟩

/-- A peer that greets and then keeps silent. -/
def silentLink : Link where
  opening := .opens .zero
  inbox := [⟨0, .message (.text (Envelope.welcome "hello" "/" (.ofBits 0)).toText)⟩]
  sendings := []
  cancelAt := none
  ordered := by simp

/-- One frame is sent and never answered; the other is not sent any more. -/
theorem conduct_shaped_silent :
    ∃ report, conduct { proxyUrl := "ws://[::1]:8080/ws" } .minimal silentLink
        = some (.ok report) ∧
      report.exchanges.map Exchange.check
        = [.unverified "no echo within 5s", .unverified "skipped after timeout"] ∧
      ∃ url, Net.Url.parse "ws://[::1]:8080/ws" = .ok url ∧
        ∃ count, Shaped ⟨url.toText, .minimal, { proxyUrl := "ws://[::1]:8080/ws" }⟩ silentLink
          report count := by
  have hchecks : ((conduct { proxyUrl := "ws://[::1]:8080/ws" } .minimal silentLink).bind
      Except.toOption).map (fun report => report.exchanges.map Exchange.check)
        = some [.unverified "no echo within 5s", .unverified "skipped after timeout"] := by
    decide +kernel
  obtain ⟨report, hreport, hchecks⟩ := exists_report hchecks
  exact ⟨report, hreport, hchecks, conduct_shaped hreport⟩

end EchoProbe.Probe
