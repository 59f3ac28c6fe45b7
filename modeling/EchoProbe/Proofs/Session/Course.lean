import EchoProbe.Proofs.Probe.Cancellation
import EchoProbe.Proofs.Settings.Validation
import EchoProbe.Session.Run

/-!
# The courses of a session

A session whose server has started takes one of a few courses. First it comes to
an end, or never does (`Between`): it is cancelled while the server settles or while it
waits for the operator, the operator declines, or the probe runs – and a probe of settings
that were accepted reports, is cancelled or hangs, but never refuses its address
(`eq_cancelled_of_conduct`). Then it reports that end, may linger, and stops the server
(`Serves`). What a session does and does not do is read off these courses.
-/

namespace EchoProbe.Session

open Probe (Moment Link)

variable {settings : Settings} {w : Surroundings} {server : Echo.Server}

/-- A shutdown has been asked for by a moment if its own is not later. -/
theorem Shutdown.isBy_iff {s : Shutdown} {moment : Moment} :
    s.isBy moment = true ↔ ∃ m, s.moment? = some m ∧ m ≤ moment := by
  unfold isBy
  cases s.moment? with
  | none => simp
  | some m => simp

namespace Surroundings

/-- The moment at which the server has settled. -/
def settled (w : Surroundings) (settings : Settings) : Moment :=
  w.bindDelay.nanoseconds + settings.session.settle.nanoseconds

/-- The behaviour of the transport towards a probe that begins at a moment. -/
def linkFrom (w : Surroundings) (moment : Moment) : Link :=
  w.link.cancelling (w.shutdown.moment?.map (· - moment))

/-- What a probe that begins at a moment ends with. -/
def probeFrom (w : Surroundings) (settings : Settings) (moment : Moment) :
    Option (Except ProbeError EchoProbe.Report) :=
  Probe.conduct settings.probe (.ofSettings settings.probe w.now) (w.linkFrom moment)

/-- How a session comes to an end whose probe begins at a moment, if it ever does. -/
def endingFrom (w : Surroundings) (settings : Settings) (moment : Moment) :
    Option (Except ProbeError End) :=
  match w.probeFrom settings moment with
  | some (.ok report) => some (.ok (.completed report))
  | some (.error .cancelled) => some (.ok .cancelled)
  | some (.error error) => some (.error error)
  | none => none

/-- **The operator lets the probe begin** at a moment, and no shutdown has been asked for
by then. -/
structure Releases (w : Surroundings) (settings : Settings) (moment : Moment) : Prop where
  answered : ∃ delay, w.answer = some (delay, .proceed) ∧
    moment = w.settled settings + delay.nanoseconds
  undisturbed : w.shutdown.isBy moment = false

end Surroundings

/-- **How a session comes to an end**, or never does, before it reports. -/
inductive Between (settings : Settings) (w : Surroundings) : Phase → Prop
  /-- It is cancelled while the server settles. -/
  | unsettled (h : w.shutdown.isBy (w.settled settings) = true) :
    Between settings w (.cancelled [])
  /-- It is cancelled while it waits for the operator. -/
  | interrupted (h : w.shutdown.moment?.isSome = true)
      (hby : ∀ delay handoff, w.answer = some (delay, handoff) →
        w.shutdown.isBy (w.settled settings + delay.nanoseconds) = true) :
    Between settings w (.cancelled [.settle])
  /-- It waits for the operator for ever. -/
  | unanswered (h : w.shutdown.moment? = none) (hanswer : w.answer = none) :
    Between settings w ⟨[.settle], none⟩
  /-- The operator cancels it. -/
  | declined {delay : Duration} (hanswer : w.answer = some (delay, .cancelled)) :
    Between settings w (.cancelled [.settle, .meet .cancelled])
  /-- The probe reports. -/
  | reported {moment : Moment} {report : EchoProbe.Report} (h : w.Releases settings moment)
      (hprobe : w.probeFrom settings moment = some (.ok report)) :
    Between settings w ⟨[.settle, .meet .proceed, .probe], some (.ok (.completed report))⟩
  /-- The probe is cancelled. -/
  | caught {moment : Moment} (h : w.Releases settings moment)
      (hprobe : w.probeFrom settings moment = some (.error .cancelled)) :
    Between settings w (.cancelled [.settle, .meet .proceed, .probe])
  /-- The probe hangs. -/
  | hanging {moment : Moment} (h : w.Releases settings moment)
      (hprobe : w.probeFrom settings moment = none) :
    Between settings w ⟨[.settle, .meet .proceed, .probe], none⟩

/-- **A probe of settings that were accepted has no error** but a cancellation. -/
theorem eq_cancelled_of_conduct (hvalid : settings.Valid) {script : Script} {link : Link}
    {error : ProbeError} (h : Probe.conduct settings.probe script link = some (.error error)) :
    error = .cancelled := by
  obtain ⟨url, hurl, hscheme, -⟩ := hvalid.target
  rw [Probe.conduct_eq_conclusion hurl hscheme] at h
  unfold Link.conclusion at h
  split at h
  · cases h
  · exact (Except.error.inj (Option.some.inj h)).symm
  · cases h

theorem probing_eq (settings : Settings) (w : Surroundings) (moment : Moment) :
    Phase.probing settings w moment
      = ⟨[.settle, .meet .proceed, .probe], w.endingFrom settings moment⟩ :=
  rfl

theorem between_probing (hvalid : settings.Valid) {moment : Moment}
    (h : w.Releases settings moment) : Between settings w (.probing settings w moment) := by
  rw [probing_eq, Surroundings.endingFrom]
  cases hprobe : w.probeFrom settings moment with
  | none => exact .hanging h hprobe
  | some result =>
    cases result with
    | ok report => exact .reported h hprobe
    | error error =>
      obtain rfl := eq_cancelled_of_conduct hvalid hprobe
      exact .caught h hprobe

/-- **Every session comes to an end in one of these ways**, or never does. -/
theorem between_between (hvalid : settings.Valid) (w : Surroundings) :
    Between settings w (.between settings w) := by
  show Between settings w (if w.shutdown.isBy (w.settled settings) then .cancelled []
    else .meeting settings w (w.settled settings))
  split
  · next hby => exact .unsettled hby
  · unfold Phase.meeting
    cases hanswer : w.answer with
    | some answer =>
      obtain ⟨delay, handoff⟩ := answer
      dsimp only
      split
      · next hby =>
        obtain ⟨moment, hmoment, -⟩ := Shutdown.isBy_iff.mp hby
        refine .interrupted (Option.isSome_of_eq_some hmoment) fun delay' handoff' h => ?_
        obtain ⟨rfl, rfl⟩ := Prod.mk.inj (Option.some.inj (hanswer.symm.trans h))
        exact hby
      · next hby =>
        cases handoff with
        | proceed =>
          exact between_probing hvalid ⟨⟨delay, hanswer, rfl⟩, Bool.eq_false_iff.mpr hby⟩
        | cancelled => exact .declined hanswer
    | none =>
      dsimp only
      split
      · next hsome =>
        refine .interrupted hsome fun delay handoff h => ?_
        exact absurd (hanswer.symm.trans h) (Option.some_ne_none _).symm
      · next hnone => exact .unanswered (Option.not_isSome_iff_eq_none.mp hnone) hanswer

/-- It does not end with an error. -/
theorem Between.ending_ne_error {phase : Phase} (h : Between settings w phase)
    (error : ProbeError) : phase.ending ≠ some (.error error) := by
  cases h <;> rintro ⟨⟩

theorem Shutdown.isBy_eq_false_of_le {s : Shutdown} {moment moment' : Moment}
    (hle : moment ≤ moment') (h : s.isBy moment' = false) : s.isBy moment = false := by
  rw [Bool.eq_false_iff] at h ⊢
  intro hby
  obtain ⟨m, hm, hlater⟩ := Shutdown.isBy_iff.mp hby
  exact h (Shutdown.isBy_iff.mpr ⟨m, hm, Nat.le_trans hlater hle⟩)

theorem between_of_not_isBy (h : w.shutdown.isBy (w.settled settings) = false) :
    Phase.between settings w = .meeting settings w (w.settled settings) :=
  if_neg (Bool.eq_false_iff.mp h)

/-- Where the operator lets it, the probe runs. -/
theorem between_of_releases {moment : Moment} (h : w.Releases settings moment) :
    Phase.between settings w = .probing settings w moment := by
  obtain ⟨⟨delay, hanswer, rfl⟩, hby⟩ := h
  rw [between_of_not_isBy (Shutdown.isBy_eq_false_of_le (Nat.le_add_right _ _) hby),
    Phase.meeting, hanswer]
  exact if_neg (Bool.eq_false_iff.mp hby)

/-! ## Once the server has started -/

/-- What a session with this report returns. An error in stopping the server comes first. -/
def Surroundings.returned (w : Surroundings) (report : Report) : Except SessionError Report :=
  match w.stopped with
  | .ok () => .ok report
  | .error error => .error (.echo error)

/-- **The courses of a session** whose server has started. -/
inductive Serves (settings : Settings) (w : Surroundings) (server : Echo.Server) : Course → Prop
  /-- It never comes to an end. -/
  | waiting {actions : List Action} (h : Between settings w ⟨actions, none⟩) :
    Serves settings w server ⟨.start :: actions ++ [], none⟩
  /-- It reports and stops. -/
  | closed {actions : List Action} {ending : End}
      (h : Between settings w ⟨actions, some (.ok ending)⟩)
      (hquiet : settings.session.linger = false ∨ ending = .cancelled) :
    Serves settings w server ⟨.start :: actions ++ [.report ⟨server.url, ending⟩, .stop],
      some (w.returned ⟨server.url, ending⟩)⟩
  /-- It reports, lingers and stops. -/
  | lingered {actions : List Action} {report : EchoProbe.Report}
      (h : Between settings w ⟨actions, some (.ok (.completed report))⟩)
      (hlinger : settings.session.linger = true) (hshutdown : w.shutdown ≠ .never) :
    Serves settings w server
      ⟨.start :: actions ++ [.report ⟨server.url, .completed report⟩, .linger, .stop],
        some (w.returned ⟨server.url, .completed report⟩)⟩
  /-- It reports and lingers for ever. -/
  | lingering {actions : List Action} {report : EchoProbe.Report}
      (h : Between settings w ⟨actions, some (.ok (.completed report))⟩)
      (hlinger : settings.session.linger = true) (hshutdown : w.shutdown = .never) :
    Serves settings w server
      ⟨.start :: actions ++ [.report ⟨server.url, .completed report⟩, .linger], none⟩

theorem close_eq (w : Surroundings) (actions : List Action) (report : Report) :
    close w actions (.ok report) = ⟨actions ++ [.stop], some (w.returned report)⟩ := by
  unfold close Surroundings.returned
  cases w.stopped <;> rfl

/-- **Every session whose server has started takes such a course.** -/
theorem serves_serve (hvalid : settings.Valid) (w : Surroundings) (server : Echo.Server) :
    Serves settings w server (serve settings w server) := by
  have h := between_between hvalid w
  unfold serve
  generalize Phase.between settings w = phase at h
  obtain ⟨actions, ending⟩ := phase
  match ending with
  | none =>
    show Serves settings w server ⟨.start :: actions, none⟩
    rw [← List.append_nil (.start :: actions)]
    exact .waiting h
  | some (.error error) => exact absurd rfl (h.ending_ne_error error)
  | some (.ok ending) =>
    show Serves settings w server (conclude settings w (.start :: actions) ⟨server.url, ending⟩)
    simp only [conclude, close_eq, List.append_assoc]
    cases hlinger : settings.session.linger with
    | false => exact .closed h (.inl hlinger)
    | true =>
      cases ending with
      | cancelled => exact .closed h (.inr rfl)
      | completed report =>
        cases hshutdown : w.shutdown with
        | never => exact .lingering h hlinger hshutdown
        | «at» moment => exact .lingered h hlinger (by rw [hshutdown]; rintro ⟨⟩)
        | onReport => exact .lingered h hlinger (by rw [hshutdown]; rintro ⟨⟩)

/-- A session whose server has started serves. -/
theorem run_of_start (hvalid : settings.validate = .ok ())
    (hdelay : w.bindDelay.nanoseconds ≤ settings.session.startupTimeout.nanoseconds)
    (hstart : Echo.Server.start settings.server w.bound = .ok server) :
    run settings w = serve settings w server := by
  unfold run
  rw [hvalid, hstart]
  exact if_neg (Nat.not_lt.mpr hdelay)

end EchoProbe.Session
