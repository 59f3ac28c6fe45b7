import Mathlib.Data.List.Induction
import EchoProbe.Probe.Link
import EchoProbe.Proofs.Telling

/-!
# What happens in a run

A run is told by its events in order. An event means something only together
with the phase that it completes: a transport error is a failure in one phase
and nothing in another. A *happening* is therefore a relation between phases
and events, and `Happens` says that it holds at some point of the telling.

The happenings defined here are the ones on which the outcome of a run
depends. They are stated in terms of what arrives and of what the codecs make
of it, not in terms of the report.

A run along a link is told by `Link.events`.
-/

namespace EchoProbe.Probe

/-! ## Happenings -/

/-- The upgrade fails, or takes too long. -/
inductive ConnectFails : Phase → Event → Prop
  | refused (error : TransportError) : ConnectFails .connecting (.refused error)
  | unopened : ConnectFails .connecting .unopened

/-- Only a run that is connecting can fail to connect. -/
theorem ConnectFails.phase_eq {phase : Phase} {event : Event} (h : ConnectFails phase event) :
    phase = .connecting := by
  cases h with
  | refused _ => rfl
  | unopened => rfl

/-- The first data message is no welcome. -/
inductive GreetsWrong : Phase → Event → Prop
  | intro {m : Message} {text : String} (htext : m.payload? = some text)
      (hparse : ∀ message path timestamp,
        Envelope.parse text ≠ .ok (.welcome message path timestamp)) :
    GreetsWrong .greeting (.arrived (.message m))

/-- Receiving or sending fails with an error that is no close. -/
inductive Breaks : Phase → Event → Prop
  | received {phase : Phase} {error : TransportError} (hwait : phase.isWait = true)
      (herror : error.closing? = none) : Breaks phase (.arrived (.failed error))
  | sent {index : Nat} {error : TransportError} (herror : error.closing? = none) :
    Breaks (.sending index) (.unsent error)

/-- The wait for the welcome or for an echo expires. -/
inductive Expires : Phase → Event → Prop
  | intro {phase : Phase} (hwait : phase.isWait = true) : Expires phase .expired

/-- The answer to the frame at an index is a mismatch. -/
inductive Mismatches (plan : Plan) (index : Nat) : Phase → Event → Prop
  | intro {m : Message} {text : String} (htext : m.payload? = some text)
      (hcheck : (verifyEcho (plan.wire index) text).isMismatch = true) :
    Mismatches plan index (.awaiting index) (.arrived (.message m))

/-- Nothing of all this. -/
structure Quiet (plan : Plan) (phase : Phase) (event : Event) : Prop where
  not_connectFails : ¬ ConnectFails phase event
  not_greetsWrong : ¬ GreetsWrong phase event
  not_breaks : ¬ Breaks phase event
  not_expires : ¬ Expires phase event
  not_mismatches : ∀ index, ¬ Mismatches plan index phase event

/-! ## Tellings -/

/-- Nothing changes a run that is over. -/
theorem Run.step_of_isOver {run : Run} (h : run.isOver = true) (plan : Plan) (event : Event) :
    run.step plan event = run := by
  unfold step
  rw [if_pos h]

/-- An event completes the step that is under way, unless it cancels the run. -/
theorem Run.step_of_not_isOver {run : Run} (h : ¬ run.isOver = true) (plan : Plan) {event : Event}
    (hevent : event ≠ .cancelled) : run.step plan event = run.complete plan event := by
  unfold step
  rw [if_neg h]
  cases event with
  | cancelled => exact absurd rfl hevent
  | _ => rfl

theorem Run.steps_concat (plan : Plan) (run : Run) (events : List Event) (event : Event) :
    run.steps plan (events ++ [event]) = (run.steps plan events).step plan event :=
  List.foldl_append

/-- **At some point of a run** the happening is met. -/
def Happens (plan : Plan) (events : List Event) (what : Phase → Event → Prop) : Prop :=
  ∃ before event after, events = before ++ event :: after ∧
    what ((Run.start plan).steps plan before).phase event

theorem not_happens_nil (plan : Plan) (what : Phase → Event → Prop) :
    ¬ Happens plan [] what :=
  not_somewhere_nil fun before event _ => what ((Run.start plan).steps plan before).phase event

/-- What happens in a longer run happened before, or happens now. -/
theorem happens_concat_iff (plan : Plan) (events : List Event) (event : Event)
    (what : Phase → Event → Prop) :
    Happens plan (events ++ [event]) what ↔
      Happens plan events what ∨ what ((Run.start plan).steps plan events).phase event :=
  somewhere_concat_iff events event
    fun before event _ => what ((Run.start plan).steps plan before).phase event

/-- What does not happen now is not new. -/
theorem happens_concat_of_not {plan : Plan} {events : List Event} {event : Event} {phase : Phase}
    (hphase : ((Run.start plan).steps plan events).phase = phase) {what : Phase → Event → Prop}
    (hnot : ¬ what phase event) :
    Happens plan (events ++ [event]) what ↔ Happens plan events what := by
  rw [happens_concat_iff, hphase, or_iff_left hnot]

theorem happens_concat {plan : Plan} {events : List Event} {event : Event} {phase : Phase}
    (hphase : ((Run.start plan).steps plan events).phase = phase) {what : Phase → Event → Prop}
    (hwhat : what phase event) : Happens plan (events ++ [event]) what := by
  rw [happens_concat_iff, hphase]
  exact .inr hwhat

namespace Passage

/-- The events of a passage, so many steps on. -/
def trace (plan : Plan) (link : Link) : Nat → Passage → List Event
  | 0, _ => []
  | n + 1, p =>
    ((p.upcoming plan link).map Prod.snd).toList ++ trace plan link n (p.advance plan link)

/-- **A passage is the run that its events tell.** -/
theorem run_follow (plan : Plan) (link : Link) (n : Nat) (p : Passage) :
    (follow plan link n p).run = p.run.steps plan (trace plan link n p) := by
  induction n generalizing p with
  | zero => rfl
  | succ n ih =>
    rw [follow, ih, trace, Run.steps, Run.steps, List.foldl_append]
    congr 1
    rw [advance]
    cases p.upcoming plan link with
    | none => rfl
    | some next => rfl

end Passage

/-- **The events of a run along a link.** -/
def Link.events (plan : Plan) (link : Link) : List Event :=
  Passage.trace plan link (link.bound plan) (.start plan link)

theorem Link.run_run (plan : Plan) (link : Link) :
    (link.run plan).run = (Run.start plan).steps plan (link.events plan) :=
  Passage.run_follow plan link (link.bound plan) (.start plan link)

/-- A report is that of a run along the link, once it has finished. -/
theorem exists_of_conduct {settings : Settings.Probe} {script : Script} {link : Link}
    {report : Report} (h : conduct settings script link = some (.ok report)) :
    ∃ url, Net.Url.parse settings.proxyUrl = .ok url ∧
      (link.run ⟨url.toText, script, settings⟩).run.phase = .finished ∧
      report = { (link.run ⟨url.toText, script, settings⟩).run.report with
        elapsed := ⟨(link.run ⟨url.toText, script, settings⟩).now⟩ } := by
  unfold conduct at h
  split at h
  · simp at h
  · next url hurl =>
    split at h
    · simp at h
    · extract_lets passage at h
      split at h
      · next hphase =>
        rw [Option.some.injEq, Except.ok.injEq] at h
        exact ⟨url, hurl, hphase, h.symm⟩
      · simp at h
      · simp at h

/-- A result that is a report, seen through what there is to see of it. -/
theorem exists_report {result : Option (Except ProbeError Report)} {α : Type}
    {view : Report → α} {a : α} (h : (result.bind Except.toOption).map view = some a) :
    ∃ report, result = some (.ok report) ∧ view report = a := by
  match result with
  | some (.ok report) => exact ⟨report, rfl, Option.some.inj h⟩
  | some (.error e) => exact absurd h (by simp [Except.toOption])
  | none => exact absurd h (by simp)

/-! ## What ends a wait -/

/-- During a wait most events are quiet. -/
theorem quiet_of_wait (plan : Plan) {phase : Phase} {event : Event} (hwait : phase.isWait = true)
    (hpayload : ∀ m, event = .arrived (.message m) → m.payload? = none)
    (herror : ∀ error, event = .arrived (.failed error) → error.closing? ≠ none)
    (hexpired : event ≠ .expired) : Quiet plan phase event where
  not_connectFails := by
    rintro (_ | _)
    · exact Bool.false_ne_true hwait
    · exact Bool.false_ne_true hwait
  not_greetsWrong := by
    rintro ⟨htext, -⟩
    rw [hpayload _ rfl] at htext
    exact Option.some_ne_none _ htext.symm
  not_breaks := by
    rintro (⟨-, hnone⟩ | ⟨-⟩)
    · exact herror _ rfl hnone
    · exact Bool.false_ne_true hwait
  not_expires := by
    rintro ⟨-⟩
    exact hexpired rfl
  not_mismatches := by
    rintro index ⟨htext, -⟩
    rw [hpayload _ rfl] at htext
    exact Option.some_ne_none _ htext.symm

/-- Outside the waits everything is quiet that is no failure. -/
theorem quiet_of_not_wait (plan : Plan) {phase : Phase} {event : Event}
    (hwait : phase.isWait = false) (hconnect : ¬ ConnectFails phase event)
    (hbreaks : ¬ Breaks phase event) : Quiet plan phase event where
  not_connectFails := hconnect
  not_greetsWrong := by
    rintro ⟨-, -⟩
    exact Bool.false_ne_true hwait.symm
  not_breaks := hbreaks
  not_expires := by
    rintro ⟨h⟩
    exact Bool.false_ne_true (hwait.symm.trans h)
  not_mismatches := by
    rintro index ⟨-, -⟩
    exact Bool.false_ne_true hwait.symm

/-- **What an event means to a wait.** -/
inductive Waits (plan : Plan) (phase : Phase) : Event → Option Incoming → Prop
  /-- A data message ends it. -/
  | payload {m : Message} {text : String} (htext : m.payload? = some text) :
    Waits plan phase (.arrived (.message m)) (some (.payload text))
  /-- So does a close, which is quiet. -/
  | closed {event : Event} {reason : String} (hquiet : Quiet plan phase event) :
    Waits plan phase event (some (.closed reason))
  /-- It takes too long. -/
  | expired : Waits plan phase .expired (some .expired)
  /-- The transport fails. -/
  | broken {error : TransportError} (herror : error.closing? = none) :
    Waits plan phase (.arrived (.failed error)) (some (.broken error.message))
  /-- Everything else is skipped. -/
  | skipped {event : Event} (hquiet : Quiet plan phase event) : Waits plan phase event none

theorem waits (plan : Plan) {phase : Phase} (hwait : phase.isWait = true) (event : Event) :
    Waits plan phase event (Run.incoming? event) := by
  have hquiet : ∀ event : Event, (∀ m, event = .arrived (.message m) → m.payload? = none) →
      (∀ error, event = .arrived (.failed error) → error.closing? ≠ none) →
      event ≠ .expired → Quiet plan phase event := fun _ => quiet_of_wait plan hwait
  cases event with
  | arrived arrival =>
    cases arrival with
    | message m =>
      cases m with
      | text content => exact .payload rfl
      | binary content => exact .payload rfl
      | ping data => exact .skipped (hquiet _ (by rintro _ ⟨⟩; rfl) nofun nofun)
      | pong data => exact .skipped (hquiet _ (by rintro _ ⟨⟩; rfl) nofun nofun)
      | close frame => exact .closed (hquiet _ (by rintro _ ⟨⟩; rfl) nofun nofun)
    | ended => exact .closed (hquiet _ nofun nofun nofun)
    | failed error =>
      rw [Run.incoming?, Incoming.of?]
      cases herror : error.closing? with
      | none => exact .broken herror
      | some reason =>
        refine .closed (hquiet _ nofun ?_ nofun)
        rintro _ ⟨⟩
        rw [herror]
        exact Option.some_ne_none reason
  | expired => exact .expired
  | _ => exact .skipped (hquiet _ nofun nofun nofun)

end EchoProbe.Probe
