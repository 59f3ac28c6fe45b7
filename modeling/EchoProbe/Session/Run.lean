import EchoProbe.Echo.Server
import EchoProbe.Probe.Link
import EchoProbe.Session.Rendezvous
import EchoProbe.Session.Report
import EchoProbe.Settings.Validation

/-!
# Runs of a session

A session starts the echo server, lets it settle, waits for the operator,
runs the probe, reports, may linger until a shutdown is asked for, and stops
the server. A shutdown that is asked for earlier cancels the session. Once
the server has started, every way that ends the session stops it.

What the session meets with is given as `Surroundings`: how long each step
of others takes and what it results in. `Session.run` gives the `Course`:
what the session did, in order, and what it returned. Moments count from the
beginning of the session.
-/

namespace EchoProbe.Session

open Probe (Moment Link)

/-- When a shutdown is asked for. -/
inductive Shutdown where
  /-- Never. -/
  | never
  /-- At a moment. -/
  | at (moment : Moment)
  /-- While the report is being given. -/
  | onReport
deriving DecidableEq, Repr

namespace Shutdown

/-- The moment of a shutdown that does not wait for the report. -/
def moment? : Shutdown → Option Moment
  | .at moment => some moment
  | _ => none

/-- Whether it has been asked for by a moment, with no report given yet. -/
def isBy (s : Shutdown) (moment : Moment) : Bool :=
  match s.moment? with
  | some m => m ≤ moment
  | none => false

end Shutdown

/-- When and how the operator answers: so long after the session has begun
to wait, if ever. -/
abbrev Answer := Option (Duration × Handoff)

/-- **What a session meets with.** -/
structure Surroundings where
  /-- How long it takes to bind the address of the server. -/
  bindDelay : Duration
  /-- What binding it results in. -/
  bound : Echo.Binding
  /-- When the shutdown is asked for. -/
  shutdown : Shutdown
  /-- What the operator answers. -/
  answer : Answer
  /-- The time that a scripted ping tells. -/
  now : Binary64
  /-- How the transport behaves towards the probe. Cancellation is the
  session's own. -/
  link : Link
  /-- What stopping the server results in. -/
  stopped : Except EchoError Unit

/-- **What a session does.** -/
inductive Action where
  /-- Start the server. -/
  | start
  /-- Let the server settle, to the end. -/
  | settle
  /-- Get an answer from the operator. -/
  | meet (handoff : Handoff)
  /-- Run the probe. -/
  | probe
  /-- Report. -/
  | report (report : Report)
  /-- Wait for the shutdown. -/
  | linger
  /-- Stop the server. -/
  | stop
deriving DecidableEq, Repr

/-- **The course of a session.** -/
structure Course where
  /-- What it did, in order. -/
  actions : List Action
  /-- What it returned; nothing if it never does. -/
  result : Option (Except SessionError Report)

/-- What happens between the start of the server and the report: the
actions, and the end or the error of the probe, if there is ever either. -/
structure Phase where
  /-- The actions. -/
  actions : List Action
  /-- How it ended. -/
  ending : Option (Except ProbeError End)

namespace Phase

/-- The session is cancelled after these actions. -/
def cancelled (actions : List Action) : Phase := ⟨actions, some (.ok .cancelled)⟩

/-- The probe runs, from a moment on. -/
def probing (settings : Settings) (w : Surroundings) (moment : Moment) : Phase :=
  let link := w.link.cancelling (w.shutdown.moment?.map (· - moment))
  let script := Script.ofSettings settings.probe w.now
  let ending : Option (Except ProbeError End) :=
    match Probe.conduct settings.probe script link with
    | some (.ok report) => some (.ok (.completed report))
    | some (.error .cancelled) => some (.ok .cancelled)
    | some (.error error) => some (.error error)
    | none => none
  ⟨[.settle, .meet .proceed, .probe], ending⟩

/-- The session waits for the operator, from a moment on. -/
def meeting (settings : Settings) (w : Surroundings) (moment : Moment) : Phase :=
  match w.answer with
  | some (delay, handoff) =>
    let answered := moment + delay.nanoseconds
    if w.shutdown.isBy answered then cancelled [.settle]
    else
      match handoff with
      | .proceed => probing settings w answered
      | .cancelled => cancelled [.settle, .meet .cancelled]
  | none => if w.shutdown.moment?.isSome then cancelled [.settle] else ⟨[.settle], none⟩

/-- Everything between the start of the server and the report. -/
def between (settings : Settings) (w : Surroundings) : Phase :=
  let settled := w.bindDelay.nanoseconds + settings.session.settle.nanoseconds
  if w.shutdown.isBy settled then cancelled [] else meeting settings w settled

end Phase

/-- Stop the server and return. An error in stopping it comes first. -/
def close (w : Surroundings) (actions : List Action) (result : Except SessionError Report) :
    Course where
  actions := actions ++ [.stop]
  result :=
    match w.stopped with
    | .ok () => some result
    | .error error => some (.error (.echo error))

/-- Report, linger if that is asked for, and stop. Only a session with a
report of its probe lingers. -/
def conclude (settings : Settings) (w : Surroundings) (actions : List Action) (report : Report) :
    Course :=
  let actions := actions ++ [.report report]
  if settings.session.linger && report.probe?.isSome then
    match w.shutdown with
    | .never => ⟨actions ++ [.linger], none⟩
    | _ => close w (actions ++ [.linger]) (.ok report)
  else close w actions (.ok report)

/-- What follows once the server has started. -/
def serve (settings : Settings) (w : Surroundings) (server : Echo.Server) : Course :=
  let phase := Phase.between settings w
  let actions := .start :: phase.actions
  match phase.ending with
  | none => ⟨actions, none⟩
  | some (.error error) => close w actions (.error (.probe error))
  | some (.ok ending) => conclude settings w actions ⟨server.url, ending⟩

/-- **Run a session.** -/
def run (settings : Settings) (w : Surroundings) : Course :=
  match settings.validate with
  | .error error => ⟨[], some (.error (.config error))⟩
  | .ok () =>
    let limit := settings.session.startupTimeout
    if limit.nanoseconds < w.bindDelay.nanoseconds then
      ⟨[], some (.error (.startupTimeout limit))⟩
    else
      match Echo.Server.start settings.server w.bound with
      | .error error => ⟨[], some (.error (.echo error))⟩
      | .ok server => serve settings w server

namespace Course

/-- The reports that were given. -/
def reports (c : Course) : List Report :=
  c.actions.filterMap fun
    | .report report => some report
    | _ => none

/-- Whether the address of the server is free again, or still. -/
def isReleased (c : Course) : Bool := !c.actions.contains .start || c.actions.contains .stop

end Course

end EchoProbe.Session
