import EchoProbe.Message
import EchoProbe.Probe.Verification
import EchoProbe.Script

/-!
# Runs of the probe

A run is strictly sequential. The probe connects and waits for the welcome;
then, for each frame of its script, it sends the frame and waits for the
echo before it goes on to the next. There is never more than one step under
way, so a run is a machine with a *phase* for each of its steps, and an
*event* for each way in which a step can complete.

`Run.step` says what an event does. An event that does not belong to the
phase changes nothing. A run that is cancelled stops in its tracks, in
whatever phase it is; the other runs finish with a report. Which events
happen is up to the transport: see `EchoProbe.Probe.Link`.
-/

namespace EchoProbe.Probe

/-- What a run is to do. -/
structure Plan where
  /-- The address. -/
  target : String
  /-- The frames to send. -/
  script : Script
  /-- The waits, and whether every check must be verified. -/
  settings : Settings.Probe
deriving DecidableEq, Repr

namespace Plan

/-- How many frames there are to send. -/
def size (plan : Plan) : Nat := plan.script.frames.length

/-- The wire texts of the frames, in order. -/
def wires (plan : Plan) : List String := plan.script.frames.map Frame.wire

/-- The wire text of the frame at an index. -/
def wire (plan : Plan) (index : Nat) : String := plan.wires.getD index ""

end Plan

/-- **What a wait for a data message results in.** -/
inductive Incoming where
  /-- A payload. -/
  | payload (text : String)
  /-- The peer has ended the connection. -/
  | closed (reason : String)
  /-- Nothing, in time. -/
  | expired
  /-- A failure of the transport that is no close. -/
  | broken (reason : String)
deriving DecidableEq, Repr

/-- The result of a wait that an arrival brings about; none for a control
message that is skipped. -/
def Incoming.of? : Arrival → Option Incoming
  | .message (.close frame) => some (.closed (closeReason frame))
  | .message m => m.payload?.map .payload
  | .ended => some (.closed "stream ended")
  | .failed error =>
    match error.closing? with
    | some reason => some (.closed reason)
    | none => some (.broken error.message)

/-- **The step that is under way.** -/
inductive Phase where
  /-- The upgrade. -/
  | connecting
  /-- The wait for the welcome. -/
  | greeting
  /-- The pause before the frame at an index. -/
  | pausing (index : Nat)
  /-- The sending of the frame at an index. -/
  | sending (index : Nat)
  /-- The wait for the echo of the frame at an index. -/
  | awaiting (index : Nat)
  /-- None: the report is complete. -/
  | finished
  /-- None: the run was cancelled. -/
  | cancelled
deriving DecidableEq, Repr

/-- Whether the step is a wait for a message. -/
def Phase.isWait : Phase → Bool
  | .greeting => true
  | .awaiting _ => true
  | _ => false

/-- **What completes a step.** -/
inductive Event where
  /-- The upgrade completes. -/
  | opened
  /-- The upgrade fails. -/
  | refused (error : TransportError)
  /-- The upgrade takes too long. -/
  | unopened
  /-- Something arrives. -/
  | arrived (arrival : Arrival)
  /-- A wait takes too long. -/
  | expired
  /-- A pause is over. -/
  | resumed
  /-- A frame has been sent. -/
  | sent
  /-- A frame cannot be sent. -/
  | unsent (error : TransportError)
  /-- The run is cancelled. -/
  | cancelled
deriving DecidableEq, Repr

/-- **The state of a run.** -/
structure Run where
  /-- The step that is under way. -/
  phase : Phase
  /-- What has been established. -/
  report : Report
  /-- The payloads sent, in order. -/
  sent : List String
  /-- The payloads received, in order. -/
  received : List String
deriving DecidableEq, Repr

namespace Run

/-- A run that begins. -/
def start (plan : Plan) : Run where
  phase := .connecting
  report := .pending plan.target plan.script.frames
  sent := []
  received := []

/-- Whether no step is under way any more. -/
def isOver (run : Run) : Bool :=
  match run.phase with
  | .finished => true
  | .cancelled => true
  | _ => false

/-- End the run with this report. -/
def finish (run : Run) (report : Report) : Run := { run with phase := .finished, report }

/-- End the run with a failure. -/
def fail (run : Run) (reason : String) : Run := run.finish (run.report.fail reason)

/-- End the exchanges: the open ones from an index on are given up. -/
def giveUp (plan : Plan) (run : Run) (index : Nat) (reason : String) (ending : Ending) : Run :=
  run.finish ((run.report.abandonFrom index reason).conclude ending plan.settings.strict)

/-- End the exchanges because the transport does not work. -/
def breakOff (run : Run) (index : Nat) (reason failure : String) : Run :=
  run.finish ((run.report.abandonFrom index reason).fail failure)

/-- Take down a payload that was received. -/
def receive (run : Run) (payload : String) : Run :=
  { run with received := run.received ++ [payload] }

/-- Go on to the frame at an index. Before the first there is no pause;
after the last the run is complete. -/
def proceed (plan : Plan) (run : Run) (index : Nat) : Run :=
  if index < plan.size then
    let pauses := 0 < index && !plan.script.pause.isZero
    { run with phase := if pauses then .pausing index else .sending index }
  else run.finish (run.report.conclude .completed plan.settings.strict)

/-- The upgrade is complete. -/
def upgraded (run : Run) : Run :=
  { run with phase := .greeting, report := { run.report with upgrade := true } }

/-- Put down the check of the welcome. -/
def setWelcome (run : Run) (check : Check) : Run :=
  { run with report := { run.report with welcome := check } }

/-- The wait for the welcome is over. -/
def greeted (plan : Plan) (run : Run) : Incoming → Run
  | .payload text =>
    let check := verifyWelcome text
    let run := (run.receive text).setWelcome check
    if check.isVerified then run.proceed plan 0
    else run.fail "handshake: first frame was not a welcome"
  | .expired =>
    (run.setWelcome (.unverified ("no welcome within " ++ plan.settings.welcomeTimeout.toText))).giveUp
      plan 0 "welcome not received" .timedOut
  | .closed reason =>
    (run.setWelcome (.unverified ("peer closed: " ++ reason))).giveUp
      plan 0 "peer closed" .peerClosed
  | .broken reason => run.fail ("handshake: " ++ reason)

/-- The frame at an index has been sent. -/
def delivered (plan : Plan) (run : Run) (index : Nat) : Run :=
  { run with phase := .awaiting index, sent := run.sent ++ [plan.wire index] }

/-- The frame at an index cannot be sent. -/
def undelivered (plan : Plan) (run : Run) (index : Nat) (error : TransportError) : Run :=
  match error.closing? with
  | some _ => run.giveUp plan index "peer closed" .peerClosed
  | none => run.breakOff index "send failed" ("send: " ++ error.message)

/-- Put down the check of the exchange at an index. -/
def setCheck (run : Run) (index : Nat) (check : Check) : Run :=
  { run with report := run.report.setCheck index check }

/-- The wait for the echo of the frame at an index is over. After a wait
that expired nothing more is sent: a late echo would be taken for the echo
of the next frame. -/
def answered (plan : Plan) (run : Run) (index : Nat) : Incoming → Run
  | .payload text =>
    ((run.receive text).setCheck index (verifyEcho (plan.wire index) text)).proceed plan (index + 1)
  | .expired =>
    (run.setCheck index
        (.unverified ("no echo within " ++ plan.settings.exchangeTimeout.toText))).giveUp
      plan (index + 1) "skipped after timeout" .timedOut
  | .closed _ => run.giveUp plan index "peer closed" .peerClosed
  | .broken reason => run.breakOff index "receive failed" ("receive: " ++ reason)

/-- What an event ends the wait with, if it does. -/
def incoming? : Event → Option Incoming
  | .arrived arrival => Incoming.of? arrival
  | .expired => some .expired
  | _ => none

/-- What an event does, unless it cancels the run. -/
def complete (plan : Plan) (run : Run) (event : Event) : Run :=
  match run.phase with
  | .connecting =>
    match event with
    | .opened => run.upgraded
    | .refused error => run.fail ("connect: " ++ error.message)
    | .unopened =>
      run.fail ("connect: no upgrade within " ++ plan.settings.connectTimeout.toText)
    | _ => run
  | .greeting =>
    match incoming? event with
    | some incoming => run.greeted plan incoming
    | none => run
  | .pausing index =>
    match event with
    | .resumed => { run with phase := .sending index }
    | _ => run
  | .sending index =>
    match event with
    | .sent => run.delivered plan index
    | .unsent error => run.undelivered plan index error
    | _ => run
  | .awaiting index =>
    match incoming? event with
    | some incoming => run.answered plan index incoming
    | none => run
  | .finished => run
  | .cancelled => run

/-- **What an event does.** -/
def step (plan : Plan) (run : Run) (event : Event) : Run :=
  if run.isOver then run
  else
    match event with
    | .cancelled => { run with phase := .cancelled }
    | event => run.complete plan event

/-- **What events in a row do.** -/
def steps (plan : Plan) (run : Run) (events : List Event) : Run :=
  events.foldl (step plan) run

end Run

end EchoProbe.Probe
