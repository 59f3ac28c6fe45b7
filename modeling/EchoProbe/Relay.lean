import EchoProbe.Echo.Conversation
import EchoProbe.Probe.Run

/-!
# The probe and the echo server, connected

A relay joins a run of the probe with the conversation that the echo server
holds with it. Between them is a faithful transport: each message arrives
whole, in order and in time. The two sides move independently; a move that
is not due changes nothing.
-/

namespace EchoProbe

/-- Both ends of a connection. -/
structure Relay.Setting where
  /-- What the probe is to do. -/
  plan : Probe.Plan
  /-- The settings of the server. -/
  server : Settings.Server
  /-- The path that the probe asks for. -/
  path : String
deriving DecidableEq, Repr

/-- **The state of both ends, and what is on its way between them.** -/
structure Relay where
  /-- The run of the probe. -/
  run : Probe.Run
  /-- The conversation of the server, once there is one. -/
  conversation : Option Echo.Conversation
  /-- Messages that the probe has sent and the server has not read. -/
  toServer : List Message
  /-- Messages that the server has sent and the probe has not received. -/
  toProbe : List Message
deriving DecidableEq, Repr

/-- **A move of one side.** -/
inductive Relay.Move where
  /-- The upgrade completes at a time. -/
  | connect (now : Binary64)
  /-- The probe's pause is over. -/
  | resume
  /-- The probe sends its frame. -/
  | send
  /-- The probe receives a message. -/
  | receive
  /-- The server reads a message at a time. -/
  | read (now : Binary64)
  /-- The server sends its reply. -/
  | reply
  /-- The server counts an echo. -/
  | count
deriving DecidableEq, Repr

namespace Relay

/-- Both ends before the connection. -/
def start (setting : Setting) : Relay := ⟨.start setting.plan, none, [], []⟩

/-- Something happens in the run of the probe. -/
def advance (setting : Setting) (r : Relay) (event : Probe.Event) : Relay :=
  { r with run := r.run.step setting.plan event }

/-- Something happens in the conversation of the server. -/
def converse (setting : Setting) (r : Relay) (o : Echo.Occurrence) : Relay :=
  { r with conversation := r.conversation.map (·.step setting.server o) }

/-- The stage of the conversation. -/
def stage? (r : Relay) : Option Echo.Stage := r.conversation.map Echo.Conversation.stage

/-- **One move.** -/
def step (setting : Setting) (r : Relay) : Move → Relay
  | .connect now =>
    if r.run.phase = .connecting then
      { r.advance setting .opened with
        conversation := some (.start setting.server setting.path now) }
    else r
  | .resume =>
    match r.run.phase with
    | .pausing _ => r.advance setting .resumed
    | _ => r
  | .send =>
    match r.run.phase with
    | .sending index =>
      { r.advance setting .sent with
        toServer := r.toServer ++ [.text (setting.plan.wire index)] }
    | _ => r
  | .receive =>
    match r.run.phase.isWait, r.toProbe with
    | true, m :: rest => { r.advance setting (.arrived (.message m)) with toProbe := rest }
    | _, _ => r
  | .read now =>
    match r.stage?, r.toServer with
    | some .waiting, m :: rest =>
      { r.converse setting (.arrived (.message m) now) with toServer := rest }
    | _, _ => r
  | .reply =>
    match r.conversation.bind Echo.Conversation.outgoing? with
    | some m => { r.converse setting .delivered with toProbe := r.toProbe ++ [m] }
    | none => r
  | .count =>
    match r.stage? with
    | some .counting => r.converse setting .counted
    | _ => r

/-- **Moves in a row.** -/
def steps (setting : Setting) (r : Relay) (moves : List Move) : Relay :=
  moves.foldl (step setting) r

end Relay

end EchoProbe
