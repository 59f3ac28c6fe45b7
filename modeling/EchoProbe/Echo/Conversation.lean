import EchoProbe.Envelope
import EchoProbe.Message
import EchoProbe.Settings

/-!
# Conversations

A conversation is what the echo server does on one connection. It sends a
welcome before it reads anything. Then it reads one message at a time: a
data message gets an echo, a ping gets a pong, and a pong gets nothing. It
ends when the peer closes the connection, when the stream ends, when reading
or sending fails, or when the server shuts down; only in the last case it
says goodbye. Only the wait for a message can be interrupted by a shutdown,
so that a reply is always completed.

The conversation is a machine. Its *stage* is the step that is under way;
its events are the ways in which that step completes.
-/

namespace EchoProbe.Echo

/-- Why a conversation ended. -/
inductive Cause where
  /-- The peer sent a close message. -/
  | closed
  /-- The stream came to its end. -/
  | ended
  /-- Nothing can be read. -/
  | unreadable
  /-- A message could not be sent. -/
  | unsendable
  /-- The server shuts down and has said goodbye. -/
  | shutdown
deriving DecidableEq, Repr

/-- **The step of a conversation that is under way.** -/
inductive Stage where
  /-- The welcome is being sent. -/
  | greeting (welcome : Message)
  /-- The server waits for a message. -/
  | waiting
  /-- An echo is being sent. -/
  | echoing (echo : Message)
  /-- An echo has been sent and not been counted yet. -/
  | counting
  /-- A pong is being sent. -/
  | answering (pong : Message)
  /-- The goodbye is being sent. -/
  | leaving
  /-- None: the conversation is over. -/
  | over (cause : Cause)
deriving DecidableEq, Repr

/-- **The state of a conversation.** -/
structure Conversation where
  /-- The step that is under way. -/
  stage : Stage
  /-- The messages sent, in order. -/
  sent : List Message
  /-- The messages read, in order. -/
  read : List Message
deriving DecidableEq, Repr

/-- **What completes a step of a conversation.** -/
inductive Occurrence where
  /-- The message on its way has been sent. -/
  | delivered
  /-- The message on its way cannot be sent. -/
  | undelivered
  /-- Something arrives at a time. -/
  | arrived (arrival : Arrival) (now : Binary64)
  /-- An echo has been counted. -/
  | counted
  /-- The wait for a message is interrupted by a shutdown. -/
  | interrupted
deriving DecidableEq, Repr

/-- The welcome to a connection. -/
def welcomeMessage (settings : Settings.Server) (path : String) (now : Binary64) : Message :=
  .text (Envelope.welcome settings.welcomeMessage path now).toText

/-- The echo of a frame. -/
def echoMessage (settings : Settings.Server) (frame : Frame) (now : Binary64) : Message :=
  .text (Envelope.echo frame now settings.serverTag).toText

/-- The last message of a server that shuts down. -/
def goodbye : Message := .close (some ⟨1001, "server shutting down"⟩)

namespace Conversation

/-- A conversation that begins. -/
def start (settings : Settings.Server) (path : String) (now : Binary64) : Conversation :=
  ⟨.greeting (welcomeMessage settings path now), [], []⟩

/-- Why the conversation is over, if it is. -/
def cause? (c : Conversation) : Option Cause :=
  match c.stage with
  | .over cause => some cause
  | _ => none

/-- Whether the conversation is over. -/
def isOver (c : Conversation) : Bool := c.cause?.isSome

/-- The message on its way. -/
def outgoing? (c : Conversation) : Option Message :=
  match c.stage with
  | .greeting welcome => some welcome
  | .echoing echo => some echo
  | .answering pong => some pong
  | .leaving => some goodbye
  | _ => none

/-- The message on its way has been sent. -/
def deliver (c : Conversation) (message : Message) (next : Stage) : Conversation :=
  { c with stage := next, sent := c.sent ++ [message] }

/-- A message has been read. -/
def accept (settings : Settings.Server) (c : Conversation) (message : Message) (now : Binary64) :
    Conversation :=
  let next : Stage :=
    match message with
    | .text content => .echoing (echoMessage settings (.decode content) now)
    | .binary content => .echoing (echoMessage settings (.decodeBytes content) now)
    | .ping data => .answering (.pong data)
    | .pong _ => .waiting
    | .close _ => .over .closed
  { c with stage := next, read := c.read ++ [message] }

/-- Something has arrived. -/
def receive (settings : Settings.Server) (c : Conversation) (arrival : Arrival) (now : Binary64) :
    Conversation :=
  match arrival with
  | .message message => c.accept settings message now
  | .ended => { c with stage := .over .ended }
  | .failed _ => { c with stage := .over .unreadable }

/-- **What an occurrence does.** One that does not belong to the stage does
nothing. -/
def step (settings : Settings.Server) (c : Conversation) (o : Occurrence) : Conversation :=
  match c.stage, o with
  | .greeting welcome, .delivered => c.deliver welcome .waiting
  | .greeting _, .undelivered => { c with stage := .over .unsendable }
  | .waiting, .arrived arrival now => c.receive settings arrival now
  | .waiting, .interrupted => { c with stage := .leaving }
  | .echoing echo, .delivered => c.deliver echo .counting
  | .echoing _, .undelivered => { c with stage := .over .unsendable }
  | .counting, .counted => { c with stage := .waiting }
  | .answering pong, .delivered => c.deliver pong .waiting
  | .answering _, .undelivered => { c with stage := .over .unsendable }
  | .leaving, .delivered => c.deliver goodbye (.over .shutdown)
  | .leaving, .undelivered => { c with stage := .over .unsendable }
  | _, _ => c

/-- **What occurrences in a row do.** -/
def steps (settings : Settings.Server) (c : Conversation) (os : List Occurrence) : Conversation :=
  os.foldl (step settings) c

end Conversation

end EchoProbe.Echo
