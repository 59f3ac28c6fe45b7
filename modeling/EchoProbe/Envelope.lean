import EchoProbe.Frame
import EchoProbe.Json.Real

/-!
# Envelopes

The server speaks in envelopes, JSON objects that name their type: one
*welcome* when a connection opens, and one *echo* for each frame it gets.

An envelope is read by its members alone. Their order, blanks, further
members and repeated names do not matter; a member of the wrong kind counts
as missing, and the first one missing is reported, in the order in which
`Envelope.ofValue` asks for them.
-/

namespace EchoProbe

open Json

/-- **A message of the echo server.** -/
inductive Envelope where
  /-- The first message on every connection: a greeting, the path that was
  asked for, and the time in seconds. -/
  | welcome (message path : String) (timestamp : Binary64)
  /-- The reply to one frame: the frame, the time in seconds, and the name
  of the server. -/
  | echo (frame : Frame) (processedAt : Binary64) (server : String)
deriving DecidableEq, Repr

/-- **Why a text is no envelope.** -/
inductive Envelope.Refusal where
  /-- The text spells no JSON value. -/
  | undecodable (fault : Fault)
  /-- A member is missing or of the wrong kind. -/
  | missing (field : String)
  /-- The type is none that the server uses. -/
  | unknownType (name : String)
deriving DecidableEq, Repr

/-- The wording of a refusal. -/
def Envelope.Refusal.message : Envelope.Refusal → String
  | .undecodable fault => fault.message
  | .missing field => "Protocol error: missing field '" ++ field ++ "'"
  | .unknownType name => "Protocol error: unknown frame type '" ++ name ++ "'"

namespace Envelope

/-- The value of a floating-point number; null for one that is not finite. -/
def realValue (x : Binary64) : Value :=
  match Number.ofBinary64? x with
  | some n => .number n
  | none => .null

/-- The object that an envelope is written as. -/
def toValue : Envelope → Value
  | .welcome message path timestamp =>
    .object [("type", .string "welcome"), ("message", .string message), ("path", .string path),
      ("timestamp", realValue timestamp)]
  | .echo frame processedAt server =>
    .object [("type", .string "echo"), ("original", frame.toValue),
      ("processed_at", realValue processedAt), ("server", .string server)]

/-- **The text of an envelope.** -/
def toText (e : Envelope) : String := e.toValue.toText

/-- A member that must be a string. -/
def stringField (v : Value) (field : String) : Except Refusal String :=
  match (v.get? field).bind Value.asString? with
  | some s => .ok s
  | none => .error (.missing field)

/-- A member that must be a number with a finite value. -/
def realField (v : Value) (field : String) : Except Refusal Binary64 :=
  match ((v.get? field).bind Value.asNumber?).bind Number.toFinite? with
  | some x => .ok x
  | none => .error (.missing field)

/-- A member that must be there, whatever it is. -/
def anyField (v : Value) (field : String) : Except Refusal Value :=
  match v.get? field with
  | some w => .ok w
  | none => .error (.missing field)

/-- **The envelope that a value stands for.** -/
def ofValue (v : Value) : Except Refusal Envelope := do
  let name ← stringField v "type"
  if name = "welcome" then
    let message ← stringField v "message"
    let path ← stringField v "path"
    let timestamp ← realField v "timestamp"
    return .welcome message path timestamp
  else if name = "echo" then
    let frame ← anyField v "original"
    let processedAt ← realField v "processed_at"
    let server ← stringField v "server"
    return .echo (Frame.ofValue frame) processedAt server
  else throw (.unknownType name)

/-- **The envelope that a text spells.** -/
def parse (text : String) : Except Refusal Envelope :=
  match Value.parse text with
  | .ok v => ofValue v
  | .error fault => .error (.undecodable fault)

/-- Whether the envelope is a welcome. -/
def isWelcome : Envelope → Bool
  | .welcome .. => true
  | .echo .. => false

end Envelope

end EchoProbe
