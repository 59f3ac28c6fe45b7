import EchoProbe.SystemError
import EchoProbe.Text.Utf8

/-!
# Messages

What travels on a WebSocket connection is messages. *Data* messages, text
and binary, carry payloads; the others are control messages. A connection
ends with a close message, with the end of the stream, or with an error of
the transport.
-/

namespace EchoProbe

/-- The body of a close message. -/
structure CloseFrame where
  /-- Why the connection is closed, as a number. -/
  code : UInt16
  /-- Why the connection is closed, in words. -/
  reason : String
deriving DecidableEq, Repr

/-- **One message of a WebSocket connection.** -/
inductive Message where
  /-- A payload of text. -/
  | text (content : String)
  /-- A payload of bytes. -/
  | binary (content : List UInt8)
  /-- A question whether the other end is there. -/
  | ping (data : List UInt8)
  /-- The answer to a ping. -/
  | pong (data : List UInt8)
  /-- The end of the connection. -/
  | close (frame : Option CloseFrame)
deriving DecidableEq, Repr

namespace Message

/-- The payload of a data message as text; what is not UTF-8 in a payload of
bytes is replaced. -/
def payload? : Message → Option String
  | .text content => some content
  | .binary content => some (Text.Utf8.decodeLossy content)
  | _ => none

/-- Whether the message keeps the connection alive and means nothing else. -/
def isHeartbeat : Message → Bool
  | .ping _ => true
  | .pong _ => true
  | _ => false

/-- The message with a payload of bytes read as text. -/
def asText : Message → Message
  | .binary content => .text (Text.Utf8.decodeLossy content)
  | m => m

end Message

/-- The reason that a close message gives. -/
def closeReason : Option CloseFrame → String
  | some frame => Text.decimal frame.code.toNat ++ " " ++ frame.reason
  | none => "no close frame"

/-- **An error of the transport.** -/
inductive TransportError where
  /-- The connection has been closed already. -/
  | closed
  /-- The other end has gone away without saying so. -/
  | resetWithoutClosing
  /-- The operating system. -/
  | io (error : SystemError)
  /-- The other end breaks the rules of the protocol, or refuses to speak
  it. -/
  | violation (message : String)
deriving DecidableEq, Repr

namespace TransportError

/-- The wording of an error. -/
def message : TransportError → String
  | .closed => "Connection closed normally"
  | .resetWithoutClosing =>
    "WebSocket protocol error: Connection reset without closing handshake"
  | .io error => "IO error: " ++ error.message
  | .violation message => message

/-- **The errors that mean a close.** An end of the transport, however
abrupt, counts as a close by the peer, with this reason; a violation of the
protocol does not. -/
def closing? : TransportError → Option String
  | .closed => some "connection closed"
  | .resetWithoutClosing => some "reset without closing handshake"
  | .io error => some ("io: " ++ error.message)
  | .violation _ => none

end TransportError

/-- **What a connection brings.** -/
inductive Arrival where
  /-- A message. -/
  | message (content : Message)
  /-- The end of the stream. -/
  | ended
  /-- An error of the transport. -/
  | failed (error : TransportError)
deriving DecidableEq, Repr

end EchoProbe
