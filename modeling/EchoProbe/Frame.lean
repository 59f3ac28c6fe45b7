import EchoProbe.Json.Parser
import EchoProbe.Json.Printer
import EchoProbe.Text.Utf8

/-!
# Frames

A frame is the payload of one WebSocket message. Every payload is classified
once, when it is received: `Frame.decode` keeps what spells a JSON value as
that value and everything else as text, and never fails. The classification
travels with the frame afterwards.

A frame has a *wire form*, the text that is sent for it, and a *value*, what
stands for it inside an envelope. The value of a text is a string, so a text
and a JSON string have the same value.
-/

namespace EchoProbe

open Json

/-- **The payload of one message.** -/
inductive Frame where
  /-- A payload that is no JSON. -/
  | text (content : String)
  /-- A payload that spells a JSON value. -/
  | json (value : Value)
deriving DecidableEq, Repr

namespace Frame

/-- **Classify a payload.** -/
def decode (payload : String) : Frame :=
  match Value.parse payload with
  | .ok value => .json value
  | .error _ => .text payload

/-- Classify a payload of bytes; what is not UTF-8 in it is replaced. -/
def decodeBytes (payload : List UInt8) : Frame := decode (Text.Utf8.decodeLossy payload)

/-- The text that is sent for a frame. -/
def wire : Frame → String
  | .text content => content
  | .json value => value.toText

/-- What stands for a frame inside an envelope. -/
def toValue : Frame → Value
  | .text content => .string content
  | .json value => value

/-- The frame that a value inside an envelope stands for: a string is text. -/
def ofValue : Value → Frame
  | .string content => .text content
  | value => .json value

/-- Whether the frame is a JSON value. -/
def isJson : Frame → Bool
  | .text _ => false
  | .json _ => true

/-- The word for the kind of a frame. -/
def kind : Frame → String
  | .text _ => "text"
  | .json _ => "json"

/-- A frame read from a JSON document. -/
def parse (text : String) : Except Fault Frame := (Value.parse text).map ofValue

end Frame

end EchoProbe
