import EchoProbe.Message

/-!
# Plain messages

What arrives is *plain* if it has neither heartbeats nor payloads of bytes. To make it
plain is to leave out the heartbeats, and to read the payloads of bytes as text
(`Arrival.plain?`).
-/

namespace EchoProbe

namespace Arrival

/-- Whether it is a message that means nothing. -/
def isHeartbeat : Arrival → Bool
  | .message m => m.isHeartbeat
  | _ => false

/-- What arrives, with a payload of bytes read as text. -/
def asText : Arrival → Arrival
  | .message m => .message m.asText
  | a => a

/-- **What arrives, made plain**: nothing at all, if it is a heartbeat. -/
def plain? (a : Arrival) : Option Arrival := if a.isHeartbeat then none else some a.asText

theorem plain?_of_isHeartbeat {a : Arrival} (h : a.isHeartbeat = true) : a.plain? = none :=
  if_pos h

theorem plain?_of_not_isHeartbeat {a : Arrival} (h : a.isHeartbeat = false) :
    a.plain? = some a.asText :=
  if_neg (Bool.eq_false_iff.mp h)

end Arrival

end EchoProbe
