import EchoProbe.Envelope
import EchoProbe.Report

/-!
# Verification

What the probe receives is compared with what is due. The first message
must be a welcome. Each later one must be an echo of the frame that was sent
last; as the server classifies what it receives, the echo is compared with
the classified form of the wire text, by value.
-/

namespace EchoProbe.Probe

/-- **Check the welcome**: any welcome will do. -/
def verifyWelcome (received : String) : Check :=
  match Envelope.parse received with
  | .ok (.welcome ..) => .verified
  | _ => .mismatch (Frame.decode received).toValue

/-- **Check an echo** against the wire text it answers. What is no echo at
all is a mismatch of the payload as a whole. -/
def verifyEcho (sent received : String) : Check :=
  match Envelope.parse received with
  | .ok (.echo frame _ _) =>
    if frame.toValue = (Frame.decode sent).toValue then .verified
    else .mismatch frame.toValue
  | _ => .mismatch (Frame.decode received).toValue

end EchoProbe.Probe
