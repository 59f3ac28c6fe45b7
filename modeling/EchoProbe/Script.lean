import EchoProbe.Frame
import EchoProbe.Envelope
import EchoProbe.Settings

/-!
# Scripts

A script is what the probe sends: frames in order, with a pause between one
answer and the next frame. Two scripts come with the program.
-/

namespace EchoProbe

open Json

/-- **The frames that the probe sends.** -/
structure Script where
  /-- The frames, in order. -/
  frames : List Frame
  /-- The pause between them. -/
  pause : Duration
deriving DecidableEq, Repr

namespace Script

/-- Frames without a pause between them. -/
def ofFrames (frames : List Frame) : Script := ⟨frames, .zero⟩

/-- One JSON and one text frame, one right after the other. -/
def minimal : Script :=
  ofFrames
    [.json (.object [("message", .string "Hello from BWS WebSocket Proxy!"),
        ("timestamp", .string "2025-08-24"), ("type", .string "test")]),
      .text "PING from BWS proxy test"]

/-- Text, JSON and a ping that tells the time, with a pause between them. -/
def full (pause : Duration) (now : Binary64) : Script where
  frames :=
    [.text "Hello BWS WebSocket Proxy!",
      .json (.object [("data", .string "JSON message test"), ("type", .string "test")]),
      .json (.object [("timestamp", Envelope.realValue now), ("type", .string "ping")])]
  pause

/-- The script that the settings choose. -/
def ofSettings (s : Settings.Probe) (now : Binary64) : Script :=
  match s.scenario with
  | .minimal => minimal
  | .full => full s.messagePause now

end Script

end EchoProbe
