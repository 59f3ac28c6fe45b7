import EchoProbe.Probe.Verification
import EchoProbe.Proofs.Envelope

/-!
# What a verified echo says

Three codecs meet in an echo: the server classifies the payload it gets,
writes the frame into an envelope, and the probe reads the envelope and
compares its frame with the classified form of what it sent. Here `sent` is
what the probe sent, and `delivered` what reached the server; they differ if
something between the two has altered the payload.

`verifyEcho_verified_iff` takes the three codecs together: the echo verifies
exactly if the envelope can carry the frame and the values are the same. The
two main results are its two readings. An unaltered payload verifies exactly
if it is `Frame.Carriable`, and not every decoded payload is. And what
verifies is what was sent, up to the one thing that values do not tell apart:
a text and the JSON string with this text.
-/

namespace EchoProbe.Probe

open Json

/-- A welcome verifies, whatever it says. -/
theorem verifyWelcome_welcome (message path : String) {timestamp : Binary64}
    (h : timestamp.isFinite = true) :
    verifyWelcome (Envelope.welcome message path timestamp).toText = .verified := by
  rw [verifyWelcome, (Envelope.parse_welcome message path timestamp).eq_ok h]

/-- Nothing but a welcome does. -/
theorem isVerified_verifyWelcome_iff (received : String) :
    (verifyWelcome received).isVerified = true ↔
      ∃ message path timestamp,
        Envelope.parse received = .ok (.welcome message path timestamp) := by
  rw [verifyWelcome]
  cases Envelope.parse received with
  | ok e =>
    cases e with
    | welcome message path timestamp => exact iff_of_true rfl ⟨message, path, timestamp, rfl⟩
    | echo frame processedAt server => exact iff_of_false nofun nofun
  | error refusal => exact iff_of_false nofun nofun

/-- What is taken as an answer is an echo of the right value, or a mismatch. -/
theorem verifyEcho_eq_verified_iff (sent received : String) :
    verifyEcho sent received = .verified ↔
      ∃ frame processedAt server, Envelope.parse received = .ok (.echo frame processedAt server) ∧
        frame.toValue = (Frame.decode sent).toValue := by
  rw [verifyEcho]
  cases Envelope.parse received with
  | error refusal => exact iff_of_false nofun nofun
  | ok e =>
    cases e with
    | welcome message path timestamp => exact iff_of_false nofun nofun
    | echo frame processedAt server =>
      by_cases hvalue : frame.toValue = (Frame.decode sent).toValue
      · simp only [if_pos hvalue]
        exact iff_of_true trivial ⟨frame, processedAt, server, rfl, hvalue⟩
      · simp only [if_neg hvalue]
        refine iff_of_false nofun ?_
        rintro ⟨_, _, _, ⟨⟩, h⟩
        exact hvalue h

/-- An answer leaves nothing open. -/
theorem isUnverified_verifyEcho (sent received : String) :
    (verifyEcho sent received).isUnverified = false := by
  rw [verifyEcho]
  split
  · split <;> rfl
  · rfl

/-- **When an echo verifies.** -/
theorem verifyEcho_verified_iff (sent delivered server : String) (processedAt : Binary64) :
    verifyEcho sent (Envelope.echo (Frame.decode delivered) processedAt server).toText = .verified
      ↔ (Frame.decode delivered).Carriable ∧ processedAt.isFinite = true ∧
        (Frame.decode delivered).toValue = (Frame.decode sent).toValue := by
  have hread := Envelope.parse_echo (Frame.denoted_decode delivered) processedAt server
  rw [verifyEcho, ← and_assoc]
  by_cases hcarried : (Frame.decode delivered).Carriable ∧ processedAt.isFinite = true
  · rw [hread.eq_ok hcarried, and_iff_right hcarried]
    simp only [Frame.toValue_ofValue]
    by_cases hvalue : (Frame.decode delivered).toValue = (Frame.decode sent).toValue
    · rw [if_pos hvalue]
      exact iff_of_true rfl hvalue
    · rw [if_neg hvalue]
      exact iff_of_false nofun hvalue
  · -- what cannot be read is a mismatch as a whole
    obtain ⟨refusal, hrefused⟩ := hread.exists_eq_error hcarried
    rw [hrefused]
    exact iff_of_false nofun fun h => hcarried h.1

/-! ## Unaltered payloads -/

/-- **The echo of an unaltered payload** can be read exactly if the time is
finite and the envelope can carry the frame, and then it verifies. -/
theorem unaltered_echo_verified_iff (sent server : String) (processedAt : Binary64) :
    ((∃ e, Envelope.parse (Envelope.echo (Frame.decode sent) processedAt server).toText = .ok e)
        ↔ processedAt.isFinite = true ∧ (Frame.decode sent).Carriable) ∧
      (verifyEcho sent (Envelope.echo (Frame.decode sent) processedAt server).toText = .verified
        ↔ processedAt.isFinite = true ∧ (Frame.decode sent).Carriable) := by
  constructor
  · rw [(Envelope.parse_echo (Frame.denoted_decode sent) processedAt server).exists_ok_iff]
    exact and_comm
  · rw [verifyEcho_verified_iff]
    constructor
    · rintro ⟨hcarriable, hfinite, -⟩
      exact ⟨hfinite, hcarriable⟩
    · rintro ⟨hfinite, hcarriable⟩
      exact ⟨hcarriable, hfinite, rfl⟩

/-- Arrays inside each other are decoded up to the last level, and come back
up to the last but one. -/
theorem verifyEcho_tower_iff {n : Nat} (h : n < maxDepth) (server : String) :
    verifyEcho (Value.tower n).toText
        (Envelope.echo (Frame.decode (Value.tower n).toText) ⟨false, 0⟩ server).toText
      = .verified ↔ n < maxDepth - 1 := by
  have hdecode : Frame.decode (Value.tower n).toText = .json (Value.tower n) :=
    Frame.decode_toText (Value.denoted_tower n) ((Value.fits_tower_iff n maxDepth).mpr h)
  rw [verifyEcho_verified_iff, hdecode, Frame.Carriable, Value.fits_tower_iff]
  exact and_iff_left ⟨by decide, rfl⟩

/-- Two payloads whose own echo does not verify: arrays to the last level
that the server reads, and an object whose least name is written last. -/
theorem unaltered_echo_refused :
    verifyEcho (Value.tower 126).toText
        (Envelope.echo (Frame.decode (Value.tower 126).toText) ⟨false, 0⟩ "server").toText
      ≠ .verified ∧
    verifyEcho "\x7b\"a\":1,\"$serde_json::private::Number\":\"1\"\x7d"
        (Envelope.echo (Frame.decode "\x7b\"a\":1,\"$serde_json::private::Number\":\"1\"\x7d")
          ⟨false, 0⟩ "server").toText
      ≠ .verified :=
  ⟨mt (verifyEcho_tower_iff (by decide) "server").mp (by decide), by decide +kernel⟩

/-! ## Altered payloads -/

/-- **What verifies is what was sent**, up to the kind of a string. -/
theorem eq_of_verifyEcho_verified {sent delivered server : String} {processedAt : Binary64}
    (h : verifyEcho sent (Envelope.echo (Frame.decode delivered) processedAt server).toText
      = .verified) :
    Frame.decode delivered = Frame.decode sent ∨
      ∃ s, Frame.decode delivered = .text s ∧ Frame.decode sent = .json (.string s) ∨
        Frame.decode delivered = .json (.string s) ∧ Frame.decode sent = .text s :=
  (Frame.toValue_eq_iff _ _).mp ((verifyEcho_verified_iff _ _ _ _).mp h).2.2

/-- An echo that verifies, and what it says of the payload. -/
theorem decode_delivered_number :
    verifyEcho "1" (Envelope.echo (Frame.decode " 1") ⟨false, 0⟩ "server").toText = .verified ∧
      (Frame.decode " 1" = Frame.decode "1" ∨
        ∃ s, Frame.decode " 1" = .text s ∧ Frame.decode "1" = .json (.string s) ∨
          Frame.decode " 1" = .json (.string s) ∧ Frame.decode "1" = .text s) :=
  have h : verifyEcho "1" (Envelope.echo (Frame.decode " 1") ⟨false, 0⟩ "server").toText
      = .verified := by decide +kernel
  ⟨h, eq_of_verifyEcho_verified h⟩

/-- The kind of a string can be altered. -/
theorem string_verified_for_text :
    verifyEcho "hi" (Envelope.echo (Frame.decode "\"hi\"") ⟨false, 0⟩ "server").toText
        = .verified ∧
      Frame.decode "\"hi\"" ≠ Frame.decode "hi" := by
  decide +kernel

end EchoProbe.Probe
