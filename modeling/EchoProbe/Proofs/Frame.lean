import EchoProbe.Frame
import EchoProbe.Proofs.Json.Denotation
import EchoProbe.Proofs.Json.Reading

/-!
# Frames written and read again

A payload is classified by a decoder that lets `maxDepth` arrays and objects
stand inside each other. Inside an envelope, which is an object itself, one
level less is left. And the names of an object come out of the decoder in
their order, so that an object in which `numberMarker` was written later may
now be led by it. So not every frame that was decoded can be read again
where an envelope carries it: `Frame.Carriable` are those that can.

Two frames have the same value only if they are the same, or if one is a text
and the other the JSON string with this text (`Frame.toValue_eq_iff`).

On the wire no level is lost, so only the marker matters: a decoded frame is
classified again as what it was exactly if it is `Frame.Unmarked`
(`Frame.decode_wire_eq_iff`). On those the wire form is canonical. It tells
the frames apart, also a text from a JSON value, since a frame can be got back
from its wire form.
-/

namespace EchoProbe

open Json

namespace Frame

/-- **A frame that an envelope can carry**: text, or a value that leaves a
level for the envelope and in which no object is led by the marker. -/
def Carriable : Frame → Prop
  | .text _ => True
  | .json v => v.Fits (maxDepth - 1)

theorem carriable_iff (frame : Frame) :
    frame.Carriable ↔ frame.toValue.Fits (maxDepth - 1) := by
  cases frame with
  | text content =>
    exact iff_of_true trivial (Value.fits_scalar (by simp [toValue]) (by simp [toValue]) _)
  | json v => exact Iff.rfl

instance : DecidablePred Carriable := fun frame => decidable_of_iff _ (carriable_iff frame).symm

/-- The value of a decoded payload is one that a text denotes. -/
theorem denoted_decode (payload : String) : (decode payload).toValue.Denoted := by
  unfold decode
  split
  · next v hv => exact (denoted_of_parse hv).1
  · exact Value.denoted_scalar (by simp [toValue]) (by simp [toValue])

/-- **A written value that fits is classified as that value.** -/
theorem decode_toText {v : Value} (hv : v.Denoted) (hfits : v.Fits maxDepth) :
    decode v.toText = .json v := by
  rw [decode, (Value.parse_toText hv).eq_ok hfits]

/-- A text is classified as text, or as the value that it spells. -/
theorem decode_eq_or (payload : String) :
    decode payload = .text payload ∨
      ∃ v, decode payload = .json v ∧ v.Denoted ∧ v.depth ≤ maxDepth := by
  unfold decode
  split
  · next v hv => exact Or.inr ⟨v, rfl, denoted_of_parse hv⟩
  · exact Or.inl rfl

/-- Nothing is lost on the way from a value to a frame and back. -/
theorem toValue_ofValue (v : Value) : (ofValue v).toValue = v := by
  cases v <;> rfl

/-- **Frames of the same value** are the same up to the kind of a string. -/
theorem toValue_eq_iff (f g : Frame) :
    f.toValue = g.toValue ↔
      f = g ∨ ∃ s, f = .text s ∧ g = .json (.string s) ∨ f = .json (.string s) ∧ g = .text s := by
  constructor
  · intro h
    match f, g with
    | .text s, .text t => exact Or.inl (congrArg text (Value.string.inj h))
    | .text s, .json v => exact Or.inr ⟨s, Or.inl ⟨rfl, congrArg json h.symm⟩⟩
    | .json v, .text s => exact Or.inr ⟨s, Or.inr ⟨congrArg json h, rfl⟩⟩
    | .json v, .json w => exact Or.inl (congrArg json h)
  · rintro (rfl | ⟨s, ⟨rfl, rfl⟩ | ⟨rfl, rfl⟩⟩) <;> rfl

/-! ## The wire form -/

/-- **No object in the frame is led by the marker.** A decoded object is
ordered, so that the name which leads it is the least one. -/
def Unmarked (frame : Frame) : Prop := frame.toValue.unmarked = true

instance : DecidablePred Unmarked :=
  fun frame => inferInstanceAs (Decidable (frame.toValue.unmarked = true))

/-- **When the wire form of a decoded frame is decoded to the frame.** -/
theorem decode_wire_eq_iff (payload : String) :
    decode (decode payload).wire = decode payload ↔ (decode payload).Unmarked := by
  rcases decode_eq_or payload with htext | ⟨v, hjson, hdenoted, hdepth⟩
  · rw [htext]
    exact iff_of_true htext rfl
  · rw [hjson]
    have hread := Value.parse_toText hdenoted
    constructor
    · intro h
      have hvalue : decode v.toText = .json v := h
      unfold decode at hvalue
      split at hvalue
      · next w hw => exact ((hread w).mp hw).2.unmarked
      · exact absurd hvalue nofun
    · intro hunmarked
      exact decode_toText hdenoted ⟨hdepth, hunmarked⟩

/-- **The wire form is canonical.** A decoded frame without a marker is got
back from its wire form, and no other one. So two of them are the same exactly
if their wire forms are, and what has been kept as text is never written as
a JSON value is. -/
theorem wire_canonical {sent other : String} (hsent : (decode sent).Unmarked)
    (hother : (decode other).Unmarked) :
    decode (decode sent).wire = decode sent ∧
      (decode sent = decode other ↔ (decode sent).wire = (decode other).wire) ∧
      ((decode sent).isJson = false → (decode other).isJson = true →
        (decode sent).wire ≠ (decode other).wire) := by
  have hback := (decode_wire_eq_iff sent).mpr hsent
  have hwire : (decode sent).wire = (decode other).wire → decode sent = decode other := by
    intro h
    calc decode sent = decode (decode sent).wire := hback.symm
      _ = decode (decode other).wire := congrArg decode h
      _ = decode other := (decode_wire_eq_iff other).mpr hother
  refine ⟨hback, ⟨congrArg wire, hwire⟩, fun htext hjson h => ?_⟩
  rw [hwire h, hjson] at htext
  exact Bool.noConfusion htext

/-- An object with blanks, a repeated name and an escaped character, … -/
def looseObject : String := " \x7b\"b\": 1, \"a\": [\"\\ud83d\\ude00\", 1E5], \"b\": -0\x7d"

/-- … and its wire form. -/
def strictObject : String := "\x7b\"a\":[\"😀\",1e+5],\"b\":-0\x7d"

/-- The two are the same frame, and so they have the same wire form. -/
theorem wire_canonical_object :
    (decode looseObject).Unmarked ∧ (decode strictObject).Unmarked ∧
      decode looseObject = decode strictObject ∧
      decode (decode looseObject).wire = decode looseObject ∧
      (decode looseObject = decode strictObject ↔
        (decode looseObject).wire = (decode strictObject).wire) ∧
      ((decode looseObject).isJson = false → (decode strictObject).isJson = true →
        (decode looseObject).wire ≠ (decode strictObject).wire) := by
  have hloose : (decode looseObject).Unmarked := by decide +kernel
  have hstrict : (decode strictObject).Unmarked := by decide +kernel
  have hsame : decode looseObject = decode strictObject := by decide +kernel
  exact ⟨hloose, hstrict, hsame, wire_canonical hloose hstrict⟩

end Frame

end EchoProbe
