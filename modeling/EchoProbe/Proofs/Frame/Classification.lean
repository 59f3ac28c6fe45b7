import EchoProbe.Proofs.Frame
import EchoProbe.Proofs.Json.Grammar.Value
import EchoProbe.Proofs.Text.Utf8

/-!
# Payloads are classified by the grammar

A payload is kept as a JSON value exactly if it denotes one by the grammar of
`EchoProbe.Proofs.Json.Grammar`, and as the very text otherwise. A payload of
bytes is classified as the text that it encodes, so that the two kinds of
messages make no difference (`Frame.decode_follows_grammar`).
-/

namespace EchoProbe

open Json

/-- The bytes of a text have no flaw to replace. -/
theorem Text.Utf8.decodeLossy_encode (s : String) : decodeLossy (encode s) = s := by
  rw [decodeLossy, chars_encode, List.map_map]
  show String.ofList (s.toList.map id) = s
  rw [List.map_id, String.ofList_toList]

namespace Frame

theorem decode_eq_json_iff (payload : String) (v : Value) :
    decode payload = .json v ↔ Denotes payload v := by
  rw [← Value.parse_eq_ok_iff, decode]
  cases Value.parse payload with
  | ok w => rw [Frame.json.injEq, Except.ok.injEq]
  | error e => constructor <;> intro h <;> cases h

/-- **Every payload is classified by the grammar**: it is the JSON value that
it denotes, and without one it is text, unchanged. The same goes for its
bytes. -/
theorem decode_follows_grammar (payload : String) :
    (∀ v, decode payload = .json v ↔ Denotes payload v) ∧
      (decode payload = .text payload ↔ ¬ ∃ v, Denotes payload v) ∧
      decodeBytes (Text.Utf8.encode payload) = decode payload := by
  refine ⟨decode_eq_json_iff payload, ?_, ?_⟩
  · constructor
    · rintro htext ⟨v, hv⟩
      rw [(decode_eq_json_iff payload v).mpr hv] at htext
      cases htext
    · intro hnone
      rcases decode_eq_or payload with htext | ⟨v, hjson, -⟩
      · exact htext
      · exact absurd ⟨v, (decode_eq_json_iff payload v).mp hjson⟩ hnone
  · rw [decodeBytes, Text.Utf8.decodeLossy_encode]

/-- A comma behind the last item makes a text of an array. -/
example : decode "[1,]" = .text "[1,]" := by decide +kernel

/-- A number in disguise, and one that is none. -/
example : decode "\x7b\"$serde_json::private::Number\" : \"-1E5\"\x7d" = decode "-1e+5" ∧
    (decode "\x7b\"$serde_json::private::Number\" : \"-1E\"\x7d").isJson = false := by
  decide +kernel

end Frame

end EchoProbe
