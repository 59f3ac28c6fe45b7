import EchoProbe.Command.Run
import EchoProbe.Proofs.Frame
import EchoProbe.Proofs.Json.Layout
import EchoProbe.Proofs.Json.Real
import EchoProbe.Proofs.Json.Unambiguous

/-!
# What a report says as JSON

The JSON of a report tells all of it. A value is known from its text, and each
part of a report from its value: an outcome and a check from the case that
they name, a duration from its two numbers. Only of a frame that was sent is
the kind not told where it is a text or the JSON string with this text, which
have the same value; `Frame.settled` makes them one. Two reports have the same
JSON exactly if they are the same up to that.

The indented form, which is what is printed, differs from the other in its
blanks only.
-/

namespace EchoProbe

open Json

namespace Json

/-- The digits of a whole number are those of the number. -/
theorem Number.digitsValue_ofNat (n : Nat) :
    Text.digitsValue (Number.ofNat n).whole.toList = n := by
  by_cases hn : n = 0
  · rw [hn, Number.ofNat, show Text.digitsOf 0 = [0] by rw [Text.digitsOf]; rfl]
    rfl
  · obtain ⟨d, ds, hds, hd⟩ := Text.exists_digitsOf hn
    have hwhole : (Number.ofNat n).whole.toList = d :: ds := by
      simp only [Number.ofNat, hds, dif_neg hd, Whole.toList, Fin.succ_pred]
    rw [hwhole, ← hds, Text.digitsValue_digitsOf]

theorem Number.ofNat_injective : Function.Injective Number.ofNat := by
  intro m n h
  rw [← digitsValue_ofNat m, h, digitsValue_ofNat]

end Json

namespace Frame

/-- **The frame that its value stands for**: a JSON string is read as text. -/
def settled : Frame → Frame
  | .json (.string content) => .text content
  | frame => frame

theorem toValue_eq_iff_settled (f g : Frame) : f.toValue = g.toValue ↔ f.settled = g.settled := by
  have hsettled : ∀ f : Frame, f.settled = ofValue f.toValue := by
    intro f
    cases f with
    | text content => rfl
    | json v => cases v <;> rfl
  rw [hsettled, hsettled]
  refine ⟨congrArg ofValue, fun h => ?_⟩
  rw [← toValue_ofValue f.toValue, h, toValue_ofValue]

end Frame

/-! ## Parts of a report -/

theorem Outcome.toValue_injective : Function.Injective Outcome.toValue := by
  intro o o' h
  cases o <;> cases o' <;> simp_all [Outcome.toValue]

theorem Check.toValue_injective : Function.Injective Check.toValue := by
  intro c c' h
  cases c <;> cases c' <;> simp_all [Check.toValue]

theorem Duration.toValue_injective : Function.Injective Duration.toValue := by
  intro d d' h
  simp only [Duration.toValue, Value.object.injEq, List.cons.injEq, Prod.mk.injEq,
    Value.number.injEq, true_and, and_true] at h
  have hseconds : d.seconds = d'.seconds := Number.ofNat_injective h.1
  have hsubsecond : d.subsecond = d'.subsecond := Number.ofNat_injective h.2
  have hnanoseconds : d.nanoseconds = d'.nanoseconds := by
    unfold Duration.seconds at hseconds
    unfold Duration.subsecond at hsubsecond
    omega
  cases d
  exact congrArg Duration.mk hnanoseconds

theorem Exchange.toValue_eq_iff (e e' : Exchange) :
    e.toValue = e'.toValue ↔ e.sent.settled = e'.sent.settled ∧ e.check = e'.check := by
  simp only [Exchange.toValue, Value.object.injEq, List.cons.injEq, Prod.mk.injEq, true_and,
    and_true, Check.toValue_injective.eq_iff, Frame.toValue_eq_iff_settled]

/-- Exchanges are told item by item. -/
theorem map_toValue_eq_iff (es es' : List Exchange) :
    es.map Exchange.toValue = es'.map Exchange.toValue ↔
      es.map (·.check) = es'.map (·.check) ∧
        es.map (·.sent.settled) = es'.map (·.sent.settled) := by
  induction es generalizing es' with
  | nil => cases es' <;> simp
  | cons e es ih =>
    cases es' with
    | nil => simp
    | cons e' es' =>
      simp only [List.map_cons, List.cons.injEq, Exchange.toValue_eq_iff, ih es']
      tauto

namespace Report

/-- **Reports with the same value** are the same up to the kinds of the strings
that were sent. -/
theorem toValue_eq_iff (r r' : Report) :
    r.toValue = r'.toValue ↔
      r.target = r'.target ∧ r.outcome = r'.outcome ∧ r.upgrade = r'.upgrade ∧
        r.welcome = r'.welcome ∧ r.exchanges.map (·.check) = r'.exchanges.map (·.check) ∧
        r.exchanges.map (·.sent.settled) = r'.exchanges.map (·.sent.settled) ∧
        r.elapsed = r'.elapsed := by
  simp only [toValue, Value.object.injEq, List.cons.injEq, Prod.mk.injEq, true_and, and_true,
    Value.string.injEq, Value.bool.injEq, Value.array.injEq, Outcome.toValue_injective.eq_iff,
    Check.toValue_injective.eq_iff, Duration.toValue_injective.eq_iff, map_toValue_eq_iff,
    and_assoc]

/-- A line break behind the indented form is dropped as well. -/
theorem compact_reportText (coloured : Bool) (r : Report) :
    compact (Command.reportText true coloured r) = r.toJson := by
  have h := Value.dropBlanks_prettyChars 0 r.toValue ['\n']
  have hbreak : dropBlanks false ['\n'] = [] := rfl
  rw [hbreak, List.append_nil] at h
  have htext : (Command.reportText true coloured r).toList = r.toValue.prettyChars 0 ++ ['\n'] := by
    show (r.toPrettyJson ++ "\n").toList = _
    rw [String.toList_append, toPrettyJson, Value.toPrettyText, String.toList_ofList]
    rfl
  rw [compact, htext, h, toJson, Value.toText]

/-- **The JSON of a report is unambiguous.** Two reports have the same one
exactly if they are the same but for the kinds of the strings that were sent;
and without the blanks outside its strings the indented form, as it is printed
or not, is the form on one line. -/
theorem toJson_unambiguous (r r' : Report) (coloured : Bool) :
    (r.toJson = r'.toJson ↔
      r.target = r'.target ∧ r.outcome = r'.outcome ∧ r.upgrade = r'.upgrade ∧
        r.welcome = r'.welcome ∧ r.exchanges.map (·.check) = r'.exchanges.map (·.check) ∧
        r.exchanges.map (·.sent.settled) = r'.exchanges.map (·.sent.settled) ∧
        r.elapsed = r'.elapsed) ∧
      compact r.toPrettyJson = r.toJson ∧
      compact (Command.reportText true coloured r) = r.toJson := by
  refine ⟨?_, Value.compact_toPrettyText r.toValue, compact_reportText coloured r⟩
  rw [← toValue_eq_iff]
  exact Value.toText_injective.eq_iff

end Report

end EchoProbe
