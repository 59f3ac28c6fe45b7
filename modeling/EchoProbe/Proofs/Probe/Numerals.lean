import EchoProbe.Proofs.Frame.Classification
import EchoProbe.Proofs.Json.Numeral
import EchoProbe.Proofs.Json.Unambiguous
import EchoProbe.Proofs.Probe.Verification

/-!
# Numbers are compared by their text

A number in a payload goes through four codecs: it is classified, written into
an envelope, read back from there, and compared. None of them goes through a
machine number, so that of its text nothing is lost but the spelling of the
exponent, whatever its length and size (`numerals_compared_by_text`). The same
holds of number literals in arrays, up to the blanks between them.
-/

namespace EchoProbe

open Json

/-- A text that is a number literal and nothing else. -/
def IsNumeral (text : String) : Prop := ∃ n, SpellsNumber text.toList n

/-- A text of number literals in arrays, with blanks where JSON allows them.
An echo has one level of its own, so the arrays have the others. -/
def IsNumeralArray (text : String) : Prop :=
  ∃ v, Padded (SpellsNumerals (maxDepth - 1)) text.toList v

/-- **The one spelling of a literal**: only the marker of the exponent is
changed, to a lower-case one with a sign. -/
def canon (literal : String) : String := String.ofList (respell literal.toList)

/-- The one spelling of literals in arrays, which has no blanks. -/
def canonArray (text : String) : String := canon (String.ofList (dropAllBlanks text.toList))

namespace Probe

/-- **A payload is compared by a text that is kept of it**: this text is its
wire form, the wire form of what its echo is read back as, and what decides
whether the echo of another payload verifies. -/
structure ComparedBy (kept : String → String) (server : String) (time : Binary64)
    (sent delivered : String) : Prop where
  /-- The payload is classified as what is written as this text. -/
  wire : (Frame.decode sent).wire = kept sent
  /-- Its echo is read back as what is written as this text. -/
  echoed : ∃ frame, Envelope.parse (Envelope.echo (Frame.decode sent) time server).toText
    = .ok (.echo frame time server) ∧ frame.wire = kept sent
  /-- The echo of another payload verifies exactly if the texts are the same. -/
  verified_iff : verifyEcho sent (Envelope.echo (Frame.decode delivered) time server).toText
    = .verified ↔ kept sent = kept delivered

/-- A payload that denotes a value which is written as this text. -/
def WrittenAs (payload text : String) : Prop :=
  ∃ v, Denotes payload v ∧ v.Fits (maxDepth - 1) ∧ v.asString? = none ∧ v.toText = text

theorem comparedBy_of_writtenAs {kept : String → String} {sent delivered : String}
    (hsent : WrittenAs sent (kept sent)) (hdelivered : WrittenAs delivered (kept delivered))
    (server : String) {time : Binary64} (htime : time.isFinite = true) :
    ComparedBy kept server time sent delivered := by
  obtain ⟨v, hv, hfits, hstring, hwritten⟩ := hsent
  obtain ⟨w, hw, hfits', -, hwritten'⟩ := hdelivered
  have hdecode := (Frame.decode_eq_json_iff sent v).mpr hv
  have hdecode' := (Frame.decode_eq_json_iff delivered w).mpr hw
  have hframe : Frame.ofValue v = .json v := by
    cases v with
    | string s => exact absurd hstring nofun
    | _ => rfl
  refine ⟨by rw [hdecode]; exact hwritten, ⟨.json v, ?_, hwritten⟩, ?_⟩
  · rw [(Envelope.parse_echo (Frame.denoted_decode sent) time server).eq_ok, hdecode]
    · exact congrArg (fun frame => Except.ok (Envelope.echo frame time server)) hframe
    · rw [hdecode]
      exact ⟨hfits, htime⟩
  · rw [verifyEcho_verified_iff, hdecode, hdecode', ← hwritten, ← hwritten',
      Value.toText_injective.eq_iff]
    constructor
    · rintro ⟨-, -, h⟩
      exact h.symm
    · intro h
      exact ⟨hfits', htime, h.symm⟩

theorem writtenAs_canon {literal : String} (h : IsNumeral literal) :
    WrittenAs literal (canon literal) := by
  obtain ⟨n, hn⟩ := h
  refine ⟨.number n, ?_, Value.fits_scalar (by simp) (by simp) _, rfl, ?_⟩
  · have hpadded : Padded (Spells maxDepth) ([] ++ (literal.toList ++ [])) (.number n) :=
      .intro .nil (Or.inl (.number hn)) .nil
    rwa [List.nil_append, List.append_nil] at hpadded
  · have hrespell := hn.respell_append []
    rw [List.append_nil, respell, List.append_nil] at hrespell
    rw [canon, hrespell, Value.toText, Value.toChars]

theorem writtenAs_canonArray {text : String} (h : IsNumeralArray text) :
    WrittenAs text (canonArray text) := by
  obtain ⟨v, hv⟩ := h
  unfold WrittenAs Denotes canonArray
  generalize text.toList = cs at hv
  obtain ⟨hfront, hcs, hback⟩ := hv
  refine ⟨v, .intro hfront (hcs.spells (by decide)) hback, hcs.fits, hcs.asString?_eq_none, ?_⟩
  have hrespell := hcs.respell_append []
  rw [List.append_nil, respell, List.append_nil] at hrespell
  rw [canon, String.toList_ofList, dropAllBlanks_append, dropAllBlanks_append,
    hfront.dropAllBlanks_eq, hback.dropAllBlanks_eq, List.nil_append, List.append_nil, hrespell,
    Value.toText]

/-- **Numbers are compared and echoed by their exact text.** The digits of a
number literal, alone or in arrays, come through as they are. -/
theorem numerals_compared_by_text (server : String) {time : Binary64}
    (htime : time.isFinite = true) :
    (∀ n m, IsNumeral n → IsNumeral m → ComparedBy canon server time n m) ∧
      ∀ n m, IsNumeralArray n → IsNumeralArray m → ComparedBy canonArray server time n m :=
  ⟨fun _ _ hn hm => comparedBy_of_writtenAs (writtenAs_canon hn) (writtenAs_canon hm) server htime,
    fun _ _ hn hm =>
      comparedBy_of_writtenAs (writtenAs_canonArray hn) (writtenAs_canonArray hm) server htime⟩

/-- Two spellings of a negative number with a fraction and an exponent, and
nested arrays with a blank: all of them keep their digits. -/
theorem numerals_compared_by_text_exact :
    (⟨false, 0⟩ : Binary64).isFinite = true ∧ IsNumeral "-0.10E5" ∧ IsNumeral "-0.10e+5" ∧
      ComparedBy canon "server" ⟨false, 0⟩ "-0.10E5" "-0.10e+5" ∧
      canon "-0.10E5" = canon "-0.10e+5" ∧
      IsNumeralArray "[ 1,[2E0]]" ∧ IsNumeralArray "2E0" ∧
      ComparedBy canonArray "server" ⟨false, 0⟩ "[ 1,[2E0]]" "2E0" ∧
      canonArray "[ 1,[2E0]]" = "[1,[2e+0]]" := by
  have hfinite : (⟨false, 0⟩ : Binary64).isFinite = true := by decide
  have hliteral : ∀ (cs : List Char) (n : Number), Number.parse (String.ofList cs) = .ok n →
      SpellsNumber cs n := by
    intro cs n h
    rw [Number.parse_eq_ok_iff, String.toList_ofList] at h
    exact h
  have hone := hliteral ['1'] ⟨false, .positive 0 [], none, none⟩ (by decide +kernel)
  have htwo := hliteral ['2', 'E', '0'] ⟨false, .positive 1 [], none, some ⟨false, 0, []⟩⟩
    (by decide +kernel)
  have hpadded : ∀ {levels : Nat} {cs : List Char} (front : List Char) {v : Value},
      Blanks front → SpellsNumerals levels cs v →
        Padded (SpellsNumerals levels) (front ++ (cs ++ [])) v :=
    fun _ _ hfront hcs => .intro hfront hcs .nil
  have hinner : SpellsNumerals 125 ['[', '2', 'E', '0', ']'] _ :=
    .array (@SpellsArray.items _ ['2', 'E', '0'] _
      (.last (hpadded [] .nil (.literal 124 htwo))))
  have hitems : SpellsItems (SpellsNumerals 125) [' ', '1', ',', '[', '2', 'E', '0', ']'] _ :=
    @SpellsItems.more _ [' ', '1'] _ _ _ (hpadded [' '] (by decide) (.literal 125 hone))
      (.last (hpadded [] .nil hinner))
  have hnested : IsNumeralArray "[ 1,[2E0]]" :=
    ⟨_, hpadded [] .nil (.array (.items hitems))⟩
  have halone : IsNumeralArray "2E0" := ⟨_, hpadded [] .nil (.literal 126 htwo)⟩
  have hupper : IsNumeral "-0.10E5" :=
    ⟨⟨true, .zero, some ⟨1, [0]⟩, some ⟨false, 5, []⟩⟩, hliteral _ _ (by decide +kernel)⟩
  have hlower : IsNumeral "-0.10e+5" :=
    ⟨⟨true, .zero, some ⟨1, [0]⟩, some ⟨false, 5, []⟩⟩, hliteral _ _ (by decide +kernel)⟩
  obtain ⟨hnumeral, harray⟩ := numerals_compared_by_text "server" hfinite
  exact ⟨hfinite, hupper, hlower, hnumeral _ _ hupper hlower, by decide +kernel, hnested, halone,
    harray _ _ hnested halone, by decide +kernel⟩

end Probe

end EchoProbe
