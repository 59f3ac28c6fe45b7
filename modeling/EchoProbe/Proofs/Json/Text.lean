import EchoProbe.Json.Parser
import EchoProbe.Json.Printer

/-!
# A written string is read back

In a string each character is written either as it is or as an escape. The
reader takes one written character off at a time, so the whole statement
(`readString_quoteChars`) is an induction whose step is about one character
(`readString_escapeChar`). Only there does it matter how that character is
written.
-/

namespace EchoProbe.Json

open EchoProbe.Text

/-! ## One step of the reader -/

theorem readString_quote (cs : List Char) : readString ('"' :: cs) = .ok ([], cs) := by
  rw [readString]
  simp only [if_true]

theorem readString_escape {cs left : List Char} {c : Char}
    (h : readEscape cs = .ok (c, left)) :
    readString ('\\' :: cs) = (readString left).map fun p => (c :: p.1, p.2) := by
  rw [readString]
  simp only [Char.reduceEq, if_false, if_true]
  split
  · next herr => rw [h] at herr; exact absurd herr (by simp)
  · next d rest hok =>
    rw [h] at hok
    obtain ⟨rfl, rfl⟩ : c = d ∧ left = rest := by simpa using hok
    cases readString left <;> rfl

theorem readString_plain {c : Char} (cs : List Char) (hquote : c ≠ '"') (hslash : c ≠ '\\')
    (hcontrol : ¬ c.toNat < 0x20) :
    readString (c :: cs) = (readString cs).map fun p => (c :: p.1, p.2) := by
  rw [readString]
  simp only [if_neg hquote, if_neg hslash, if_neg hcontrol]
  cases readString cs <;> rfl

/-! ## One written character -/

theorem hexValue?_hexDigit : ∀ n < 16, hexValue? (hexDigit n) = some n := by decide

/-- An escape of one letter. -/
theorem readEscape_short {c d : Char} (cs : List Char) (hu : c ≠ 'u')
    (h : shortEscape? c = some d) : readEscape (c :: cs) = .ok (d, cs) := by
  simp only [readEscape, if_neg hu, h]

/-- The escape of a control character that has no letter. -/
theorem readEscape_control {c : Char} (cs : List Char) (h : c.toNat < 0x20) :
    readEscape ('u' :: '0' :: '0' :: hexDigit (c.toNat / 16) :: hexDigit (c.toNat % 16) :: cs)
      = .ok (c, cs) := by
  have hhigh := hexValue?_hexDigit (c.toNat / 16) (by omega)
  have hlow := hexValue?_hexDigit (c.toNat % 16) (by omega)
  have hzero : hexValue? '0' = some 0 := by decide
  have hvalue : ((0 * 16 + 0) * 16 + c.toNat / 16) * 16 + c.toNat % 16 = c.toNat := by omega
  have hhex : readHex ('0' :: '0' :: hexDigit (c.toNat / 16) :: hexDigit (c.toNat % 16) :: cs)
      = .ok (c.toNat, cs) := by
    simp only [readHex, hzero, hhigh, hlow, hvalue]
  -- a control character is far below the surrogates
  have hnothigh : isHighSurrogate c.toNat = false := by
    simp only [isHighSurrogate, Bool.and_eq_false_iff, decide_eq_false_iff_not]
    omega
  have hnotlow : isLowSurrogate c.toNat = false := by
    simp only [isLowSurrogate, Bool.and_eq_false_iff, decide_eq_false_iff_not]
    omega
  simp only [readEscape, if_true, readUnicode, hhex, hnothigh, hnotlow, Bool.false_eq_true,
    if_false, Char.ofNat_toNat]

/-- **A written character is read back**, however it is written. -/
theorem readString_escapeChar (c : Char) (cs : List Char) :
    readString (escapeChar c ++ cs) = (readString cs).map fun p => (c :: p.1, p.2) := by
  unfold escapeChar
  split
  · exact readString_escape (readEscape_short cs (by decide) rfl)
  · exact readString_escape (readEscape_short cs (by decide) rfl)
  · exact readString_escape (readEscape_short cs (by decide) rfl)
  · exact readString_escape (readEscape_short cs (by decide) rfl)
  · exact readString_escape (readEscape_short cs (by decide) rfl)
  · exact readString_escape (readEscape_short cs (by decide) rfl)
  · exact readString_escape (readEscape_short cs (by decide) rfl)
  · next hquote hslash _ _ _ _ _ =>
    by_cases h : c.toNat < 0x20
    · rw [if_pos h]
      exact readString_escape (readEscape_control cs h)
    · rw [if_neg h]
      exact readString_plain cs hquote hslash h

/-! ## Whole strings -/

theorem readString_flatMap (s rest : List Char) :
    readString (s.flatMap escapeChar ++ '"' :: rest) = .ok (s, rest) := by
  induction s with
  | nil => exact readString_quote rest
  | cons c s ih =>
    rw [List.flatMap_cons, List.append_assoc, readString_escapeChar, ih]
    rfl

/-- **A written string is read back**, up to its closing quote. -/
theorem readString_quoteChars (s rest : List Char) :
    ∃ cs, quoteChars s ++ rest = '"' :: cs ∧ readString cs = .ok (s, rest) := by
  refine ⟨s.flatMap escapeChar ++ '"' :: rest, ?_, readString_flatMap s rest⟩
  simp only [quoteChars, List.cons_append, List.append_assoc, List.nil_append]

end EchoProbe.Json
