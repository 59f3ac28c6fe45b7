import EchoProbe.Json.Parser

/-!
# A written number is read back

A number has one text, and reading that text gives the number again. What
follows the text must not go on with it: behind a number comes the end of
the text, a comma or a closing bracket, and never a digit, a point or an
exponent marker (`EndsNumber`).

The statements follow the grammar. Each part of a number is written in front
of an arbitrary rest and read off it again, with exactly the rest left; the
theorem on whole numbers (`readNumber_toChars`) strings the parts together.
-/

namespace EchoProbe.Text

/-- The text does not begin with a digit. -/
def EndsDigits (cs : List Char) : Prop := ∀ c ∈ cs.head?, Digit.ofChar? c = none

/-- **The longest run of digits is taken off**: all the digits that were
written, and nothing of what follows. -/
theorem splitDigits_append (ds : List Digit) {rest : List Char} (h : EndsDigits rest) :
    splitDigits (digitChars ds ++ rest) = (ds, rest) := by
  induction ds with
  | nil =>
    cases rest with
    | nil => rfl
    | cons c cs =>
      have hc : Digit.ofChar? c = none := h c rfl
      show splitDigits (c :: cs) = ([], c :: cs)
      simp only [splitDigits, hc]
  | cons d ds ih =>
    show splitDigits (d.toChar :: (digitChars ds ++ rest)) = (d :: ds, rest)
    simp only [splitDigits, Digit.ofChar?_toChar, ih]

/-- A digit is none of the other characters of a number. -/
theorem Digit.toChar_ne (d : Digit) :
    d.toChar ≠ '-' ∧ d.toChar ≠ '+' ∧ d.toChar ≠ '.' ∧ d.toChar ≠ 'e' ∧ d.toChar ≠ 'E' := by
  revert d; decide

end EchoProbe.Text

namespace EchoProbe.Json

open EchoProbe.Text

/-- **A number ends here**: what follows is neither a digit nor a point nor
the marker of an exponent. -/
def EndsNumber (cs : List Char) : Prop :=
  ∀ c ∈ cs.head?, Digit.ofChar? c = none ∧ c ≠ '.' ∧ c ≠ 'e' ∧ c ≠ 'E'

theorem EndsNumber.endsDigits {cs : List Char} (h : EndsNumber cs) : EndsDigits cs :=
  fun c hc => (h c hc).1

@[simp] theorem endsNumber_nil : EndsNumber [] := fun c hc => by simp at hc

/-- A comma, a closing bracket and a closing brace end a number. -/
theorem endsNumber_cons {c : Char} (cs : List Char) (h : c = ',' ∨ c = ']' ∨ c = '}') :
    EndsNumber (c :: cs) := by
  intro d hd
  obtain rfl : c = d := by simpa using hd
  rcases h with rfl | rfl | rfl <;> decide

/-! ## The parts of a number -/

theorem readDigits_append (ds : Digits) {rest : List Char} (h : EndsDigits rest) :
    readDigits (digitChars ds.toList ++ rest) = .ok (ds, rest) := by
  show readDigits (ds.head.toChar :: (digitChars ds.tail ++ rest)) = _
  simp only [readDigits, Digit.ofChar?_toChar, splitDigits_append ds.tail h]

/-- A lone zero is read as one, and any other first digit carries the run
behind it. -/
theorem readWhole_append (w : Whole) {rest : List Char} (h : EndsDigits rest) :
    readWhole (digitChars w.toList ++ rest) = .ok (w, rest) := by
  cases w with
  | zero =>
    have hsplit : splitDigits rest = ([], rest) := splitDigits_append [] h
    show readWhole ((0 : Digit).toChar :: rest) = _
    simp only [readWhole, Digit.ofChar?_toChar, hsplit, dite_true, List.isEmpty_nil, if_true]
  | positive lead tail =>
    show readWhole (Digit.toChar lead.succ :: (digitChars tail ++ rest)) = _
    simp only [readWhole, Digit.ofChar?_toChar, splitDigits_append tail h,
      dif_neg (Fin.succ_ne_zero lead), Fin.pred_succ]

theorem readFraction_append (n : Number) {rest : List Char} (h : EndsDigits rest)
    (hpoint : ∀ c ∈ rest.head?, c ≠ '.') :
    readFraction (n.fractionChars ++ rest) = .ok (n.fraction, rest) := by
  unfold Number.fractionChars
  cases n.fraction with
  | some ds =>
    show readFraction ('.' :: (digitChars ds.toList ++ rest)) = _
    simp only [readFraction, readDigits_append ds h]
  | none =>
    show readFraction rest = _
    unfold readFraction
    split
    · exact absurd rfl (hpoint '.' rfl)
    · rfl

theorem readExponent_append (n : Number) {rest : List Char} (h : EndsNumber rest) :
    readExponent (n.exponentChars ++ rest) = .ok (n.exponent, rest) := by
  unfold Number.exponentChars
  cases n.exponent with
  | some e =>
    obtain ⟨negative, ds⟩ := e
    have hread := readDigits_append ds h.endsDigits
    cases negative with
    | true =>
      show readPower ('-' :: (digitChars ds.toList ++ rest)) = _
      simp only [readPower, readSign, hread]
    | false =>
      show readPower ('+' :: (digitChars ds.toList ++ rest)) = _
      simp only [readPower, readSign, hread]
  | none =>
    show readExponent rest = _
    unfold readExponent
    split
    · exact absurd rfl (h 'e' rfl).2.2.1
    · exact absurd rfl (h 'E' rfl).2.2.2
    · rfl

theorem readMinus_append (n : Number) {c : Char} (cs : List Char) (h : c ≠ '-') :
    readMinus (n.signChars ++ c :: cs) = (n.negative, c :: cs) := by
  unfold Number.signChars
  cases n.negative with
  | true => rfl
  | false =>
    show readMinus (c :: cs) = _
    unfold readMinus
    split
    · next heq => exact absurd (List.cons.inj heq).1 h
    · rfl

/-! ## Whole numbers -/

/-- The text of a number goes on with no digit behind its whole part. -/
theorem endsDigits_exponentChars (n : Number) {rest : List Char} (h : EndsNumber rest) :
    EndsDigits (n.exponentChars ++ rest) ∧ ∀ c ∈ (n.exponentChars ++ rest).head?, c ≠ '.' := by
  unfold Number.exponentChars
  cases n.exponent with
  | none => exact ⟨h.endsDigits, fun c hc => (h c hc).2.1⟩
  | some e =>
    have hhead : ∀ c ∈ some 'e', Digit.ofChar? c = none ∧ c ≠ '.' := by
      intro c hc
      obtain rfl : 'e' = c := by simpa using hc
      decide
    exact ⟨fun c hc => (hhead c hc).1, fun c hc => (hhead c hc).2⟩

theorem endsDigits_fractionChars (n : Number) {rest : List Char} (h : EndsNumber rest) :
    EndsDigits (n.fractionChars ++ (n.exponentChars ++ rest)) := by
  unfold Number.fractionChars
  cases n.fraction with
  | none => exact (endsDigits_exponentChars n h).1
  | some ds =>
    intro c hc
    obtain rfl : '.' = c := by simpa using hc
    decide

/-- The first character of a written whole part is a digit. -/
theorem exists_digitChars_whole (w : Whole) :
    ∃ (d : Digit) (cs : List Char), digitChars w.toList = d.toChar :: cs := by
  cases w with
  | zero => exact ⟨0, [], rfl⟩
  | positive lead tail => exact ⟨lead.succ, digitChars tail, rfl⟩

/-- **A written number is read back**, and nothing behind it is touched. -/
theorem readNumber_toChars (n : Number) {rest : List Char} (h : EndsNumber rest) :
    readNumber (n.toChars ++ rest) = .ok (n, rest) := by
  have hminus : readMinus (n.toChars ++ rest)
      = (n.negative, digitChars n.whole.toList
          ++ (n.fractionChars ++ (n.exponentChars ++ rest))) := by
    -- a digit stands first where there is no sign, and no digit is a minus
    obtain ⟨d, cs, hd⟩ := exists_digitChars_whole n.whole
    have := readMinus_append n (cs ++ (n.fractionChars ++ (n.exponentChars ++ rest)))
      d.toChar_ne.1
    simpa only [Number.toChars, List.append_assoc, hd, List.cons_append] using this
  have hwhole := readWhole_append n.whole (endsDigits_fractionChars n h)
  have hfraction := readFraction_append n (endsDigits_exponentChars n h).1
    (endsDigits_exponentChars n h).2
  have hexponent := readExponent_append n h
  simp only [readNumber, hminus, hwhole, hfraction, hexponent, bind, Except.bind, pure,
    Except.pure]

/-- The text of a number begins with a minus or a digit. -/
theorem Number.exists_toChars (n : Number) :
    ∃ (c : Char) (cs : List Char), n.toChars = c :: cs
      ∧ (c = '-' ∨ ∃ d : Digit, c = d.toChar) := by
  unfold Number.toChars Number.signChars
  cases n.negative with
  | true => exact ⟨'-', _, rfl, Or.inl rfl⟩
  | false =>
    obtain ⟨d, cs, hd⟩ := exists_digitChars_whole n.whole
    refine ⟨d.toChar, cs ++ n.fractionChars ++ n.exponentChars, ?_, Or.inr ⟨d, rfl⟩⟩
    simp only [hd, Bool.false_eq_true, if_false, List.nil_append, List.cons_append]

end EchoProbe.Json
