import EchoProbe.Proofs.Json.Grammar
import EchoProbe.Proofs.Json.Reading

/-!
# Words, numbers and strings are read as the grammar has them

Each reader is compared with its production in both directions. What it reads
is the front of the text, and the production holds of it (`spells…_of_read…`).
And it reads whatever the production allows, in front of anything that cannot
go on with it (`read…_spelled`). A number could go on with digits, a point or
an exponent, so what follows must end it (`EndsNumber`); blanks do.
-/

namespace EchoProbe.Json

open EchoProbe.Text

/-! ## Blanks -/

theorem isBlank_iff (c : Char) : isBlank c = true ↔ c ∈ [' ', '\t', '\n', '\r'] := by
  simp only [isBlank, Bool.or_eq_true, beq_iff_eq, List.mem_cons, List.not_mem_nil, or_false]
  tauto

theorem Blanks.append {bs cs : List Char} (hb : Blanks bs) (hc : Blanks cs) : Blanks (bs ++ cs) :=
  List.forall_mem_append.mpr ⟨hb, hc⟩

theorem Blanks.nil : Blanks [] := fun _ h => absurd h List.not_mem_nil

/-- All blanks at the front are skipped, and nothing else. -/
theorem skipBlanks_append {bs : List Char} (h : Blanks bs) (cs : List Char) :
    skipBlanks (bs ++ cs) = skipBlanks cs := by
  induction bs with
  | nil => rfl
  | cons b bs ih =>
    obtain ⟨hb, hbs⟩ := List.forall_mem_cons.mp h
    rw [List.cons_append, skipBlanks, List.dropWhile_cons, (isBlank_iff b).mpr hb, if_pos rfl]
    exact ih hbs

theorem skipBlanks_append_cons {bs : List Char} (h : Blanks bs) {c : Char}
    (hc : isBlank c = false) (cs : List Char) : skipBlanks (bs ++ c :: cs) = c :: cs := by
  rw [skipBlanks_append h, skipBlanks_cons cs hc]

/-- What is skipped are blanks. -/
theorem exists_skipBlanks (cs : List Char) :
    ∃ bs, Blanks bs ∧ cs = bs ++ skipBlanks cs := by
  refine ⟨cs.takeWhile isBlank, fun c hc => ?_, List.takeWhile_append_dropWhile.symm⟩
  exact (isBlank_iff c).mp (List.all_eq_true.mp List.all_takeWhile c hc)

/-- What is left behind the blanks says where they end. -/
theorem exists_of_skipBlanks_eq {cs left : List Char} (h : skipBlanks cs = left) :
    ∃ bs, Blanks bs ∧ cs = bs ++ left := h ▸ exists_skipBlanks cs

/-- Blanks end a number. -/
theorem EndsNumber.append {bs rest : List Char} (hb : Blanks bs) (h : EndsNumber rest) :
    EndsNumber (bs ++ rest) := by
  cases bs with
  | nil => exact h
  | cons b bs =>
    have hblank : ∀ c ∈ [' ', '\t', '\n', '\r'],
        Digit.ofChar? c = none ∧ c ≠ '.' ∧ c ≠ 'e' ∧ c ≠ 'E' := by
      simp only [List.forall_mem_cons]
      exact ⟨by decide, by decide, by decide, by decide, nofun⟩
    intro c hc
    obtain rfl : b = c := by simpa using hc
    exact hblank b (hb b List.mem_cons_self)

/-! ## Numbers -/

/-- A character that is read as a digit is the character of that digit. -/
theorem toChar_of_ofChar? {c : Char} {d : Digit} (h : Digit.ofChar? c = some d) :
    d.toChar = c := by
  unfold Digit.ofChar? at h
  split at h
  · next hrange =>
    obtain rfl : _ = d := Option.some.inj h
    show Char.ofNat (c.toNat - 48 + 48) = c
    rw [Nat.sub_add_cancel hrange.1, Char.ofNat_toNat]
  · cases h

theorem spellsDigits_digitChars (ds : List Digit) : SpellsDigits (digitChars ds) ds := by
  induction ds with
  | nil => exact .nil
  | cons d ds ih => exact .cons d ih

theorem SpellsDigits.eq_digitChars {cs : List Char} {ds : List Digit} (h : SpellsDigits cs ds) :
    cs = digitChars ds := by
  induction h with
  | nil => rfl
  | cons d _ ih => rw [ih]; rfl

/-- What is split off are digits. -/
theorem digitChars_splitDigits (cs : List Char) :
    digitChars (splitDigits cs).1 ++ (splitDigits cs).2 = cs := by
  induction cs with
  | nil => rfl
  | cons c cs ih =>
    rw [splitDigits]
    split
    · next d hd =>
      show d.toChar :: (digitChars (splitDigits cs).1 ++ (splitDigits cs).2) = _
      rw [ih, toChar_of_ofChar? hd]
    · rfl

theorem spellsDigits_of_readDigits {cs rest : List Char} {ds : Digits}
    (h : readDigits cs = .ok (ds, rest)) :
    ∃ body, cs = body ++ rest ∧ SpellsDigits body ds.toList := by
  unfold readDigits at h
  split at h
  · cases h
  · next c cs =>
    split at h
    · cases h
    · next d hd =>
      obtain ⟨rfl, rfl⟩ := Prod.mk.inj (Except.ok.inj h)
      refine ⟨digitChars (d :: (splitDigits cs).1), ?_, spellsDigits_digitChars _⟩
      show _ = d.toChar :: (digitChars (splitDigits cs).1 ++ (splitDigits cs).2)
      rw [digitChars_splitDigits, toChar_of_ofChar? hd]

theorem readDigits_spelled {cs rest : List Char} {ds : Digits} (h : SpellsDigits cs ds.toList)
    (hrest : EndsDigits rest) : readDigits (cs ++ rest) = .ok (ds, rest) := by
  rw [h.eq_digitChars, readDigits_append ds hrest]

theorem spellsWhole_of_readWhole {cs rest : List Char} {w : Whole}
    (h : readWhole cs = .ok (w, rest)) : ∃ body, cs = body ++ rest ∧ SpellsWhole body w := by
  unfold readWhole at h
  split at h
  · cases h
  · next c cs =>
    split at h
    · cases h
    · next d hd =>
      have hc := toChar_of_ofChar? hd
      split at h
      · next hzero =>
        split at h
        · obtain ⟨rfl, rfl⟩ := Prod.mk.inj (Except.ok.inj h)
          refine ⟨['0'], ?_, .zero⟩
          rw [← hc, hzero]
          rfl
        · cases h
      · next hzero =>
        obtain ⟨rfl, rfl⟩ := Prod.mk.inj (Except.ok.inj h)
        refine ⟨_, ?_, .positive (d.pred hzero) (spellsDigits_digitChars _)⟩
        rw [Fin.succ_pred, hc, List.cons_append, digitChars_splitDigits]

theorem readWhole_spelled {cs rest : List Char} {w : Whole} (h : SpellsWhole cs w)
    (hrest : EndsDigits rest) : readWhole (cs ++ rest) = .ok (w, rest) := by
  cases h with
  | zero => exact readWhole_append .zero hrest
  | positive lead hds =>
    rw [hds.eq_digitChars]
    exact readWhole_append (.positive lead _) hrest

theorem spellsFraction_of_readFraction {cs rest : List Char} {fraction : Option Digits}
    (h : readFraction cs = .ok (fraction, rest)) :
    ∃ body, cs = body ++ rest ∧ SpellsFraction body fraction := by
  unfold readFraction at h
  split at h
  · next cs =>
    split at h
    · next ds left hread =>
      obtain ⟨rfl, rfl⟩ := Prod.mk.inj (Except.ok.inj h)
      obtain ⟨body, rfl, hbody⟩ := spellsDigits_of_readDigits hread
      exact ⟨'.' :: body, rfl, .present hbody⟩
    · cases h
  · obtain ⟨rfl, rfl⟩ := Prod.mk.inj (Except.ok.inj h)
    exact ⟨[], rfl, .absent⟩

theorem readFraction_spelled {cs rest : List Char} {fraction : Option Digits}
    (h : SpellsFraction cs fraction) (hrest : EndsDigits rest)
    (hpoint : ∀ c ∈ rest.head?, c ≠ '.') : readFraction (cs ++ rest) = .ok (fraction, rest) := by
  cases h with
  | absent =>
    rw [List.nil_append]
    unfold readFraction
    split
    · exact absurd rfl (hpoint '.' rfl)
    · rfl
  | present hds =>
    rw [List.cons_append, readFraction]
    simp only [readDigits_spelled hds hrest]

theorem spellsSign_readSign (cs : List Char) :
    ∃ body, cs = body ++ (readSign cs).2 ∧ SpellsSign body (readSign cs).1 := by
  unfold readSign
  split
  · exact ⟨['-'], rfl, .minus⟩
  · exact ⟨['+'], rfl, .plus⟩
  · exact ⟨[], rfl, .absent⟩

/-- Digits follow a sign, so where there is none the first of them shows it. -/
theorem readSign_spelled {cs ds rest : List Char} {negative : Bool} {digits : Digits}
    (h : SpellsSign cs negative) (hds : SpellsDigits ds digits.toList) :
    readSign (cs ++ (ds ++ rest)) = (negative, ds ++ rest) := by
  cases h with
  | plus => rfl
  | minus => rfl
  | absent =>
    obtain ⟨hminus, hplus, -⟩ := digits.head.toChar_ne
    rw [hds.eq_digitChars, List.nil_append]
    show readSign (digits.head.toChar :: (digitChars digits.tail ++ rest)) = _
    unfold readSign
    split
    · next heq => exact absurd (List.cons.inj heq).1 hminus
    · next heq => exact absurd (List.cons.inj heq).1 hplus
    · rfl

theorem spellsExponent_of_readPower {marker : Char} (hmarker : marker ∈ ['e', 'E'])
    {cs rest : List Char} {exponent : Option Exponent} (h : readPower cs = .ok (exponent, rest)) :
    ∃ body, marker :: cs = body ++ rest ∧ SpellsExponent body exponent := by
  unfold readPower at h
  split at h
  · next ds left hread =>
    obtain ⟨rfl, rfl⟩ := Prod.mk.inj (Except.ok.inj h)
    obtain ⟨sign, hsplit, hsign⟩ := spellsSign_readSign cs
    obtain ⟨body, heq, hbody⟩ := spellsDigits_of_readDigits hread
    refine ⟨_, ?_, .present hmarker hsign hbody⟩
    rw [List.cons_append, List.append_assoc, ← heq, ← hsplit]
  · cases h

theorem spellsExponent_of_readExponent {cs rest : List Char} {exponent : Option Exponent}
    (h : readExponent cs = .ok (exponent, rest)) :
    ∃ body, cs = body ++ rest ∧ SpellsExponent body exponent := by
  unfold readExponent at h
  split at h
  · exact spellsExponent_of_readPower (by decide) h
  · exact spellsExponent_of_readPower (by decide) h
  · obtain ⟨rfl, rfl⟩ := Prod.mk.inj (Except.ok.inj h)
    exact ⟨[], rfl, .absent⟩

theorem readExponent_spelled {cs rest : List Char} {exponent : Option Exponent}
    (h : SpellsExponent cs exponent) (hrest : EndsNumber rest) :
    readExponent (cs ++ rest) = .ok (exponent, rest) := by
  cases h with
  | absent =>
    rw [List.nil_append]
    unfold readExponent
    split
    · exact absurd rfl (hrest 'e' rfl).2.2.1
    · exact absurd rfl (hrest 'E' rfl).2.2.2
    · rfl
  | present hmarker hsign hds =>
    next marker sign ds negative digits =>
    have hpower : readPower (sign ++ (ds ++ rest)) = .ok (some ⟨negative, digits⟩, rest) := by
      rw [readPower, readSign_spelled hsign hds]
      simp only [readDigits_spelled hds hrest.endsDigits]
    rw [List.cons_append, List.append_assoc]
    rcases List.mem_pair.mp hmarker with rfl | rfl
    · exact hpower
    · exact hpower

theorem spellsMinus_readMinus (cs : List Char) :
    ∃ body, cs = body ++ (readMinus cs).2 ∧ SpellsMinus body (readMinus cs).1 := by
  unfold readMinus
  split
  · exact ⟨['-'], rfl, .present⟩
  · exact ⟨[], rfl, .absent⟩

/-- The digits in front of the point begin with a digit. -/
theorem SpellsWhole.exists_eq_cons {cs : List Char} {w : Whole} (h : SpellsWhole cs w) :
    ∃ (d : Digit) (ds : List Char), cs = d.toChar :: ds := by
  cases h with
  | zero => exact ⟨0, [], rfl⟩
  | positive lead _ => exact ⟨lead.succ, _, rfl⟩

theorem readMinus_spelled {cs int rest : List Char} {negative : Bool} {w : Whole}
    (h : SpellsMinus cs negative) (hint : SpellsWhole int w) :
    readMinus (cs ++ (int ++ rest)) = (negative, int ++ rest) := by
  cases h with
  | present => rfl
  | absent =>
    obtain ⟨d, ds, rfl⟩ := hint.exists_eq_cons
    rw [List.nil_append, List.cons_append]
    unfold readMinus
    split
    · next heq => exact absurd (List.cons.inj heq).1 d.toChar_ne.1
    · rfl

/-- **What is read as a number is one.** -/
theorem spellsNumber_of_readNumber {cs rest : List Char} {n : Number}
    (h : readNumber cs = .ok (n, rest)) : ∃ body, cs = body ++ rest ∧ SpellsNumber body n := by
  obtain ⟨minus, hminus, hspellsMinus⟩ := spellsMinus_readMinus cs
  obtain ⟨⟨w, left⟩, hwhole, h⟩ := exists_of_bind_eq_ok h
  obtain ⟨⟨fraction, left'⟩, hfraction, h⟩ := exists_of_bind_eq_ok h
  obtain ⟨⟨exponent, left''⟩, hexponent, h⟩ := exists_of_bind_eq_ok h
  obtain ⟨rfl, rfl⟩ := Prod.mk.inj (Except.ok.inj h)
  obtain ⟨int, hint, hspellsInt⟩ := spellsWhole_of_readWhole hwhole
  obtain ⟨frac, rfl, hspellsFrac⟩ := spellsFraction_of_readFraction hfraction
  obtain ⟨exp, rfl, hspellsExp⟩ := spellsExponent_of_readExponent hexponent
  refine ⟨_, ?_, .intro hspellsMinus hspellsInt hspellsFrac hspellsExp⟩
  rw [show (readMinus cs).2 = _ from hint] at hminus
  simpa only [List.append_assoc] using hminus

/-- An exponent goes on with no digit and no point. -/
theorem SpellsExponent.ends {cs rest : List Char} {exponent : Option Exponent}
    (h : SpellsExponent cs exponent) (hrest : EndsNumber rest) :
    EndsDigits (cs ++ rest) ∧ ∀ c ∈ (cs ++ rest).head?, c ≠ '.' := by
  cases h with
  | absent => exact ⟨hrest.endsDigits, fun c hc => (hrest c hc).2.1⟩
  | present hmarker _ _ =>
    have hends : ∀ marker ∈ ['e', 'E'], Digit.ofChar? marker = none ∧ marker ≠ '.' :=
      List.forall_mem_cons.mpr ⟨by decide, List.forall_mem_singleton.mpr (by decide)⟩
    refine ⟨fun c hc => ?_, fun c hc => ?_⟩
    · obtain rfl : _ = c := by simpa using hc
      exact (hends _ hmarker).1
    · obtain rfl : _ = c := by simpa using hc
      exact (hends _ hmarker).2

theorem SpellsFraction.ends {cs rest : List Char} {fraction : Option Digits}
    (h : SpellsFraction cs fraction) (hrest : EndsDigits rest) : EndsDigits (cs ++ rest) := by
  cases h with
  | absent => exact hrest
  | present _ =>
    intro c hc
    obtain rfl : '.' = c := by simpa using hc
    decide

/-- **A number is read as one**, up to where it ends. -/
theorem readNumber_spelled {cs rest : List Char} {n : Number} (h : SpellsNumber cs n)
    (hrest : EndsNumber rest) : readNumber (cs ++ rest) = .ok (n, rest) := by
  obtain ⟨hminus, hint, hfrac, hexp⟩ := h
  next minus int frac exp =>
  obtain ⟨hdigits, hpoint⟩ := hexp.ends hrest
  have htext : minus ++ (int ++ (frac ++ exp)) ++ rest
      = minus ++ (int ++ (frac ++ (exp ++ rest))) := by
    simp only [List.append_assoc]
  rw [htext]
  simp only [readNumber, readMinus_spelled hminus hint, readWhole_spelled hint (hfrac.ends hdigits),
    readFraction_spelled hfrac hdigits hpoint, readExponent_spelled hexp hrest, bind, Except.bind,
    pure, Except.pure]

/-- **The number that a whole text spells.** -/
theorem Number.parse_eq_ok_iff (text : String) (n : Number) :
    Number.parse text = .ok n ↔ SpellsNumber text.toList n := by
  rw [Number.parse]
  constructor
  · intro h
    split at h
    · next k hread =>
      obtain ⟨body, heq, hbody⟩ := spellsNumber_of_readNumber hread
      rw [List.append_nil] at heq
      rw [← Except.ok.inj h, heq]
      exact hbody
    · cases h
    · cases h
  · intro h
    have hread := readNumber_spelled h endsNumber_nil
    rw [List.append_nil] at hread
    rw [hread]

/-! ## Strings -/

theorem mem_shortEscapes_iff (e c : Char) : (e, c) ∈ shortEscapes ↔ shortEscape? e = some c := by
  constructor
  · have hall : ∀ p ∈ shortEscapes, shortEscape? p.1 = some p.2 := by decide
    exact hall (e, c)
  · intro h
    unfold shortEscape? at h
    split at h <;> cases h <;> decide

theorem ne_of_mem_shortEscapes {e c : Char} (h : (e, c) ∈ shortEscapes) : e ≠ 'u' :=
  (by decide : ∀ p ∈ shortEscapes, p.1 ≠ 'u') (e, c) h

theorem spellsHexDigit_iff (c : Char) (n : Nat) : SpellsHexDigit c n ↔ hexValue? c = some n := by
  constructor
  · intro h
    have hlower : ∀ k < 16, lowerHexDigits[k]?.bind hexValue? = some k := by decide
    have hupper : ∀ k < 16, upperHexDigits[k]?.bind hexValue? = some k := by decide
    rcases h with h | h
    · simpa only [h, Option.bind_some] using hlower n (List.getElem?_eq_some_iff.mp h).1
    · simpa only [h, Option.bind_some] using hupper n (List.getElem?_eq_some_iff.mp h).1
  · intro h
    have hall : ∀ k < 103, ∀ m ∈ hexValue? (Char.ofNat k),
        lowerHexDigits[m]? = some (Char.ofNat k) ∨ upperHexDigits[m]? = some (Char.ofNat k) := by
      decide +kernel
    have hlt : c.toNat < 103 := by
      unfold hexValue? at h
      split at h
      · omega
      · split at h
        · omega
        · split at h
          · omega
          · cases h
    have := hall c.toNat hlt n
    rw [Char.ofNat_toNat] at this
    exact this h

theorem spellsUnit_of_readHex {cs rest : List Char} {n : Nat} (h : readHex cs = .ok (n, rest)) :
    ∃ body, 'u' :: cs = body ++ rest ∧ SpellsUnit body n := by
  unfold readHex at h
  split at h
  · next a b c d cs =>
    split at h
    · next i j k l hi hj hk hl =>
      obtain ⟨rfl, rfl⟩ := Prod.mk.inj (Except.ok.inj h)
      refine ⟨['u', a, b, c, d], rfl, ?_⟩
      have hvalue : ((i * 16 + j) * 16 + k) * 16 + l = i * 16 ^ 3 + j * 16 ^ 2 + k * 16 + l := by
        omega
      rw [hvalue]
      exact .intro ((spellsHexDigit_iff a i).mpr hi) ((spellsHexDigit_iff b j).mpr hj)
        ((spellsHexDigit_iff c k).mpr hk) ((spellsHexDigit_iff d l).mpr hl)
    · cases h
  · split at h <;> cases h

theorem readHex_spelled {cs : List Char} {n : Nat} (h : SpellsUnit cs n) (rest : List Char) :
    ∃ ds, cs = 'u' :: ds ∧ readHex (ds ++ rest) = .ok (n, rest) := by
  obtain ⟨ha, hb, hc, hd⟩ := h
  next a b c d i j k l =>
  refine ⟨[a, b, c, d], rfl, ?_⟩
  have hvalue : ((i * 16 + j) * 16 + k) * 16 + l = i * 16 ^ 3 + j * 16 ^ 2 + k * 16 + l := by
    omega
  simp only [List.cons_append, List.nil_append, readHex, (spellsHexDigit_iff a i).mp ha,
    (spellsHexDigit_iff b j).mp hb, (spellsHexDigit_iff c k).mp hc, (spellsHexDigit_iff d l).mp hd,
    hvalue]

theorem isHighSurrogate_iff (n : Nat) : isHighSurrogate n = true ↔ 0xD800 ≤ n ∧ n ≤ 0xDBFF := by
  simp only [isHighSurrogate, Bool.and_eq_true, decide_eq_true_eq]
  omega

theorem isLowSurrogate_iff (n : Nat) : isLowSurrogate n = true ↔ 0xDC00 ≤ n ∧ n ≤ 0xDFFF := by
  simp only [isLowSurrogate, Bool.and_eq_true, decide_eq_true_eq]
  omega

theorem spellsChar_of_readPair {first cs rest : List Char} {high : Nat} {c : Char}
    (hfirst : SpellsUnit first high) (hhigh : isHighSurrogate high = true)
    (h : readPair high cs = .ok (c, rest)) :
    ∃ body, '\\' :: (first ++ cs) = body ++ rest ∧ SpellsChar body c := by
  unfold readPair at h
  split at h
  · cases h
  · cases h
  · split at h
    · next low left hread =>
      obtain ⟨second, heq, hsecond⟩ := spellsUnit_of_readHex hread
      split at h
      · next hlow =>
        obtain ⟨rfl, rfl⟩ := Prod.mk.inj (Except.ok.inj h)
        refine ⟨_, ?_, .pair hfirst ((isHighSurrogate_iff high).mp hhigh) hsecond
          ((isLowSurrogate_iff low).mp hlow)⟩
        rw [heq, List.cons_append, List.append_assoc, List.cons_append]
      · cases h
    · cases h
  · cases h

theorem spellsChar_of_readUnicode {cs rest : List Char} {c : Char}
    (h : readUnicode cs = .ok (c, rest)) :
    ∃ body, '\\' :: 'u' :: cs = body ++ rest ∧ SpellsChar body c := by
  unfold readUnicode at h
  split at h
  · next n left hread =>
    obtain ⟨body, heq, hbody⟩ := spellsUnit_of_readHex hread
    rw [heq]
    split at h
    · next hhigh => exact spellsChar_of_readPair hbody hhigh h
    · next hhigh =>
      split at h
      · cases h
      · next hlow =>
        obtain ⟨rfl, rfl⟩ := Prod.mk.inj (Except.ok.inj h)
        rw [isHighSurrogate_iff] at hhigh
        rw [isLowSurrogate_iff] at hlow
        exact ⟨'\\' :: body, rfl, .unit hbody (by omega)⟩
  · cases h

/-- What is read as an escape is one. -/
theorem spellsChar_of_readEscape {cs rest : List Char} {c : Char}
    (h : readEscape cs = .ok (c, rest)) :
    ∃ body, '\\' :: cs = body ++ rest ∧ SpellsChar body c := by
  unfold readEscape at h
  split at h
  · cases h
  · next e cs =>
    split at h
    · next hu =>
      rw [hu]
      exact spellsChar_of_readUnicode h
    · split at h
      · next d hd =>
        obtain ⟨rfl, rfl⟩ := Prod.mk.inj (Except.ok.inj h)
        exact ⟨['\\', e], rfl, .short ((mem_shortEscapes_iff e d).mpr hd)⟩
      · cases h

theorem readUnicode_spelled_unit {cs : List Char} {n : Nat} (h : SpellsUnit cs n)
    (hn : n < 0xD800 ∨ 0xDFFF < n) (rest : List Char) :
    ∃ ds, cs = 'u' :: ds ∧ readUnicode (ds ++ rest) = .ok (Char.ofNat n, rest) := by
  obtain ⟨ds, heq, hread⟩ := readHex_spelled h rest
  have hhigh : ¬ isHighSurrogate n = true := by rw [isHighSurrogate_iff]; omega
  have hlow : ¬ isLowSurrogate n = true := by rw [isLowSurrogate_iff]; omega
  refine ⟨ds, heq, ?_⟩
  rw [readUnicode, hread]
  simp only [if_neg hhigh, if_neg hlow]

theorem readUnicode_spelled_pair {cs ds : List Char} {high low : Nat} (hcs : SpellsUnit cs high)
    (hhigh : 0xD800 ≤ high ∧ high ≤ 0xDBFF) (hds : SpellsUnit ds low)
    (hlow : 0xDC00 ≤ low ∧ low ≤ 0xDFFF) (rest : List Char) :
    ∃ es, cs ++ '\\' :: ds = 'u' :: es ∧ readUnicode (es ++ rest)
      = .ok (Char.ofNat (0x10000 + (high - 0xD800) * 0x400 + (low - 0xDC00)), rest) := by
  obtain ⟨second, rfl, hsecond⟩ := readHex_spelled hds rest
  obtain ⟨first, rfl, hfirst⟩ := readHex_spelled hcs ('\\' :: 'u' :: (second ++ rest))
  refine ⟨first ++ '\\' :: 'u' :: second, rfl, ?_⟩
  have htext : first ++ '\\' :: 'u' :: second ++ rest
      = first ++ '\\' :: 'u' :: (second ++ rest) := by
    rw [List.append_assoc, List.cons_append, List.cons_append]
  rw [htext, readUnicode, hfirst]
  simp only [if_pos ((isHighSurrogate_iff high).mpr hhigh), readPair, hsecond,
    if_pos ((isLowSurrogate_iff low).mpr hlow)]

/-- **One character of a string is read off** its front. -/
theorem readString_spelled_char {cs : List Char} {c : Char} (h : SpellsChar cs c)
    (rest : List Char) :
    readString (cs ++ rest) = (readString rest).map fun p => (c :: p.1, p.2) := by
  have hunicode : ∀ {es : List Char}, readUnicode (es ++ rest) = .ok (c, rest) →
      readEscape ('u' :: (es ++ rest)) = .ok (c, rest) := by
    intro es hes
    rw [readEscape, if_pos rfl, hes]
  cases h with
  | plain hquote hslash hcontrol => exact readString_plain rest hquote hslash (by omega)
  | short hmem =>
    exact readString_escape (readEscape_short rest (ne_of_mem_shortEscapes hmem)
      ((mem_shortEscapes_iff _ _).mp hmem))
  | unit hunit hn =>
    obtain ⟨ds, rfl, hread⟩ := readUnicode_spelled_unit hunit hn rest
    exact readString_escape (hunicode hread)
  | pair hcs hhigh hds hlow =>
    obtain ⟨es, heq, hread⟩ := readUnicode_spelled_pair hcs hhigh hds hlow rest
    rw [heq]
    exact readString_escape (hunicode hread)

/-- **What is read as a string** behind its opening quote is one. -/
theorem spellsChars_of_readString {text s rest : List Char} (h : readString text = .ok (s, rest)) :
    ∃ body, text = body ++ '"' :: rest ∧ SpellsChars body s := by
  fun_induction readString text generalizing s rest with
  | case1 => cases h
  | case2 cs =>
    obtain ⟨rfl, rfl⟩ := Prod.mk.inj (Except.ok.inj h)
    exact ⟨[], rfl, .nil⟩
  | case3 => cases h
  | case4 cs d left hescape tail left' hread _ ih =>
    obtain ⟨rfl, rfl⟩ := Prod.mk.inj (Except.ok.inj h)
    obtain ⟨first, hfirst, hchar⟩ := spellsChar_of_readEscape hescape
    obtain ⟨body, rfl, hbody⟩ := ih hread
    refine ⟨first ++ body, ?_, .cons hchar hbody⟩
    rw [hfirst, List.append_assoc]
  | case5 => cases h
  | case6 => cases h
  | case7 c cs hquote hslash hcontrol tail left hread ih =>
    obtain ⟨rfl, rfl⟩ := Prod.mk.inj (Except.ok.inj h)
    obtain ⟨body, rfl, hbody⟩ := ih hread
    exact ⟨[c] ++ body, rfl, .cons (.plain hquote hslash (Nat.not_lt.mp hcontrol)) hbody⟩
  | case8 => cases h

/-- **A string is read as one**, up to its closing quote. -/
theorem readString_spelled {cs s : List Char} (h : SpellsChars cs s) (rest : List Char) :
    readString (cs ++ '"' :: rest) = .ok (s, rest) := by
  induction h with
  | nil => exact readString_quote rest
  | cons hchar _ ih =>
    rw [List.append_assoc, readString_spelled_char hchar, ih]
    rfl

/-! ## Values without parts -/

/-- A word that must stand here is taken off. -/
theorem eq_append_of_readWord {word cs rest : List Char} (h : readWord word cs = .ok rest) :
    cs = word ++ rest := by
  induction word generalizing cs with
  | nil =>
    rw [readWord] at h
    exact Except.ok.inj h
  | cons w word ih =>
    cases cs with
    | nil => cases h
    | cons c cs =>
      rw [readWord] at h
      split at h
      · next hw => rw [hw, ih h, List.cons_append]
      · cases h

/-- A value that is spelled by a word. -/
theorem spellsScalar_of_readWord {c : Char} {word cs rest : List Char} {v w : Value}
    (hword : SpellsScalar (c :: word) w) (h : (readWord word cs).map (w, ·) = .ok (v, rest)) :
    ∃ body, c :: cs = body ++ rest ∧ SpellsScalar body v := by
  obtain ⟨left, hread, heq⟩ := exists_of_map_eq_ok h
  obtain ⟨rfl, rfl⟩ := Prod.mk.inj heq
  exact ⟨c :: word, by rw [eq_append_of_readWord hread, List.cons_append], hword⟩

/-- **What is read as a value without parts is one.** -/
theorem spellsScalar_of_readScalar {cs rest : List Char} {v : Value}
    (h : readScalar cs = .ok (v, rest)) : ∃ body, cs = body ++ rest ∧ SpellsScalar body v := by
  unfold readScalar at h
  split at h
  · cases h
  · exact spellsScalar_of_readWord .null h
  · exact spellsScalar_of_readWord .yes h
  · exact spellsScalar_of_readWord .no h
  · obtain ⟨⟨s, left⟩, hread, heq⟩ := exists_of_map_eq_ok h
    obtain ⟨rfl, rfl⟩ := Prod.mk.inj heq
    obtain ⟨body, rfl, hbody⟩ := spellsChars_of_readString hread
    refine ⟨'"' :: (body ++ ['"']), ?_, .string (.intro ?_)⟩
    · rw [List.cons_append, List.append_assoc, List.singleton_append]
    · rwa [String.toList_ofList]
  · split at h
    · obtain ⟨⟨n, left⟩, hread, heq⟩ := exists_of_map_eq_ok h
      obtain ⟨rfl, rfl⟩ := Prod.mk.inj heq
      obtain ⟨body, heq, hbody⟩ := spellsNumber_of_readNumber hread
      exact ⟨body, heq, .number hbody⟩
    · cases h

/-- A number begins with a minus or a digit. -/
theorem SpellsNumber.exists_eq_cons {cs : List Char} {n : Number} (h : SpellsNumber cs n) :
    ∃ c ds, cs = c :: ds ∧ (c = '-' ∨ ∃ d : Digit, c = d.toChar) := by
  obtain ⟨hminus, hint, -, -⟩ := h
  obtain ⟨d, ds, rfl⟩ := hint.exists_eq_cons
  generalize n.negative = negative at hminus
  cases hminus with
  | absent => exact ⟨d.toChar, _, rfl, Or.inr ⟨d, rfl⟩⟩
  | present => exact ⟨'-', _, rfl, Or.inl rfl⟩

/-- **A value without parts is read as one.** -/
theorem readScalar_spelled {cs rest : List Char} {v : Value} (h : SpellsScalar cs v)
    (hrest : EndsNumber rest) : readScalar (cs ++ rest) = .ok (v, rest) := by
  cases h with
  | null => rfl
  | yes => rfl
  | no => rfl
  | number hnumber =>
    have hread := readNumber_spelled hnumber hrest
    obtain ⟨c, ds, rfl, hc⟩ := hnumber.exists_eq_cons
    rw [List.cons_append] at hread ⊢
    rw [readScalar_number _ hc, hread]
    rfl
  | string hstring =>
    obtain ⟨hchars⟩ := hstring
    rw [List.cons_append, List.append_assoc, List.singleton_append, readScalar,
      readString_spelled hchars]
    show Except.ok (Value.string (String.ofList (String.toList _)), rest) = _
    rw [String.ofList_toList]

/-- How a value without parts begins. -/
theorem SpellsScalar.exists_eq_cons {cs : List Char} {v : Value} (h : SpellsScalar cs v) :
    ∃ c ds, cs = c :: ds ∧ isBlank c = false ∧ c ∉ ['[', ']', '{', '}'] := by
  cases h with
  | null => exact ⟨_, _, rfl, by decide⟩
  | yes => exact ⟨_, _, rfl, by decide⟩
  | no => exact ⟨_, _, rfl, by decide⟩
  | string hstring =>
    obtain ⟨_⟩ := hstring
    exact ⟨_, _, rfl, by decide⟩
  | number hnumber =>
    obtain ⟨c, ds, rfl, rfl | ⟨d, rfl⟩⟩ := hnumber.exists_eq_cons
    · exact ⟨_, _, rfl, by decide⟩
    · exact ⟨_, _, rfl, by clear hnumber; revert d; decide⟩

end EchoProbe.Json
