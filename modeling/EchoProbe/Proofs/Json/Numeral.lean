import EchoProbe.Proofs.Json.Grammar.Value
import EchoProbe.Proofs.Json.Layout

/-!
# Number literals keep their text

A number may be spelled in several ways, but they differ in the exponent only:
its marker is of either case, and a plus may stand behind it. `respell` makes
one of them, in the text itself and without regard to what the text denotes:
the marker in lower case and a sign behind it. What is written for a number is
its literal respelled (`SpellsNumber.respell_append`), digit by digit.

The same holds of number literals in arrays (`SpellsNumerals`), however many
there are and however the arrays are nested; only the blanks between them are
left out. In such a text the letter `e` stands in exponents only, so that
`respell` can be applied to it as a whole.
-/

namespace EchoProbe.Json

open EchoProbe.Text

/-- **A text with each exponent spelled in one way**: a marker in lower case
and a sign. -/
def respell : List Char → List Char
  | [] => []
  | c :: cs =>
    if c = 'e' ∨ c = 'E' then
      if cs.head? = some '+' ∨ cs.head? = some '-' then 'e' :: respell cs
      else 'e' :: '+' :: respell cs
    else c :: respell cs

/-! ## Literals -/

theorem respell_of_ne {c : Char} (h : c ≠ 'e' ∧ c ≠ 'E') (cs : List Char) :
    respell (c :: cs) = c :: respell cs := by
  rw [respell, if_neg (not_or.mpr h)]

/-- Only the markers change. -/
theorem mem_respell {c : Char} (hc : c ≠ 'e' ∧ c ≠ 'E') {cs : List Char} (h : c ∈ cs) :
    c ∈ respell cs := by
  induction cs with
  | nil => cases h
  | cons d ds ih =>
    rcases List.mem_cons.mp h with rfl | hds
    · rw [respell_of_ne hc]
      exact List.mem_cons_self
    · have hmem := ih hds
      rw [respell]
      split_ifs
      · exact List.mem_cons_of_mem _ hmem
      · exact List.mem_cons_of_mem _ (List.mem_cons_of_mem _ hmem)
      · exact List.mem_cons_of_mem _ hmem

theorem respell_digits {cs : List Char} {ds : List Digit} (h : SpellsDigits cs ds)
    (rest : List Char) : respell (cs ++ rest) = digitChars ds ++ respell rest := by
  induction h with
  | nil => rfl
  | cons d _ ih =>
    rw [List.cons_append, respell_of_ne ⟨d.toChar_ne.2.2.2.1, d.toChar_ne.2.2.2.2⟩, ih]
    rfl

theorem respell_whole {cs : List Char} {w : Whole} (h : SpellsWhole cs w) (rest : List Char) :
    respell (cs ++ rest) = digitChars w.toList ++ respell rest := by
  cases h with
  | zero => exact respell_of_ne (by decide) rest
  | positive lead hds =>
    rw [List.cons_append,
      respell_of_ne ⟨(Digit.toChar_ne lead.succ).2.2.2.1, (Digit.toChar_ne lead.succ).2.2.2.2⟩,
      respell_digits hds]
    rfl

theorem respell_fraction {cs : List Char} {n : Number} (h : SpellsFraction cs n.fraction)
    (rest : List Char) : respell (cs ++ rest) = n.fractionChars ++ respell rest := by
  unfold Number.fractionChars
  generalize n.fraction = fraction at h
  cases h with
  | absent => rfl
  | present hds =>
    rw [List.cons_append, respell_of_ne (by decide), respell_digits hds]
    rfl

theorem respell_exponent {cs : List Char} {n : Number} (h : SpellsExponent cs n.exponent)
    (rest : List Char) : respell (cs ++ rest) = n.exponentChars ++ respell rest := by
  unfold Number.exponentChars
  generalize n.exponent = exponent at h
  cases h with
  | absent => rfl
  | present hmarker hsign hds =>
    next marker sign ds negative digits =>
    rw [List.cons_append, respell, if_pos (List.mem_pair.mp hmarker), List.append_assoc]
    cases hsign with
    | plus =>
      rw [List.singleton_append, List.head?_cons, if_pos (Or.inl rfl),
        respell_of_ne (by decide), respell_digits hds]
      rfl
    | minus =>
      rw [List.singleton_append, List.head?_cons, if_pos (Or.inr rfl),
        respell_of_ne (by decide), respell_digits hds]
      rfl
    | absent =>
      -- the first digit stands where a sign would
      obtain ⟨hminus, hplus, -⟩ := digits.head.toChar_ne
      have hhead : ([] ++ (ds ++ rest)).head? = some digits.head.toChar := by
        rw [hds.eq_digitChars]
        rfl
      rw [hhead, if_neg (by simp [hminus, hplus]), List.nil_append, respell_digits hds]
      rfl

theorem respell_minus {cs : List Char} {n : Number} (h : SpellsMinus cs n.negative)
    (rest : List Char) : respell (cs ++ rest) = n.signChars ++ respell rest := by
  unfold Number.signChars
  generalize n.negative = negative at h
  cases h with
  | absent => rfl
  | present => exact respell_of_ne (by decide) rest

/-- **What is written for a number is its literal respelled**, in front of
anything. -/
theorem SpellsNumber.respell_append {cs : List Char} {n : Number} (h : SpellsNumber cs n)
    (rest : List Char) : respell (cs ++ rest) = n.toChars ++ respell rest := by
  obtain ⟨hminus, hint, hfrac, hexp⟩ := h
  simp only [List.append_assoc, Number.toChars, respell_minus hminus, respell_whole hint,
    respell_fraction hfrac, respell_exponent hexp]

/-! ## Literals in arrays -/

/-- **Number literals in arrays**, of which at most so many stand inside each
other. -/
def SpellsNumerals : Nat → List Char → Value → Prop
  | 0 => fun cs v => ∃ n, v = .number n ∧ SpellsNumber cs n
  | levels + 1 => fun cs v => (∃ n, v = .number n ∧ SpellsNumber cs n) ∨
    ∃ vs, v = .array vs ∧ SpellsArray (SpellsNumerals levels) cs vs

theorem SpellsNumerals.literal (levels : Nat) {cs : List Char} {n : Number}
    (h : SpellsNumber cs n) : SpellsNumerals levels cs (.number n) := by
  cases levels with
  | zero => exact ⟨n, rfl, h⟩
  | succ levels => exact Or.inl ⟨n, rfl, h⟩

theorem SpellsNumerals.array {levels : Nat} {cs : List Char} {vs : List Value}
    (h : SpellsArray (SpellsNumerals levels) cs vs) :
    SpellsNumerals (levels + 1) cs (.array vs) :=
  Or.inr ⟨vs, rfl, h⟩

/-- A text without its blanks. -/
def dropAllBlanks (cs : List Char) : List Char := cs.filter fun c => !isBlank c

theorem dropAllBlanks_append (cs ds : List Char) :
    dropAllBlanks (cs ++ ds) = dropAllBlanks cs ++ dropAllBlanks ds :=
  List.filter_append cs ds

theorem dropAllBlanks_cons {c : Char} (h : isBlank c = false) (cs : List Char) :
    dropAllBlanks (c :: cs) = c :: dropAllBlanks cs :=
  List.filter_cons_of_pos (by rw [h]; rfl)

theorem Blanks.dropAllBlanks_eq {bs : List Char} (h : Blanks bs) : dropAllBlanks bs = [] := by
  rw [dropAllBlanks, List.filter_eq_nil_iff]
  intro b hb
  rw [(isBlank_iff b).mpr (h b hb)]
  exact Bool.false_ne_true

/-- There are no blanks in a literal: they would still be there when it is
respelled. -/
theorem SpellsNumber.dropAllBlanks_eq {cs : List Char} {n : Number} (h : SpellsNumber cs n) :
    dropAllBlanks cs = cs := by
  have hrespell : respell cs = n.toChars := by
    have h := h.respell_append []
    rwa [List.append_nil, respell, List.append_nil] at h
  refine List.filter_eq_self.mpr fun c hc => ?_
  by_cases hmarker : c = 'e' ∨ c = 'E'
  · rcases hmarker with rfl | rfl <;> rfl
  · have hmem := mem_respell (not_or.mp hmarker) hc
    rw [hrespell] at hmem
    rw [(n.toChars_plain c hmem).1]
    rfl

section Elements

variable {rel rel' : List Char → Value → Prop} {cs : List Char} {v : Value} {vs : List Value}

theorem SpellsItems.mono (h : ∀ cs v, rel cs v → rel' cs v) (hvs : SpellsItems rel cs vs) :
    SpellsItems rel' cs vs := by
  have hpadded : ∀ {cs v}, Padded rel cs v → Padded rel' cs v := by
    rintro _ v ⟨hfront, hv, hback⟩
    exact .intro hfront (h _ _ hv) hback
  induction hvs with
  | last hv => exact .last (hpadded hv)
  | more hv _ ih => exact .more (hpadded hv) ih

theorem SpellsArray.mono (h : ∀ cs v, rel cs v → rel' cs v) (hvs : SpellsArray rel cs vs) :
    SpellsArray rel' cs vs := by
  cases hvs with
  | empty hbs => exact .empty hbs
  | items hitems => exact .items (hitems.mono h)

/-- What holds of all elements holds of those of an array. -/
theorem SpellsArray.forall {p : Value → Prop} (h : ∀ cs v, rel cs v → p v)
    (hvs : SpellsArray rel cs vs) : ∀ v ∈ vs, p v := by
  cases hvs with
  | empty _ => exact fun v hv => absurd hv List.not_mem_nil
  | items hitems =>
    induction hitems with
    | last hv =>
      obtain ⟨-, hv, -⟩ := hv
      exact fun w hw => List.mem_singleton.mp hw ▸ h _ _ hv
    | more hv _ ih =>
      obtain ⟨-, hv, -⟩ := hv
      exact List.forall_mem_cons.mpr ⟨h _ _ hv, ih⟩

theorem SpellsItems.exists_eq_cons (h : SpellsItems rel cs vs) : ∃ w ws, vs = w :: ws := by
  cases h <;> exact ⟨_, _, rfl⟩

/-- The text of an array is respelled item by item. -/
theorem SpellsArray.respell_append
    (h : ∀ cs v, rel cs v → ∀ rest, respell (dropAllBlanks cs ++ rest) = v.toChars ++ respell rest)
    (hvs : SpellsArray rel cs vs) (rest : List Char) :
    respell (dropAllBlanks cs ++ rest) = (Value.array vs).toChars ++ respell rest := by
  have hpadded : ∀ {cs v}, Padded rel cs v → ∀ rest,
      respell (dropAllBlanks cs ++ rest) = v.toChars ++ respell rest := by
    rintro _ v ⟨hfront, hv, hback⟩ rest
    rw [dropAllBlanks_append, dropAllBlanks_append, hfront.dropAllBlanks_eq, hback.dropAllBlanks_eq,
      List.nil_append, List.append_nil]
    exact h _ v hv rest
  have hitems : ∀ {cs vs}, SpellsItems rel cs vs → ∀ rest,
      respell (dropAllBlanks cs ++ rest) = Value.itemsChars vs ++ respell rest := by
    intro cs vs hvs rest
    induction hvs with
    | last hv =>
      rw [hpadded hv, Value.itemsChars]
    | more hv hvs ih =>
      obtain ⟨w, ws, rfl⟩ := hvs.exists_eq_cons
      rw [itemsChars_cons_cons, dropAllBlanks_append, dropAllBlanks_cons (by decide),
        List.append_assoc, List.cons_append, hpadded hv, respell_of_ne (by decide), ih,
        List.append_assoc, List.cons_append]
  cases hvs with
  | empty hbs =>
    rw [dropAllBlanks_cons (by decide), dropAllBlanks_append, hbs.dropAllBlanks_eq,
      List.cons_append, respell_of_ne (by decide)]
    show '[' :: respell (']' :: rest) = _
    rw [respell_of_ne (by decide)]
    rfl
  | items hvs =>
    rw [dropAllBlanks_cons (by decide), dropAllBlanks_append, List.cons_append,
      respell_of_ne (by decide), List.append_assoc, hitems hvs]
    show _ :: (_ ++ respell (']' :: rest)) = _
    rw [respell_of_ne (by decide), Value.toChars]
    simp only [List.cons_append, List.append_assoc, List.nil_append]

end Elements

/-- **What is written for literals in arrays is their text respelled**, without
blanks. -/
theorem SpellsNumerals.respell_append {levels : Nat} {cs : List Char} {v : Value}
    (h : SpellsNumerals levels cs v) (rest : List Char) :
    respell (dropAllBlanks cs ++ rest) = v.toChars ++ respell rest := by
  have hliteral : ∀ {cs : List Char} {v : Value} (rest : List Char),
      (∃ n, v = .number n ∧ SpellsNumber cs n) →
      respell (dropAllBlanks cs ++ rest) = v.toChars ++ respell rest := by
    rintro cs _ rest ⟨n, rfl, hn⟩
    rw [hn.dropAllBlanks_eq, hn.respell_append, Value.toChars]
  induction levels generalizing cs v rest with
  | zero => exact hliteral rest h
  | succ levels ih =>
    rcases h with h | ⟨vs, rfl, hvs⟩
    · exact hliteral rest h
    · exact hvs.respell_append (fun _ _ h rest => ih h rest) rest

/-- Literals in arrays are JSON, wherever there are levels enough, … -/
theorem SpellsNumerals.spells {levels n : Nat} (hn : levels ≤ n) {cs : List Char} {v : Value}
    (h : SpellsNumerals levels cs v) : Spells n cs v := by
  have hliteral : ∀ {n : Nat} {cs : List Char} {v : Value},
      (∃ k, v = .number k ∧ SpellsNumber cs k) → Spells n cs v := by
    rintro n cs _ ⟨k, rfl, hk⟩
    cases n with
    | zero => exact .number hk
    | succ n => exact Or.inl (.number hk)
  induction levels generalizing cs v n with
  | zero => exact hliteral h
  | succ levels ih =>
    obtain ⟨n, rfl⟩ := Nat.exists_eq_add_one_of_ne_zero (Nat.ne_zero_of_lt hn)
    rcases h with h | ⟨vs, rfl, hvs⟩
    · exact hliteral h
    · exact Or.inr (Or.inl ⟨vs, rfl, hvs.mono fun _ _ => ih (Nat.le_of_succ_le_succ hn)⟩)

/-- … where their values can be read, … -/
theorem SpellsNumerals.fits {levels : Nat} {cs : List Char} {v : Value}
    (h : SpellsNumerals levels cs v) : v.Fits levels := by
  induction levels generalizing cs v with
  | zero =>
    obtain ⟨n, rfl, -⟩ := h
    exact Value.fits_scalar (by simp) (by simp) 0
  | succ levels ih =>
    rcases h with ⟨n, rfl, -⟩ | ⟨vs, rfl, hvs⟩
    · exact Value.fits_scalar (by simp) (by simp) _
    · exact (Value.fits_array_iff vs levels).mpr (hvs.forall fun _ _ => ih)

/-- … and none of them is a string. -/
theorem SpellsNumerals.asString?_eq_none {levels : Nat} {cs : List Char} {v : Value}
    (h : SpellsNumerals levels cs v) : v.asString? = none := by
  cases levels with
  | zero =>
    obtain ⟨n, rfl, -⟩ := h
    rfl
  | succ levels =>
    rcases h with ⟨n, rfl, -⟩ | ⟨vs, rfl, -⟩
    · rfl
    · rfl

end EchoProbe.Json
