import EchoProbe.Proofs.Json.Number
import EchoProbe.Json.Printer

/-!
# The indented form without its blanks

The indented form of a value is its compact form with line breaks and spaces
between the parts. They stand outside the strings, while the blanks inside
strings belong to the value. `dropBlanks` takes the former away and keeps the
latter: it goes through a text and keeps account of whether it is inside a
string, which a quote begins and the next quote without a backslash ends.

`dropBlanks_prettyChars` says that this makes the compact form of the indented
one. Each part of a value is followed here by an arbitrary rest, whose blanks
are dropped as well.
-/

namespace EchoProbe.Json

open EchoProbe.Text

/-- A text without the blanks outside its strings; the flag tells whether it
begins inside of one. -/
def dropBlanks : Bool → List Char → List Char
  | _, [] => []
  | false, c :: cs => if isBlank c then dropBlanks false cs else c :: dropBlanks (c == '"') cs
  | true, '\\' :: c :: cs => '\\' :: c :: dropBlanks true cs
  | true, c :: cs => c :: dropBlanks (c != '"') cs

/-- **A text without the blanks outside its strings.** -/
def compact (text : String) : String := String.ofList (dropBlanks false text.toList)

/-! ## Outside of strings -/

theorem dropBlanks_blank {c : Char} (h : isBlank c = true) (cs : List Char) :
    dropBlanks false (c :: cs) = dropBlanks false cs := by
  rw [dropBlanks, if_pos h]

theorem dropBlanks_plain {c : Char} (h : isBlank c = false) (hquote : c ≠ '"') (cs : List Char) :
    dropBlanks false (c :: cs) = c :: dropBlanks false cs := by
  rw [dropBlanks, h, beq_eq_false_iff_ne.mpr hquote]
  rfl

/-- Characters that are neither blanks nor quotes are kept. -/
theorem dropBlanks_plain_append {cs : List Char}
    (h : ∀ c ∈ cs, isBlank c = false ∧ c ≠ '"') (rest : List Char) :
    dropBlanks false (cs ++ rest) = cs ++ dropBlanks false rest := by
  induction cs with
  | nil => rfl
  | cons c cs ih =>
    obtain ⟨hc, hcs⟩ := List.forall_mem_cons.mp h
    rw [List.cons_append, dropBlanks_plain hc.1 hc.2, ih hcs, List.cons_append]

/-- A line break and the spaces behind it are dropped. -/
theorem dropBlanks_newline (level : Nat) (rest : List Char) :
    dropBlanks false (Value.newline level ++ rest) = dropBlanks false rest := by
  have hspaces : ∀ n, dropBlanks false (List.replicate n ' ' ++ rest) = dropBlanks false rest := by
    intro n
    induction n with
    | zero => rfl
    | succ n ih =>
      rw [List.replicate_succ, List.cons_append, dropBlanks_blank (by decide), ih]
  rw [Value.newline, List.cons_append, dropBlanks_blank (by decide), hspaces]

/-! ## Numbers and strings -/

theorem digitChars_plain (ds : List Digit) :
    ∀ c ∈ digitChars ds, isBlank c = false ∧ c ≠ '"' := by
  have hdigit : ∀ d : Digit, isBlank d.toChar = false ∧ d.toChar ≠ '"' := by decide
  intro c hc
  obtain ⟨d, -, rfl⟩ := List.mem_map.mp hc
  exact hdigit d

/-- There are neither blanks nor quotes in a number. -/
theorem Number.toChars_plain (n : Number) :
    ∀ c ∈ n.toChars, isBlank c = false ∧ c ≠ '"' := by
  have hsign : ∀ c ∈ n.signChars, isBlank c = false ∧ c ≠ '"' := by
    unfold signChars
    cases n.negative with
    | false => exact fun _ => nofun
    | true => exact List.forall_mem_singleton.mpr (by decide)
  have hfraction : ∀ c ∈ n.fractionChars, isBlank c = false ∧ c ≠ '"' := by
    unfold fractionChars
    cases n.fraction with
    | none => exact fun c hc => absurd hc List.not_mem_nil
    | some ds => exact List.forall_mem_cons.mpr ⟨by decide, digitChars_plain _⟩
  have hexponent : ∀ c ∈ n.exponentChars, isBlank c = false ∧ c ≠ '"' := by
    unfold exponentChars
    cases n.exponent with
    | none => exact fun c hc => absurd hc List.not_mem_nil
    | some e =>
      refine List.forall_mem_cons.mpr ⟨by decide, List.forall_mem_cons.mpr ⟨?_, digitChars_plain _⟩⟩
      by_cases hnegative : e.negative = true
      · rw [if_pos hnegative]
        decide
      · rw [if_neg hnegative]
        decide
  rw [toChars]
  simp only [List.forall_mem_append]
  exact ⟨⟨⟨hsign, digitChars_plain _⟩, hfraction⟩, hexponent⟩

theorem dropBlanks_inside {c : Char} (hquote : c ≠ '"') (hslash : c ≠ '\\') (cs : List Char) :
    dropBlanks true (c :: cs) = c :: dropBlanks true cs := by
  rw [dropBlanks]
  · rw [bne_iff_ne.mpr hquote]
  · rintro d ds rfl
    exact absurd rfl hslash

theorem hexDigit_plain : ∀ n < 16, hexDigit n ≠ '"' ∧ hexDigit n ≠ '\\' := by decide

/-- However a character is written in a string, the string goes on behind it. -/
theorem dropBlanks_escapeChar (c : Char) (rest : List Char) :
    dropBlanks true (escapeChar c ++ rest) = escapeChar c ++ dropBlanks true rest := by
  unfold escapeChar
  split
  iterate 7 rfl
  next hquote hslash _ _ _ _ _ =>
    by_cases hcontrol : c.toNat < 0x20
    · obtain ⟨hhigh, hhigh'⟩ := hexDigit_plain (c.toNat / 16) (by omega)
      obtain ⟨hlow, hlow'⟩ := hexDigit_plain (c.toNat % 16) (by omega)
      rw [if_pos hcontrol]
      show '\\' :: 'u' :: '0' :: '0' :: dropBlanks true (hexDigit (c.toNat / 16) ::
        hexDigit (c.toNat % 16) :: rest) = _
      rw [dropBlanks_inside hhigh hhigh', dropBlanks_inside hlow hlow']
      rfl
    · rw [if_neg hcontrol]
      exact dropBlanks_inside hquote hslash rest

/-- **A string is kept as it is.** -/
theorem dropBlanks_quoteChars (s rest : List Char) :
    dropBlanks false (quoteChars s ++ rest) = quoteChars s ++ dropBlanks false rest := by
  have hinside : dropBlanks true (s.flatMap escapeChar ++ ('"' :: rest))
      = s.flatMap escapeChar ++ ('"' :: dropBlanks false rest) := by
    induction s with
    | nil => rfl
    | cons c s ih =>
      rw [List.flatMap_cons, List.append_assoc, dropBlanks_escapeChar, ih, List.append_assoc]
  show '"' :: dropBlanks true (s.flatMap escapeChar ++ ['"'] ++ rest) = _
  rw [List.append_assoc, List.singleton_append, hinside]
  simp only [quoteChars, List.cons_append, List.append_assoc, List.nil_append]

/-! ## Values -/

namespace Value

mutual

/-- **Without its blanks the indented form is the compact one.** -/
theorem dropBlanks_prettyChars (level : Nat) : (v : Value) → (rest : List Char) →
    dropBlanks false (v.prettyChars level ++ rest) = v.toChars ++ dropBlanks false rest
  | .null, _ => rfl
  | .bool true, _ => rfl
  | .bool false, _ => rfl
  | .number n, rest => by
    rw [prettyChars, toChars, dropBlanks_plain_append n.toChars_plain]
  | .string s, rest => by
    rw [prettyChars, toChars, dropBlanks_quoteChars]
  | .array [], _ => rfl
  | .object [], _ => rfl
  | .array (v :: vs), rest => by
    rw [prettyChars, toChars]
    · simp only [List.cons_append, List.append_assoc, List.nil_append]
      rw [dropBlanks_plain (by decide) (by decide), dropBlanks_prettyItems, dropBlanks_newline,
        dropBlanks_plain (by decide) (by decide)]
    · exact List.cons_ne_nil v vs
  | .object (m :: ms), rest => by
    rw [prettyChars, toChars]
    · simp only [List.cons_append, List.append_assoc, List.nil_append]
      rw [dropBlanks_plain (by decide) (by decide), dropBlanks_prettyMembers, dropBlanks_newline,
        dropBlanks_plain (by decide) (by decide)]
    · exact List.cons_ne_nil m ms

/-- Each item is on a line of its own. -/
theorem dropBlanks_prettyItems (level : Nat) : (vs : List Value) → (rest : List Char) →
    dropBlanks false (prettyItems level vs ++ rest) = itemsChars vs ++ dropBlanks false rest
  | [], _ => rfl
  | [v], rest => by
    rw [prettyItems, itemsChars, List.append_assoc, dropBlanks_newline, dropBlanks_prettyChars]
  | v :: w :: vs, rest => by
    rw [prettyItems, itemsChars]
    · simp only [List.cons_append, List.append_assoc]
      rw [dropBlanks_newline, dropBlanks_prettyChars, dropBlanks_plain (by decide) (by decide),
        dropBlanks_prettyItems]
    · exact List.cons_ne_nil w vs
    · exact List.cons_ne_nil w vs

/-- So is each member, with a space behind its colon. -/
theorem dropBlanks_prettyMembers (level : Nat) : (ms : List (String × Value)) →
    (rest : List Char) →
    dropBlanks false (prettyMembers level ms ++ rest) = membersChars ms ++ dropBlanks false rest
  | [], _ => rfl
  | [m], rest => by
    rw [prettyMembers, membersChars]
    simp only [List.cons_append, List.append_assoc]
    rw [dropBlanks_newline, dropBlanks_quoteChars, dropBlanks_plain (by decide) (by decide),
      dropBlanks_blank (by decide), dropBlanks_prettyChars]
  | m :: n :: ms, rest => by
    rw [prettyMembers, membersChars]
    · simp only [List.cons_append, List.append_assoc]
      rw [dropBlanks_newline, dropBlanks_quoteChars, dropBlanks_plain (by decide) (by decide),
        dropBlanks_blank (by decide), dropBlanks_prettyChars,
        dropBlanks_plain (by decide) (by decide), dropBlanks_prettyMembers]
    · exact List.cons_ne_nil n ms
    · exact List.cons_ne_nil n ms

end

/-- **The indented text without its blanks is the compact text.** -/
theorem compact_toPrettyText (v : Value) : compact v.toPrettyText = v.toText := by
  have h := dropBlanks_prettyChars 0 v []
  rw [List.append_nil, dropBlanks, List.append_nil] at h
  rw [compact, toPrettyText, String.toList_ofList, h, toText]

end Value

end EchoProbe.Json
