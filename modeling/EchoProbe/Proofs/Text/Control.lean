import EchoProbe.Duration
import EchoProbe.Json.Printer

/-!
# Texts without control characters

Numbers, spans of time and the compact form of a JSON value hold no control character, for in
the last of these each is written as an escape (`noControl_toText`). So where such a text stands
among others, a line feed or an escape character is one of the others
(`NoControl.not_mem_append_iff`).
-/

namespace EchoProbe.Text

/-- **A control character** is one in front of the blank. -/
def IsControl (c : Char) : Prop := c.toNat < 0x20

instance (c : Char) : Decidable (IsControl c) :=
  inferInstanceAs (Decidable (c.toNat < 0x20))

/-- **A text without control characters.** -/
def NoControl (cs : List Char) : Prop := ∀ c ∈ cs, ¬ IsControl c

instance (cs : List Char) : Decidable (NoControl cs) :=
  List.decidableBAll (fun c => ¬ IsControl c) cs

@[simp] theorem noControl_nil : NoControl [] := List.forall_mem_nil _

@[simp] theorem noControl_cons {c : Char} {cs : List Char} :
    NoControl (c :: cs) ↔ ¬ IsControl c ∧ NoControl cs :=
  List.forall_mem_cons

@[simp] theorem noControl_append {cs ds : List Char} :
    NoControl (cs ++ ds) ↔ NoControl cs ∧ NoControl ds :=
  List.forall_mem_append

theorem noControl_flatMap {α : Type} {f : α → List Char} {as : List α}
    (h : ∀ a ∈ as, NoControl (f a)) : NoControl (as.flatMap f) := by
  intro c hc
  obtain ⟨a, ha, hc⟩ := List.mem_flatMap.mp hc
  exact h a ha c hc

section Among

variable {c : Char} {front text back : String}

theorem NoControl.not_mem {cs : List Char} (h : NoControl cs) (hc : IsControl c) : c ∉ cs :=
  fun hmem => h c hmem hc

/-- In front of other texts, … -/
theorem NoControl.not_mem_append_iff (hfront : NoControl front.toList) (hc : IsControl c) :
    c ∉ (front ++ text).toList ↔ c ∉ text.toList := by
  rw [String.toList_append, List.mem_append, not_or, and_iff_right (hfront.not_mem hc)]

/-- … and behind them, a text without control characters makes no difference to these. -/
theorem NoControl.not_mem_append_right_iff (hback : NoControl back.toList) (hc : IsControl c) :
    c ∉ (text ++ back).toList ↔ c ∉ text.toList := by
  rw [String.toList_append, List.mem_append, not_or, and_iff_left (hback.not_mem hc)]

end Among

/-! ### Numbers -/

theorem not_isControl_ofNat {n : Nat} (h : 0x20 ≤ n) (hvalid : n < 0xD800) :
    ¬ IsControl (Char.ofNat n) := by
  have hchar : (Char.ofNat n).toNat = n := by
    rw [Char.ofNat, dif_pos (Or.inl hvalid)]
    rfl
  rw [IsControl, hchar]
  omega

theorem noControl_digitChars (ds : List Digit) : NoControl (digitChars ds) := by
  intro c hc
  obtain ⟨d, -, rfl⟩ := List.mem_map.mp hc
  exact not_isControl_ofNat (by omega) (by omega)

@[simp] theorem noControl_decimal (n : Nat) : NoControl (decimal n).toList := by
  rw [decimal, String.toList_ofList]
  exact noControl_digitChars _

@[simp] theorem noControl_decimalPadded (width n : Nat) :
    NoControl (decimalPadded width n).toList := by
  rw [decimalPadded, String.toList_ofList]
  exact noControl_digitChars _

theorem not_isControl_hexDigit {n : Nat} (h : n < 16) : ¬ IsControl (hexDigit n) := by
  unfold hexDigit
  split <;> exact not_isControl_ofNat (by omega) (by omega)

theorem noControl_hexChars (n : Nat) : NoControl (hexChars n) := by
  induction n using Nat.strongRecOn with
  | ind n ih =>
    rw [hexChars]
    split
    · next hn => exact noControl_cons.mpr ⟨not_isControl_hexDigit hn, noControl_nil⟩
    · exact noControl_append.mpr ⟨ih (n / 16) (by omega),
        noControl_cons.mpr ⟨not_isControl_hexDigit (by omega), noControl_nil⟩⟩

@[simp] theorem noControl_hexadecimal (n : Nat) : NoControl (hexadecimal n).toList := by
  rw [hexadecimal, String.toList_ofList]
  exact noControl_hexChars n

/-! ### Spans of time -/

theorem noControl_symbol (d : Duration) : NoControl d.unit.symbol.toList := by
  unfold Duration.unit
  repeat' split
  all_goals decide

theorem noControl_fractionText (places fraction : Nat) :
    NoControl (Duration.fractionText places fraction).toList := by
  unfold Duration.fractionText
  dsimp only
  split
  · decide
  · rw [String.toList_ofList, noControl_cons]
    refine ⟨by decide, fun c hc => noControl_decimalPadded places fraction c ?_⟩
    -- what is left of the digits is some of them
    exact List.mem_reverse.mp ((List.dropWhile_sublist _).subset (List.mem_reverse.mp hc))

@[simp] theorem noControl_duration (d : Duration) : NoControl d.toText.toList := by
  simp [Duration.toText, noControl_symbol, noControl_fractionText]

@[simp] theorem noControl_shortDuration (d : Duration) : NoControl d.toShortText.toList := by
  simp [Duration.toShortText, IsControl, noControl_symbol]

/-! ### JSON -/

theorem noControl_escapeChar (c : Char) : NoControl (Json.escapeChar c) := by
  unfold Json.escapeChar
  split
  all_goals try decide
  -- left are the characters without a letter of their own
  split
  · next hcontrol =>
    have hfront : NoControl ['\\', 'u', '0', '0'] := by decide
    refine noControl_append.mpr ⟨hfront, ?_⟩
    simp [not_isControl_hexDigit (show c.toNat / 16 < 16 by omega),
      not_isControl_hexDigit (show c.toNat % 16 < 16 by omega)]
  · next hcontrol => exact noControl_cons.mpr ⟨hcontrol, noControl_nil⟩

theorem noControl_quoteChars (s : List Char) : NoControl (Json.quoteChars s) := by
  have hflat : NoControl (s.flatMap Json.escapeChar) :=
    noControl_flatMap fun c _ => noControl_escapeChar c
  simp [Json.quoteChars, IsControl, hflat]

theorem noControl_number (n : Json.Number) : NoControl n.toChars := by
  have hsign : NoControl n.signChars := by
    unfold Json.Number.signChars
    split <;> decide
  have hfraction : NoControl n.fractionChars := by
    unfold Json.Number.fractionChars
    split
    · exact noControl_nil
    · exact noControl_cons.mpr ⟨by decide, noControl_digitChars _⟩
  have hexponent : NoControl n.exponentChars := by
    unfold Json.Number.exponentChars
    split
    · exact noControl_nil
    · refine noControl_cons.mpr ⟨by decide, noControl_cons.mpr ⟨?_, noControl_digitChars _⟩⟩
      split <;> decide
  simp [Json.Number.toChars, hsign, hfraction, hexponent, noControl_digitChars]

mutual

/-- **The compact form of a value has no control characters.** -/
theorem noControl_toChars : (v : Json.Value) → NoControl v.toChars
  | .null => by decide
  | .bool true => by decide
  | .bool false => by decide
  | .number n => noControl_number n
  | .string s => noControl_quoteChars s.toList
  | .array items => by simp [Json.Value.toChars, IsControl, noControl_itemsChars items]
  | .object members => by simp [Json.Value.toChars, IsControl, noControl_membersChars members]

/-- So it is for the items of an array, … -/
theorem noControl_itemsChars : (vs : List Json.Value) → NoControl (Json.Value.itemsChars vs)
  | [] => noControl_nil
  | [v] => noControl_toChars v
  | v :: w :: vs => by
    simp [Json.Value.itemsChars, IsControl, noControl_toChars v, noControl_itemsChars (w :: vs)]

/-- … and for the members of an object. -/
theorem noControl_membersChars : (ms : List (String × Json.Value)) →
    NoControl (Json.Value.membersChars ms)
  | [] => noControl_nil
  | [m] => by
    simp [Json.Value.membersChars, IsControl, noControl_quoteChars, noControl_toChars m.2]
  | m :: n :: ms => by
    simp [Json.Value.membersChars, IsControl, noControl_quoteChars, noControl_toChars m.2,
      noControl_membersChars (n :: ms)]

end

@[simp] theorem noControl_toText (v : Json.Value) : NoControl v.toText.toList := by
  rw [Json.Value.toText, String.toList_ofList]
  exact noControl_toChars v

end EchoProbe.Text
