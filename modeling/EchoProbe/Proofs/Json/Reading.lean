import EchoProbe.Proofs.Json.Members
import EchoProbe.Proofs.Json.Number
import EchoProbe.Proofs.Json.Text
import EchoProbe.Proofs.Json.Value
import EchoProbe.Proofs.Yields

/-!
# A written value is read back exactly if it fits

Writing a value and reading the text gives the value again, if there are
levels enough for its depth and no object in it is led by `numberMarker`
(`Value.Fits`); otherwise nothing is read. `ReadsBack` says this of one value
and a reader, behind an arbitrary rest that ends a number.

The induction is on the levels: at each of them, the items of an array and
the members of an object are read by the reader of the level below. So the
lists are treated for any reader that reads their elements back, and the
induction itself (`readValue_readsBack`) only puts them together.
-/

namespace EchoProbe.Json

open EchoProbe.Text Value

/-- **A reader gives a value back** that fits, whatever follows its text, and
refuses one that does not. -/
def ReadsBack (item : List Char → Except Fault (Value × List Char)) (fits : Value → Prop)
    (v : Value) : Prop :=
  ∀ cs : List Char, EndsNumber cs → Yields (item (v.toChars ++ cs)) (v, cs) (fits v)

/-! ## How a value begins -/

/-- A written value begins with no blank and does not look like the end of
an array. -/
theorem Value.exists_toChars (v : Value) :
    ∃ (c : Char) (cs : List Char), v.toChars = c :: cs ∧ isBlank c = false ∧ c ≠ ']' := by
  cases v with
  | null => exact ⟨'n', _, rfl, by decide⟩
  | bool b =>
    cases b with
    | true => exact ⟨'t', _, rfl, by decide⟩
    | false => exact ⟨'f', _, rfl, by decide⟩
  | number n =>
    obtain ⟨c, cs, heq, rfl | ⟨d, rfl⟩⟩ := n.exists_toChars
    · exact ⟨'-', cs, heq, by decide⟩
    · refine ⟨d.toChar, cs, heq, ?_⟩
      clear heq
      revert d; decide
  | string s => exact ⟨'"', _, rfl, by decide⟩
  | array vs => exact ⟨'[', _, by rw [toChars, List.cons_append], by decide⟩
  | object ms => exact ⟨'{', _, by rw [toChars, List.cons_append], by decide⟩

theorem skipBlanks_cons {c : Char} (cs : List Char) (h : isBlank c = false) :
    skipBlanks (c :: cs) = c :: cs := by
  rw [skipBlanks, List.dropWhile_cons, h]
  rfl

/-- No blanks are skipped in front of a written value. -/
theorem skipBlanks_toChars (v : Value) (cs : List Char) :
    skipBlanks (v.toChars ++ cs) = v.toChars ++ cs := by
  obtain ⟨c, ds, heq, hc, -⟩ := v.exists_toChars
  rw [heq, List.cons_append, skipBlanks_cons _ hc]

/-! ## Values without parts -/

/-- What begins with a minus or a digit is read as a number. -/
theorem readScalar_number {c : Char} (cs : List Char)
    (h : c = '-' ∨ ∃ d : Digit, c = d.toChar) :
    readScalar (c :: cs)
      = (readNumber (c :: cs)).map fun p => (Value.number p.1, p.2) := by
  have hne : c ≠ 'n' ∧ c ≠ 't' ∧ c ≠ 'f' ∧ c ≠ '"' := by
    rcases h with rfl | ⟨d, rfl⟩
    · decide
    · revert d; decide
  have hnumber : (c = '-' || (Digit.ofChar? c).isSome) = true := by
    rcases h with rfl | ⟨d, rfl⟩
    · rfl
    · rw [Digit.ofChar?_toChar, Option.isSome_some, Bool.or_true]
  unfold readScalar
  -- each word and the quote begin with another character
  split
  · next heq => exact absurd heq (by simp)
  · next heq => exact absurd (List.cons.inj heq).1 hne.1
  · next heq => exact absurd (List.cons.inj heq).1 hne.2.1
  · next heq => exact absurd (List.cons.inj heq).1 hne.2.2.1
  · next heq => exact absurd (List.cons.inj heq).1 hne.2.2.2
  · next heq =>
    obtain ⟨rfl, rfl⟩ := List.cons.inj heq
    rw [if_pos hnumber]

/-- **A written number, string or word is read back.** -/
theorem readScalar_toChars {v : Value} (harray : ∀ vs, v ≠ .array vs)
    (hobject : ∀ ms, v ≠ .object ms) {cs : List Char} (hcs : EndsNumber cs) :
    readScalar (v.toChars ++ cs) = .ok (v, cs) := by
  cases v with
  | null => rfl
  | bool b => cases b <;> rfl
  | number n =>
    obtain ⟨c, ds, heq, hc⟩ := n.exists_toChars
    have hread := readNumber_toChars n hcs
    rw [heq] at hread
    rw [toChars, heq, List.cons_append, readScalar_number _ hc, ← List.cons_append, hread]
    rfl
  | string s =>
    obtain ⟨ds, heq, hread⟩ := readString_quoteChars s.toList cs
    rw [toChars, heq, readScalar, hread]
    show Except.ok (Value.string (String.ofList s.toList), cs) = _
    rw [String.ofList_toList]
  | array vs => exact absurd rfl (harray vs)
  | object ms => exact absurd rfl (hobject ms)

/-! ## Lists of items -/

section Lists

variable {item : List Char → Except Fault (Value × List Char)} {fits : Value → Prop}

theorem itemsChars_cons_cons (v w : Value) (vs : List Value) :
    itemsChars (v :: w :: vs) = v.toChars ++ ',' :: itemsChars (w :: vs) := by
  rw [itemsChars]
  exact fun h => List.cons_ne_nil w vs h

theorem length_le_itemsChars (vs : List Value) : vs.length ≤ (itemsChars vs).length := by
  match vs with
  | [] => exact Nat.zero_le _
  | [v] =>
    obtain ⟨c, cs, heq, -⟩ := v.exists_toChars
    rw [itemsChars, heq]
    simp only [List.length_cons, List.length_nil]
    omega
  | v :: w :: vs =>
    have := length_le_itemsChars (w :: vs)
    simp only [itemsChars_cons_cons, List.length_append, List.length_cons] at this ⊢
    omega

/-- **The items of an array are read back** if each of them fits. The fuel
suffices for all of them. -/
theorem readItems_itemsChars {vs : List Value} (hne : vs ≠ [])
    (hitem : ∀ v ∈ vs, ReadsBack item fits v) (fuel : Nat) (hfuel : vs.length ≤ fuel)
    (rest : List Char) :
    Yields (readItems item fuel (itemsChars vs ++ ']' :: rest)) (vs, rest) (∀ v ∈ vs, fits v) := by
  match vs, fuel with
  | [v], fuel + 1 =>
    have hv : Yields (item (v.toChars ++ ']' :: rest)) (v, ']' :: rest) (fits v) :=
      hitem v List.mem_cons_self _ (endsNumber_cons rest (by decide))
    rw [itemsChars, readItems, List.forall_mem_singleton]
    refine hv.andThen_ok (fun hread => ?_) fun e he => ⟨e, by rw [he]⟩
    rw [hread]
    simp only [skipBlanks_cons rest (show isBlank ']' = false by decide)]
  | v :: w :: vs, fuel + 1 =>
    have hv : Yields (item (v.toChars ++ ',' :: (itemsChars (w :: vs) ++ ']' :: rest)))
        (v, ',' :: (itemsChars (w :: vs) ++ ']' :: rest)) (fits v) :=
      hitem v List.mem_cons_self _ (endsNumber_cons _ (by decide))
    have hvs := readItems_itemsChars (List.cons_ne_nil w vs)
      (fun u hu => hitem u (List.mem_cons_of_mem v hu)) fuel (Nat.le_of_succ_le_succ hfuel) rest
    rw [itemsChars_cons_cons, List.append_assoc, List.cons_append, readItems,
      List.forall_mem_cons]
    refine hv.andThen (fun hread => ?_) fun e he => ⟨e, by rw [he]⟩
    rw [hread]
    simp only [skipBlanks_cons _ (show isBlank ',' = false by decide)]
    exact hvs.andThen_ok (fun hrest => by rw [hrest]) fun e he => ⟨e, by rw [he]⟩

/-! ## Lists of members -/

theorem membersChars_cons_cons (m n : String × Value) (ms : Members) :
    membersChars (m :: n :: ms)
      = quoteChars m.1.toList ++ ':' :: (m.2.toChars ++ ',' :: membersChars (n :: ms)) := by
  rw [membersChars, List.append_assoc, List.cons_append]
  exact fun h => List.cons_ne_nil n ms h

theorem length_le_membersChars (ms : Members) : ms.length ≤ (membersChars ms).length := by
  match ms with
  | [] => exact Nat.zero_le _
  | [m] =>
    simp only [membersChars, List.length_append, List.length_cons, List.length_nil]
    omega
  | m :: n :: ms =>
    have := length_le_membersChars (n :: ms)
    simp only [membersChars_cons_cons, List.length_append, List.length_cons] at this ⊢
    omega

/-- **A written name is read back**, with the colon behind it. -/
theorem readName_quoteChars (name : String) (cs : List Char) :
    readName (quoteChars name.toList ++ ':' :: cs) = .ok (name, cs) := by
  obtain ⟨ds, heq, hread⟩ := readString_quoteChars name.toList (':' :: cs)
  rw [heq, readName, skipBlanks_cons ds (by decide)]
  simp only [hread, skipBlanks_cons cs (show isBlank ':' = false by decide), String.ofList_toList]

/-- **The members of an object are read back** if each of them fits, in the
order in which they are written. -/
theorem readMembers_membersChars {ms : Members} (hne : ms ≠ [])
    (hitem : ∀ m ∈ ms, ReadsBack item fits m.2) (fuel : Nat) (hfuel : ms.length ≤ fuel)
    (rest : List Char) :
    Yields (readMembers item fuel (membersChars ms ++ '}' :: rest)) (ms, rest)
      (∀ m ∈ ms, fits m.2) := by
  match ms, fuel with
  | [m], fuel + 1 =>
    have hm : Yields (item (m.2.toChars ++ '}' :: rest)) (m.2, '}' :: rest) (fits m.2) :=
      hitem m List.mem_cons_self _ (endsNumber_cons rest (by decide))
    rw [membersChars, List.append_assoc, List.cons_append, readMembers, readName_quoteChars,
      List.forall_mem_singleton]
    refine hm.andThen_ok (fun hread => ?_) fun e he => ⟨e, by simp only [he]⟩
    simp only [hread, skipBlanks_cons rest (show isBlank '}' = false by decide)]
  | m :: n :: ms, fuel + 1 =>
    have hm : Yields (item (m.2.toChars ++ ',' :: (membersChars (n :: ms) ++ '}' :: rest)))
        (m.2, ',' :: (membersChars (n :: ms) ++ '}' :: rest)) (fits m.2) :=
      hitem m List.mem_cons_self _ (endsNumber_cons _ (by decide))
    have hms := readMembers_membersChars (List.cons_ne_nil n ms)
      (fun l hl => hitem l (List.mem_cons_of_mem m hl)) fuel (Nat.le_of_succ_le_succ hfuel) rest
    rw [membersChars_cons_cons, List.append_assoc, List.cons_append, List.append_assoc,
      List.cons_append, readMembers, readName_quoteChars, List.forall_mem_cons]
    refine hm.andThen (fun hread => ?_) fun e he => ⟨e, by simp only [he]⟩
    simp only [hread, skipBlanks_cons _ (show isBlank ',' = false by decide)]
    exact hms.andThen_ok (fun hrest => by rw [hrest]) fun e he => ⟨e, by rw [he]⟩

/-! ## Arrays and objects -/

/-- Behind the opening bracket of a written array stands an item, if there is
one. -/
theorem skipBlanks_itemsChars (v : Value) (vs : List Value) (cs : List Char) :
    skipBlanks (itemsChars (v :: vs) ++ cs) = itemsChars (v :: vs) ++ cs ∧
      ∀ ds, itemsChars (v :: vs) ++ cs ≠ ']' :: ds := by
  obtain ⟨c, es, heq, hc, hne⟩ := v.exists_toChars
  obtain ⟨ds, hds⟩ : ∃ ds, itemsChars (v :: vs) ++ cs = c :: ds := by
    cases vs with
    | nil => exact ⟨_, by rw [itemsChars, heq, List.cons_append]⟩
    | cons w vs => exact ⟨_, by rw [itemsChars_cons_cons, heq, List.cons_append, List.cons_append]⟩
  rw [hds]
  exact ⟨skipBlanks_cons ds hc, fun ds h => hne (List.cons.inj h).1⟩

/-- **An array is read back** if each of its items fits. -/
theorem readArray_itemsChars {vs : List Value} (hitem : ∀ v ∈ vs, ReadsBack item fits v)
    (rest : List Char) :
    Yields (readArray item (itemsChars vs ++ ']' :: rest)) (.array vs, rest)
      (∀ v ∈ vs, fits v) := by
  match vs with
  | [] =>
    rw [itemsChars, List.nil_append, readArray, skipBlanks_cons rest (by decide)]
    exact .ok fun v hv => absurd hv List.not_mem_nil
  | v :: vs =>
    obtain ⟨hskip, hopen⟩ := skipBlanks_itemsChars v vs (']' :: rest)
    have hread := readItems_itemsChars (List.cons_ne_nil v vs) hitem
      ((itemsChars (v :: vs) ++ ']' :: rest).length + 1) (by
        have := length_le_itemsChars (v :: vs)
        rw [List.length_append]
        omega) rest
    rw [readArray, hskip]
    split
    · next heq => exact absurd heq (hopen _)
    · exact hread.andThen_ok (fun hok => by rw [hok]) fun e he => ⟨e, by rw [he]⟩

variable (item) in
/-- The first member decides what stands behind an opening brace. -/
theorem readObject_membersChars (m : String × Value) (ms : Members) (rest : List Char) :
    ∃ cs, readName (membersChars (m :: ms) ++ '}' :: rest) = .ok (m.1, cs)
      ∧ (ms ≠ [] → ∃ ds, cs = m.2.toChars ++ ',' :: ds)
      ∧ readObject item (membersChars (m :: ms) ++ '}' :: rest)
        = if m.1 = numberMarker then readSpelled cs
          else
            (readMembers item ((membersChars (m :: ms) ++ '}' :: rest).length + 1)
              (membersChars (m :: ms) ++ '}' :: rest)).map
                fun q => (.object (Members.collect q.1), q.2) := by
  obtain ⟨cs, htext, hcomma⟩ : ∃ cs, membersChars (m :: ms) ++ '}' :: rest
      = quoteChars m.1.toList ++ ':' :: cs
        ∧ (ms ≠ [] → ∃ ds, cs = m.2.toChars ++ ',' :: ds) := by
    cases ms with
    | nil =>
      refine ⟨m.2.toChars ++ '}' :: rest, ?_, fun h => absurd rfl h⟩
      rw [membersChars, List.append_assoc, List.cons_append]
    | cons n ms =>
      refine ⟨m.2.toChars ++ ',' :: (membersChars (n :: ms) ++ '}' :: rest), ?_,
        fun _ => ⟨_, rfl⟩⟩
      rw [membersChars_cons_cons, List.append_assoc, List.cons_append, List.append_assoc,
        List.cons_append]
  have hname : readName (membersChars (m :: ms) ++ '}' :: rest) = .ok (m.1, cs) := by
    rw [htext]
    exact readName_quoteChars m.1 cs
  refine ⟨cs, hname, hcomma, ?_⟩
  obtain ⟨ds, hquote, -⟩ := readString_quoteChars m.1.toList (':' :: cs)
  have hskip : skipBlanks (membersChars (m :: ms) ++ '}' :: rest)
      = membersChars (m :: ms) ++ '}' :: rest := by
    rw [htext, hquote]
    exact skipBlanks_cons ds (by decide)
  rw [readObject, hskip]
  split
  · next heq =>
    rw [htext, hquote] at heq
    exact absurd (List.cons.inj heq).1 (by decide)
  · simp only [hname]
    cases readMembers item _ (membersChars (m :: ms) ++ '}' :: rest) <;> rfl

/-- **An object is read back** if each of its members fits, as what its
members amount to; its first name must not be the marker. -/
theorem readObject_membersChars_of_not_isLed {ms : Members}
    (hitem : ∀ m ∈ ms, ReadsBack item fits m.2) (hled : ms.isLed = false) (rest : List Char) :
    Yields (readObject item (membersChars ms ++ '}' :: rest)) (.object (Members.collect ms), rest)
      (∀ m ∈ ms, fits m.2) := by
  match ms with
  | [] =>
    rw [membersChars, List.nil_append, readObject, skipBlanks_cons rest (by decide)]
    exact .ok fun m hm => absurd hm List.not_mem_nil
  | m :: ms =>
    have hname : m.1 ≠ numberMarker := by
      simpa [Members.isLed] using hled
    obtain ⟨cs, -, -, heq⟩ := readObject_membersChars item m ms rest
    have hread := readMembers_membersChars (List.cons_ne_nil m ms) hitem
      ((membersChars (m :: ms) ++ '}' :: rest).length + 1) (by
        have := length_le_membersChars (m :: ms)
        rw [List.length_append]
        omega) rest
    rw [heq, if_neg hname]
    refine hread.andThen_ok (fun hok => ?_) fun e he => ⟨e, ?_⟩
    · rw [hok]
      rfl
    · rw [he]
      rfl

/-- What the marker spells is the only member: no value before a comma will
do. -/
theorem readSpelled_toChars_ne_ok (v : Value) (cs : List Char) (p : Value × List Char) :
    readSpelled (v.toChars ++ ',' :: cs) ≠ .ok p := by
  have hends : EndsNumber (',' :: cs) := endsNumber_cons cs (by decide)
  intro h
  rw [readSpelled, skipBlanks_toChars] at h
  cases v with
  | array vs => simp [toChars] at h
  | object ms => simp [toChars] at h
  | null => simp [toChars, readScalar, readWord, Except.map] at h
  | bool b => cases b <;> simp [toChars, readScalar, readWord, Except.map] at h
  | number n =>
    have hread := readScalar_toChars (v := .number n) (by simp) (by simp) hends
    split at h
    · simp at h
    · simp at h
    · rw [hread] at h
      simp at h
  | string s =>
    have hread := readScalar_toChars (v := .string s) (by simp) (by simp) hends
    split at h
    · simp at h
    · simp at h
    · rw [hread] at h
      simp only at h
      split at h
      · simp at h
      · -- the comma stands where the closing brace is due
        rw [skipBlanks_cons cs (by decide)] at h
        simp at h

/-- **An object that the marker leads is not read back**, if it has another
member. -/
theorem readObject_ne_ok_of_isLed {ms : Members} (hled : ms.isLed = true)
    (hdisguise : ms.isDisguise = false) (rest : List Char) (p : Value × List Char) :
    readObject item (membersChars ms ++ '}' :: rest) ≠ .ok p := by
  match ms with
  | [] => simp [Members.isLed] at hled
  | m :: ms =>
    have hname : m.1 = numberMarker := by simpa [Members.isLed] using hled
    -- a marker alone would be a number in disguise
    have hne : ms ≠ [] := by
      rintro rfl
      simp [Members.isDisguise, hled] at hdisguise
    obtain ⟨cs, -, hcomma, heq⟩ := readObject_membersChars item m ms rest
    obtain ⟨ds, rfl⟩ := hcomma hne
    rw [heq, if_pos hname]
    exact readSpelled_toChars_ne_ok m.2 ds p

end Lists

/-! ## Values -/

theorem readScalar_bracket (cs : List Char) : readScalar ('[' :: cs) = .error .malformed := rfl

theorem readScalar_brace (cs : List Char) : readScalar ('{' :: cs) = .error .malformed := rfl

/-- A value without parts is read back at any level. -/
theorem readValue_readsBack_scalar {v : Value} (harray : ∀ vs, v ≠ .array vs)
    (hobject : ∀ ms, v ≠ .object ms) (levels : Nat) :
    ReadsBack (readValue levels) (Value.Fits levels) v := by
  intro cs hcs
  have hread := readScalar_toChars harray hobject hcs
  have heq : readValue levels (v.toChars ++ cs) = .ok (v, cs) := by
    rw [readValue.eq_def, skipBlanks_toChars]
    split
    · next heq =>
      rw [heq, readScalar_bracket] at hread
      exact absurd hread nofun
    · next heq =>
      rw [heq, readScalar_brace] at hread
      exact absurd hread nofun
    · exact hread
  rw [heq]
  exact .ok (fits_scalar harray hobject levels)

/-- An array takes one level. -/
theorem readValue_array (levels : Nat) (vs : List Value) (cs : List Char) :
    readValue levels ((Value.array vs).toChars ++ cs)
      = match levels with
        | 0 => .error .malformed
        | n + 1 => readArray (readValue n) (itemsChars vs ++ ']' :: cs) := by
  have htext : (Value.array vs).toChars ++ cs = '[' :: (itemsChars vs ++ ']' :: cs) := by
    rw [toChars, List.cons_append, List.cons_append, List.append_assoc, List.singleton_append]
  rw [htext, readValue.eq_def, skipBlanks_cons _ (by decide)]
  cases levels <;> rfl

/-- An object takes one level. -/
theorem readValue_object (levels : Nat) (ms : Members) (cs : List Char) :
    readValue levels ((Value.object ms).toChars ++ cs)
      = match levels with
        | 0 => .error .malformed
        | n + 1 => readObject (readValue n) (membersChars ms ++ '}' :: cs) := by
  have htext : (Value.object ms).toChars ++ cs = '{' :: (membersChars ms ++ '}' :: cs) := by
    rw [toChars, List.cons_append, List.cons_append, List.append_assoc, List.singleton_append]
  rw [htext, readValue.eq_def, skipBlanks_cons _ (by decide)]
  cases levels <;> rfl

/-- **A written value is read back exactly if it fits.** Only what a text can
denote is considered: an object that is not ordered comes back ordered, and
a number in disguise comes back as a number. -/
theorem readValue_readsBack (levels : Nat) {v : Value} (hv : v.Denoted) :
    ReadsBack (readValue levels) (Value.Fits levels) v := by
  -- an array or an object hands the levels below its own to its parts
  induction levels generalizing v with
  | zero =>
    cases v with
    | array vs =>
      intro cs _
      rw [readValue_array]
      exact .error (not_fits_zero_array vs)
    | object ms =>
      intro cs _
      rw [readValue_object]
      exact .error (not_fits_zero_object ms)
    | _ => exact readValue_readsBack_scalar (by simp) (by simp) 0
  | succ n ih =>
    cases v with
    | array vs =>
      intro cs _
      have hitems := (denoted_array_iff vs).mp hv
      rw [readValue_array, fits_array_iff]
      exact readArray_itemsChars (fun v h => ih (hitems v h)) cs
    | object ms =>
      intro cs _
      obtain ⟨hordered, hdisguise, hmembers⟩ := (denoted_object_iff ms).mp hv
      rw [readValue_object, fits_object_iff]
      by_cases hled : Members.isLed ms = true
      · -- the marker leads, and what it would spell is not alone
        refine .of_ne_ok (readObject_ne_ok_of_isLed hled hdisguise cs) fun h => ?_
        exact Bool.false_ne_true (h.1.symm.trans hled)
      · have hunled : Members.isLed ms = false := Bool.not_eq_true _ ▸ hled
        have hread := readObject_membersChars_of_not_isLed (fun m h => ih (hmembers m h)) hunled cs
        rw [Members.collect_of_pairwise hordered] at hread
        exact hread.congr (and_iff_right hunled).symm
    | _ => exact readValue_readsBack_scalar (by simp) (by simp) (n + 1)

/-! ## Whole texts -/

/-- Nothing is left over of the text of a value. -/
theorem Value.parse_toText_of_readValue {v result : Value} {fits : Prop}
    (h : Yields (readValue maxDepth (v.toChars ++ [])) (result, []) fits) :
    Yields (Value.parse v.toText) result fits := by
  rw [Value.parse, Value.toText, String.toList_ofList, ← List.append_nil v.toChars]
  refine h.andThen_ok (fun hread => ?_) fun e he => ⟨e, by rw [he]⟩
  rw [hread]
  rfl

/-- **A text that spells a written value.** -/
theorem Value.parse_toText {v : Value} (hv : v.Denoted) :
    Yields (Value.parse v.toText) v (v.Fits maxDepth) :=
  Value.parse_toText_of_readValue (readValue_readsBack maxDepth hv [] endsNumber_nil)

/-- **A text that spells a written object**, whose members may stand in any
order. -/
theorem Value.parse_object {ms : Members} (hled : ms.isLed = false)
    (hms : ∀ m ∈ ms, m.2.Denoted) :
    Yields (Value.parse (Value.object ms).toText) (.object (Members.collect ms))
      (∀ m ∈ ms, m.2.Fits (maxDepth - 1)) := by
  refine Value.parse_toText_of_readValue ?_
  rw [readValue_object]
  exact readObject_membersChars_of_not_isLed (fun m h => readValue_readsBack _ (hms m h)) hled []

end EchoProbe.Json
