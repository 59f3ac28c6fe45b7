import EchoProbe.Proofs.Json.Reading

/-!
# A value is known from its text

No two values are written alike, whatever is in them: strings that look like
JSON, objects of any order, and values that are too deep to be read. So the
argument is about the written text and not about reading it as a whole. Where
a text begins with a written value, the value is known, and so is the place
where it ends (`Value.toChars_append_inj`).

Values without parts are told apart by reading them, as they can always be
read. The others are told apart by their first character and then part by
part, in a recursion on one of the two values.
-/

namespace EchoProbe.Json

open EchoProbe.Text Value

theorem quoteChars_append_inj {s t : String} {rest rest' : List Char}
    (h : quoteChars s.toList ++ ':' :: rest = quoteChars t.toList ++ ':' :: rest') :
    s = t ∧ rest = rest' := by
  have hread := readName_quoteChars s rest
  rw [h, readName_quoteChars] at hread
  obtain ⟨hname, hrest⟩ := Prod.mk.inj (Except.ok.inj hread)
  exact ⟨hname.symm, hrest.symm⟩

namespace Value

/-- Whether a value has no parts. -/
def isScalar : Value → Bool
  | .array _ => false
  | .object _ => false
  | _ => true

theorem readScalar_toChars_of_isScalar {v : Value} (h : v.isScalar = true) {rest : List Char}
    (hrest : EndsNumber rest) : readScalar (v.toChars ++ rest) = .ok (v, rest) :=
  readScalar_toChars (fun vs heq => by rw [heq] at h; exact absurd h nofun)
    (fun ms heq => by rw [heq] at h; exact absurd h nofun) hrest

/-- A value with parts does not begin as one without. -/
theorem readScalar_toChars_of_not_isScalar {v : Value} (h : v.isScalar = false)
    (rest : List Char) : readScalar (v.toChars ++ rest) = .error .malformed := by
  cases v with
  | array vs => rfl
  | object ms => rfl
  | _ => exact absurd h nofun

/-- Values without parts are told apart by reading them. -/
theorem toChars_append_inj_scalar {v w : Value} {rest rest' : List Char}
    (hv : v.isScalar = true) (hrest : EndsNumber rest) (hrest' : EndsNumber rest')
    (h : v.toChars ++ rest = w.toChars ++ rest') : v = w ∧ rest = rest' := by
  have hread := readScalar_toChars_of_isScalar hv hrest
  rw [h] at hread
  by_cases hw : w.isScalar = true
  · rw [readScalar_toChars_of_isScalar hw hrest'] at hread
    obtain ⟨hvalue, hrest⟩ := Prod.mk.inj (Except.ok.inj hread)
    exact ⟨hvalue.symm, hrest.symm⟩
  · rw [readScalar_toChars_of_not_isScalar (Bool.not_eq_true _ ▸ hw)] at hread
    exact absurd hread nofun

/-- What follows an item: nothing, or a comma and the others. -/
def itemsTail : List Value → List Char
  | [] => []
  | v :: vs => ',' :: itemsChars (v :: vs)

/-- What follows a member. -/
def membersTail : Members → List Char
  | [] => []
  | m :: ms => ',' :: membersChars (m :: ms)

theorem itemsTail_cons (v : Value) (vs : List Value) :
    itemsTail (v :: vs) = ',' :: (v.toChars ++ itemsTail vs) := by
  cases vs with
  | nil =>
    show ',' :: itemsChars [v] = ',' :: (v.toChars ++ [])
    rw [itemsChars, List.append_nil]
  | cons w vs => exact congrArg (',' :: ·) (itemsChars_cons_cons v w vs)

theorem membersTail_cons (m : String × Value) (ms : Members) :
    membersTail (m :: ms)
      = ',' :: (quoteChars m.1.toList ++ ':' :: (m.2.toChars ++ membersTail ms)) := by
  cases ms with
  | nil =>
    show ',' :: membersChars [m] = ',' :: (quoteChars m.1.toList ++ ':' :: (m.2.toChars ++ []))
    rw [membersChars, List.append_nil]
  | cons n ms => exact congrArg (',' :: ·) (membersChars_cons_cons m n ms)

theorem endsNumber_itemsTail (vs : List Value) (rest : List Char) :
    EndsNumber (itemsTail vs ++ ']' :: rest) := by
  cases vs with
  | nil => exact endsNumber_cons rest (Or.inr (Or.inl rfl))
  | cons v vs => exact endsNumber_cons _ (Or.inl rfl)

theorem endsNumber_membersTail (ms : Members) (rest : List Char) :
    EndsNumber (membersTail ms ++ '}' :: rest) := by
  cases ms with
  | nil => exact endsNumber_cons rest (Or.inr (Or.inr rfl))
  | cons m ms => exact endsNumber_cons _ (Or.inl rfl)

/-- Whether there are items at all shows in the first character. -/
theorem itemsTail_eq_of_itemsChars {vs ws : List Value} {rest rest' : List Char}
    (h : itemsChars vs ++ ']' :: rest = itemsChars ws ++ ']' :: rest') :
    itemsTail vs ++ ']' :: rest = itemsTail ws ++ ']' :: rest' := by
  match vs, ws with
  | [], [] => exact h
  | [], w :: ws => exact absurd h.symm ((skipBlanks_itemsChars w ws (']' :: rest')).2 rest)
  | v :: vs, [] => exact absurd h ((skipBlanks_itemsChars v vs (']' :: rest)).2 rest')
  | v :: vs, w :: ws => exact congrArg (',' :: ·) h

theorem membersTail_eq_of_membersChars {ms ns : Members} {rest rest' : List Char}
    (h : membersChars ms ++ '}' :: rest = membersChars ns ++ '}' :: rest') :
    membersTail ms ++ '}' :: rest = membersTail ns ++ '}' :: rest' := by
  have hquote : ∀ (m : String × Value) (ms : Members) (rest ds : List Char),
      membersChars (m :: ms) ++ '}' :: rest ≠ '}' :: ds := by
    intro m ms rest ds hbrace
    have htail := congrArg (',' :: ·) hbrace
    rw [← List.cons_append, ← membersTail, membersTail_cons] at htail
    exact absurd (List.cons.inj (List.cons.inj htail).2).1 (by decide)
  match ms, ns with
  | [], [] => exact h
  | [], n :: ns => exact absurd h.symm (hquote n ns rest' rest)
  | m :: ms, [] => exact absurd h (hquote m ms rest rest')
  | m :: ms, n :: ns => exact congrArg (',' :: ·) h

mutual

/-- **A value is known from its text**, and so is what follows it. -/
theorem toChars_append_inj : (v w : Value) → {rest rest' : List Char} → EndsNumber rest →
    EndsNumber rest' → v.toChars ++ rest = w.toChars ++ rest' → v = w ∧ rest = rest'
  | .array vs, w, rest, rest', hrest, hrest', h => by
    cases w with
    | array ws =>
      simp only [toChars, List.cons_append, List.append_assoc, List.nil_append, List.cons.injEq,
        true_and] at h
      obtain ⟨hvs, hrest⟩ := itemsTail_append_inj vs ws (itemsTail_eq_of_itemsChars h)
      exact ⟨congrArg array hvs, hrest⟩
    | object ns =>
      simp only [toChars, List.cons_append] at h
      exact absurd (List.cons.inj h).1 (by decide)
    | _ =>
      obtain ⟨hvalue, hrest⟩ := toChars_append_inj_scalar rfl hrest' hrest h.symm
      exact ⟨hvalue.symm, hrest.symm⟩
  | .object ms, w, rest, rest', hrest, hrest', h => by
    cases w with
    | object ns =>
      simp only [toChars, List.cons_append, List.append_assoc, List.nil_append, List.cons.injEq,
        true_and] at h
      obtain ⟨hms, hrest⟩ := membersTail_append_inj ms ns (membersTail_eq_of_membersChars h)
      exact ⟨congrArg object hms, hrest⟩
    | array ws =>
      simp only [toChars, List.cons_append] at h
      exact absurd (List.cons.inj h).1 (by decide)
    | _ =>
      obtain ⟨hvalue, hrest⟩ := toChars_append_inj_scalar rfl hrest' hrest h.symm
      exact ⟨hvalue.symm, hrest.symm⟩
  | .null, w, rest, rest', hrest, hrest', h => toChars_append_inj_scalar rfl hrest hrest' h
  | .bool _, w, rest, rest', hrest, hrest', h => toChars_append_inj_scalar rfl hrest hrest' h
  | .number _, w, rest, rest', hrest, hrest', h => toChars_append_inj_scalar rfl hrest hrest' h
  | .string _, w, rest, rest', hrest, hrest', h => toChars_append_inj_scalar rfl hrest hrest' h

/-- Items are known from their text. -/
theorem itemsTail_append_inj : (vs ws : List Value) → {rest rest' : List Char} →
    itemsTail vs ++ ']' :: rest = itemsTail ws ++ ']' :: rest' → vs = ws ∧ rest = rest'
  | [], [], _, _, h => ⟨rfl, (List.cons.inj h).2⟩
  | [], w :: ws, _, _, h => absurd (List.cons.inj h).1 (by decide)
  | v :: vs, [], _, _, h => absurd (List.cons.inj h).1 (by decide)
  | v :: vs, w :: ws, rest, rest', h => by
    simp only [itemsTail_cons, List.cons_append, List.append_assoc, List.cons.injEq,
      true_and] at h
    obtain ⟨hv, h⟩ := toChars_append_inj v w (endsNumber_itemsTail vs rest)
      (endsNumber_itemsTail ws rest') h
    obtain ⟨hvs, hrest⟩ := itemsTail_append_inj vs ws h
    exact ⟨by rw [hv, hvs], hrest⟩

/-- Members are known from their text. -/
theorem membersTail_append_inj : (ms ns : List (String × Value)) → {rest rest' : List Char} →
    membersTail ms ++ '}' :: rest = membersTail ns ++ '}' :: rest' → ms = ns ∧ rest = rest'
  | [], [], _, _, h => ⟨rfl, (List.cons.inj h).2⟩
  | [], n :: ns, _, _, h => absurd (List.cons.inj h).1 (by decide)
  | m :: ms, [], _, _, h => absurd (List.cons.inj h).1 (by decide)
  | (name, v) :: ms, (other, w) :: ns, rest, rest', h => by
    simp only [membersTail_cons, List.cons_append, List.append_assoc, List.cons.injEq,
      true_and] at h
    obtain ⟨hname, h⟩ := quoteChars_append_inj h
    obtain ⟨hv, h⟩ := toChars_append_inj v w (endsNumber_membersTail ms rest)
      (endsNumber_membersTail ns rest') h
    obtain ⟨hms, hrest⟩ := membersTail_append_inj ms ns h
    exact ⟨by rw [hname, hv, hms], hrest⟩

end

/-- **Two values with the same text are the same.** -/
theorem toText_injective : Function.Injective toText := by
  intro v w h
  have hchars : v.toChars ++ [] = w.toChars ++ [] := by
    rw [List.append_nil, List.append_nil, ← String.ofList_injective h]
  exact (toChars_append_inj v w endsNumber_nil endsNumber_nil hchars).1

end Value

end EchoProbe.Json
