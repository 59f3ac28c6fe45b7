import EchoProbe.Proofs.Json.Grammar.Scalar

/-!
# Texts are read as the grammar has them

A reader of elements is `Sound` for a relation if it reads only what the
relation allows, and `Complete` if it reads all of it. Both pass from the
reader of the elements to the readers of arrays and objects, and so, by
induction on the levels, to values of any number of levels. Hence the main
result: a text is read as a value exactly if it denotes the value
(`Value.parse_eq_ok_iff`). In particular a text denotes one value at most.

An object is compared with what its members amount to. That is one list only
(`AmountsTo.eq_collect`), as an ordered list is known from its look-ups.
A text is read as an object exactly if it is written as one, without the
marker in front (`exists_writesObject_iff`).
-/

namespace EchoProbe.Json

open EchoProbe.Text

variable {item : List Char → Except Fault (Value × List Char)} {rel : List Char → Value → Prop}

/-- **A reader reads only what a relation allows**, behind blanks. -/
def Sound (item : List Char → Except Fault (Value × List Char))
    (rel : List Char → Value → Prop) : Prop :=
  ∀ cs v rest, item cs = .ok (v, rest) →
    ∃ front body, Blanks front ∧ cs = front ++ (body ++ rest) ∧ rel body v

/-- **A reader reads all that a relation allows**, behind blanks and in front
of anything that ends a number. -/
structure Complete (item : List Char → Except Fault (Value × List Char))
    (rel : List Char → Value → Prop) : Prop where
  /-- What the relation allows is read. -/
  read : ∀ front body v rest, Blanks front → rel body v → EndsNumber rest →
    item (front ++ (body ++ rest)) = .ok (v, rest)
  /-- What the relation allows begins with no blank and does not look like the
  end of an array. -/
  exists_eq_cons : ∀ body v, rel body v → ∃ c cs, body = c :: cs ∧ isBlank c = false ∧ c ≠ ']'

/-! ## Elements with blanks around them -/

/-- Blanks may be added in front. -/
theorem Padded.append {cs bs : List Char} {v : Value} (h : Padded rel cs v) (hb : Blanks bs) :
    Padded rel (bs ++ cs) v := by
  obtain ⟨hfront, hcs, hback⟩ := h
  rw [← List.append_assoc]
  exact .intro (hb.append hfront) hcs hback

/-- What is read up to a character that is due behind the blanks. -/
theorem Sound.padded (hitem : Sound item rel) {cs left rest : List Char} {v : Value} {c : Char}
    (h : item cs = .ok (v, left)) (hleft : skipBlanks left = c :: rest) :
    ∃ body, cs = body ++ c :: rest ∧ Padded rel body v := by
  obtain ⟨front, body, hfront, rfl, hbody⟩ := hitem _ _ _ h
  obtain ⟨back, hback, rfl⟩ := exists_of_skipBlanks_eq hleft
  refine ⟨front ++ (body ++ back), ?_, .intro hfront hbody hback⟩
  simp only [List.append_assoc]

/-- Everything up to that character is read, but for some blanks. -/
theorem Complete.padded (hitem : Complete item rel) {cs : List Char} {v : Value} {c : Char}
    (h : Padded rel cs v) (hc : c = ',' ∨ c = ']' ∨ c = '}') (rest : List Char) :
    ∃ left, item (cs ++ c :: rest) = .ok (v, left) ∧ skipBlanks left = c :: rest := by
  obtain ⟨hfront, hcs, hback⟩ := h
  next front body back =>
  have hblank : isBlank c = false := by rcases hc with rfl | rfl | rfl <;> decide
  refine ⟨back ++ c :: rest, ?_, skipBlanks_append_cons hback hblank rest⟩
  have hread := hitem.read front body v (back ++ c :: rest) hfront hcs
    ((endsNumber_cons rest hc).append hback)
  simpa only [List.append_assoc] using hread

/-! ## Arrays -/

theorem SpellsItems.append {cs bs : List Char} {vs : List Value} (h : SpellsItems rel cs vs)
    (hb : Blanks bs) : SpellsItems rel (bs ++ cs) vs := by
  cases h with
  | last hv => exact .last (hv.append hb)
  | more hv hvs =>
    rw [← List.append_assoc]
    exact .more (hv.append hb) hvs

theorem SpellsItems.length_le {cs : List Char} {vs : List Value} (h : SpellsItems rel cs vs) :
    vs.length ≤ cs.length + 1 := by
  induction h with
  | last => exact Nat.succ_le_succ (Nat.zero_le _)
  | more _ _ ih =>
    simp only [List.length_append, List.length_cons]
    omega

/-- Items begin as the first one does. -/
theorem Complete.exists_eq_cons_of_items (hitem : Complete item rel) {cs : List Char}
    {vs : List Value} (h : SpellsItems rel cs vs) (rest : List Char) :
    ∃ front ds c es, Blanks front ∧ cs = front ++ ds ∧ SpellsItems rel ds vs ∧
      ds ++ rest = c :: es ∧ isBlank c = false ∧ c ≠ ']' := by
  have hpadded : ∀ {cs : List Char} {v : Value}, Padded rel cs v →
      ∃ front ds c es, Blanks front ∧ cs = front ++ ds ∧ Padded rel ds v ∧
        ds = c :: es ∧ isBlank c = false ∧ c ≠ ']' := by
    rintro _ v ⟨hfront, hcs, hback⟩
    next front body back =>
    obtain ⟨c, es, rfl, hc, hne⟩ := hitem.exists_eq_cons body v hcs
    exact ⟨front, _, c, es ++ back, hfront, rfl, .intro .nil hcs hback, rfl, hc, hne⟩
  cases h with
  | last hv =>
    obtain ⟨front, ds, c, es, hfront, rfl, hds, rfl, hc, hne⟩ := hpadded hv
    exact ⟨front, _, c, es ++ rest, hfront, rfl, .last hds, rfl, hc, hne⟩
  | more hv hvs =>
    obtain ⟨front, ds, c, es, hfront, rfl, hds, rfl, hc, hne⟩ := hpadded hv
    refine ⟨front, _, c, _, hfront, ?_, .more hds hvs, rfl, hc, hne⟩
    rw [List.append_assoc]

theorem Sound.readItems (hitem : Sound item rel) {fuel : Nat} {cs rest : List Char}
    {vs : List Value} (h : readItems item fuel cs = .ok (vs, rest)) :
    ∃ body, cs = body ++ ']' :: rest ∧ SpellsItems rel body vs := by
  induction fuel generalizing cs rest vs with
  | zero => cases h
  | succ fuel ih =>
    rw [Json.readItems] at h
    split at h
    · cases h
    · next v left hv =>
      split at h
      · cases h
      · next tail hleft =>
        obtain ⟨rfl, rfl⟩ := Prod.mk.inj (Except.ok.inj h)
        obtain ⟨body, rfl, hbody⟩ := hitem.padded hv hleft
        exact ⟨body, rfl, .last hbody⟩
      · next tail hleft =>
        split at h
        · next ws left' hws =>
          obtain ⟨rfl, rfl⟩ := Prod.mk.inj (Except.ok.inj h)
          obtain ⟨body, rfl, hbody⟩ := hitem.padded hv hleft
          obtain ⟨others, rfl, hothers⟩ := ih hws
          refine ⟨body ++ ',' :: others, ?_, .more hbody hothers⟩
          rw [List.append_assoc, List.cons_append]
        · cases h
      · cases h

theorem Complete.readItems (hitem : Complete item rel) {cs : List Char} {vs : List Value}
    (h : SpellsItems rel cs vs) (fuel : Nat) (hfuel : vs.length ≤ fuel) (rest : List Char) :
    readItems item fuel (cs ++ ']' :: rest) = .ok (vs, rest) := by
  induction h generalizing fuel with
  | last hv =>
    obtain ⟨fuel, rfl⟩ := Nat.exists_eq_add_one_of_ne_zero (Nat.one_le_iff_ne_zero.mp hfuel)
    obtain ⟨left, hread, hleft⟩ := hitem.padded hv (Or.inr (Or.inl rfl)) rest
    rw [Json.readItems, hread]
    simp only [hleft]
  | more hv _ ih =>
    obtain ⟨fuel, rfl⟩ := Nat.exists_eq_add_one_of_ne_zero (Nat.ne_zero_of_lt hfuel)
    obtain ⟨left, hread, hleft⟩ := hitem.padded hv (Or.inl rfl) _
    rw [List.append_assoc, List.cons_append, Json.readItems, hread]
    simp only [hleft]
    rw [ih fuel (Nat.le_of_succ_le_succ hfuel)]

/-- **What is read as an array is one.** -/
theorem Sound.readArray (hitem : Sound item rel) {cs rest : List Char} {v : Value}
    (h : readArray item cs = .ok (v, rest)) :
    ∃ body vs, '[' :: cs = body ++ rest ∧ v = .array vs ∧ SpellsArray rel body vs := by
  obtain ⟨front, hfront, hskip⟩ := exists_skipBlanks cs
  rw [Json.readArray] at h
  split at h
  · next tail heq =>
    obtain ⟨rfl, rfl⟩ := Prod.mk.inj (Except.ok.inj h)
    refine ⟨_, [], ?_, rfl, .empty hfront⟩
    rw [hskip, heq, List.cons_append, List.append_assoc, List.singleton_append]
  · split at h
    · next vs left hread =>
      obtain ⟨rfl, rfl⟩ := Prod.mk.inj (Except.ok.inj h)
      obtain ⟨body, heq, hbody⟩ := hitem.readItems hread
      refine ⟨_, vs, ?_, rfl, .items (hbody.append hfront)⟩
      rw [hskip, heq]
      simp only [List.cons_append, List.append_assoc, List.nil_append]
    · cases h

/-- **An array is read as one.** -/
theorem Complete.readArray (hitem : Complete item rel) {cs : List Char} {vs : List Value}
    (h : SpellsArray rel cs vs) (rest : List Char) :
    ∃ ds, cs = '[' :: ds ∧ readArray item (ds ++ rest) = .ok (.array vs, rest) := by
  cases h with
  | empty hbs =>
    next bs =>
    refine ⟨_, rfl, ?_⟩
    rw [List.append_assoc, List.singleton_append, Json.readArray,
      skipBlanks_append_cons hbs (by decide)]
    rfl
  | items hvs =>
    refine ⟨_, rfl, ?_⟩
    obtain ⟨front, ds, c, es, hfront, rfl, hds, hhead, hc, hne⟩ :=
      hitem.exists_eq_cons_of_items hvs (']' :: rest)
    have hread := hitem.readItems hds ((c :: es).length + 1)
      (by have := hds.length_le; rw [← hhead, List.length_append]; omega) rest
    rw [List.append_assoc, List.singleton_append, List.append_assoc, Json.readArray,
      skipBlanks_append hfront, hhead, skipBlanks_cons es hc]
    split
    · next heq => exact absurd (List.cons.inj heq).1 hne
    · rw [← hhead] at hread ⊢
      rw [hread]

/-! ## Members -/

/-- A name begins with a quote. -/
theorem SpellsString.exists_eq_cons {cs : List Char} {s : String} (h : SpellsString cs s) :
    ∃ ds, cs = '"' :: ds := by
  obtain ⟨_⟩ := h
  exact ⟨_, rfl⟩

theorem spellsString_of_readName {cs rest : List Char} {name : String}
    (h : readName cs = .ok (name, rest)) :
    ∃ front key back, Blanks front ∧ cs = front ++ (key ++ (back ++ ':' :: rest)) ∧
      SpellsString key name ∧ Blanks back := by
  obtain ⟨front, hfront, hskip⟩ := exists_skipBlanks cs
  unfold readName at h
  split at h
  · cases h
  · next ds heq =>
    split at h
    · cases h
    · next s left hread =>
      obtain ⟨body, rfl, hbody⟩ := spellsChars_of_readString hread
      split at h
      · cases h
      · next tail hleft =>
        obtain ⟨rfl, rfl⟩ := Prod.mk.inj (Except.ok.inj h)
        obtain ⟨back, hback, rfl⟩ := exists_of_skipBlanks_eq hleft
        refine ⟨front, '"' :: (body ++ ['"']), back, hfront, ?_, .intro ?_, hback⟩
        · rw [hskip, heq]
          simp only [List.cons_append, List.append_assoc, List.nil_append]
        · rwa [String.toList_ofList]
      · cases h
  · cases h

theorem readName_spelled {front key back : List Char} {name : String} (hfront : Blanks front)
    (hkey : SpellsString key name) (hback : Blanks back) (rest : List Char) :
    readName (front ++ (key ++ (back ++ ':' :: rest))) = .ok (name, rest) := by
  obtain ⟨hchars⟩ := hkey
  rw [List.cons_append, List.append_assoc, List.singleton_append, readName,
    skipBlanks_append_cons hfront (by decide)]
  simp only [readString_spelled hchars, skipBlanks_append_cons hback (show isBlank ':' = false by
    decide), String.ofList_toList]

/-- What is read as a name and then as a value is a member. -/
theorem Sound.member (hitem : Sound item rel) {cs mid left rest : List Char} {name : String}
    {v : Value} {c : Char} (hname : readName cs = .ok (name, mid)) (hv : item mid = .ok (v, left))
    (hleft : skipBlanks left = c :: rest) :
    ∃ body, cs = body ++ c :: rest ∧ SpellsMember rel body (name, v) := by
  obtain ⟨front, key, back, hfront, rfl, hkey, hback⟩ := spellsString_of_readName hname
  obtain ⟨body, rfl, hbody⟩ := hitem.padded hv hleft
  refine ⟨_, ?_, .intro hfront hkey hback hbody⟩
  simp only [List.append_assoc, List.cons_append]

/-- A member is read as a name and then a value. -/
theorem Complete.member (hitem : Complete item rel) {cs : List Char} {m : String × Value}
    {c : Char} (h : SpellsMember rel cs m) (hc : c = ',' ∨ c = ']' ∨ c = '}') (rest : List Char) :
    ∃ mid left, readName (cs ++ c :: rest) = .ok (m.1, mid) ∧ item mid = .ok (m.2, left) ∧
      skipBlanks left = c :: rest := by
  obtain ⟨hfront, hkey, hback, hpadded⟩ := h
  next front key back ds name v =>
  obtain ⟨left, hread, hleft⟩ := hitem.padded hpadded hc rest
  refine ⟨ds ++ c :: rest, left, ?_, hread, hleft⟩
  have hname := readName_spelled hfront hkey hback (ds ++ c :: rest)
  simpa only [List.append_assoc, List.cons_append] using hname

theorem SpellsMember.append {cs bs : List Char} {m : String × Value} (h : SpellsMember rel cs m)
    (hb : Blanks bs) : SpellsMember rel (bs ++ cs) m := by
  obtain ⟨hfront, hkey, hback, hpadded⟩ := h
  rw [← List.append_assoc]
  exact .intro (hb.append hfront) hkey hback hpadded

theorem SpellsMembers.append {cs bs : List Char} {ms : Members} (h : SpellsMembers rel cs ms)
    (hb : Blanks bs) : SpellsMembers rel (bs ++ cs) ms := by
  cases h with
  | last hm => exact .last (hm.append hb)
  | more hm hms =>
    rw [← List.append_assoc]
    exact .more (hm.append hb) hms

theorem SpellsMembers.length_le {cs : List Char} {ms : Members} (h : SpellsMembers rel cs ms) :
    ms.length ≤ cs.length + 1 := by
  induction h with
  | last => exact Nat.succ_le_succ (Nat.zero_le _)
  | more _ _ ih =>
    simp only [List.length_append, List.length_cons]
    omega

/-- A member begins with a quote, behind blanks. -/
theorem SpellsMember.exists_eq_cons {cs : List Char} {m : String × Value}
    (h : SpellsMember rel cs m) :
    ∃ front ds, Blanks front ∧ cs = front ++ '"' :: ds ∧ SpellsMember rel ('"' :: ds) m := by
  obtain ⟨hfront, hkey, hback, hpadded⟩ := h
  obtain ⟨ds, rfl⟩ := hkey.exists_eq_cons
  exact ⟨_, _, hfront, rfl, .intro .nil hkey hback hpadded⟩

theorem SpellsMembers.exists_eq_cons {cs : List Char} {ms : Members}
    (h : SpellsMembers rel cs ms) :
    ∃ front ds, Blanks front ∧ cs = front ++ '"' :: ds ∧ SpellsMembers rel ('"' :: ds) ms := by
  cases h with
  | last hm =>
    obtain ⟨front, ds, hfront, rfl, hds⟩ := hm.exists_eq_cons
    exact ⟨front, ds, hfront, rfl, .last hds⟩
  | more hm hms =>
    obtain ⟨front, ds, hfront, rfl, hds⟩ := hm.exists_eq_cons
    exact ⟨front, _, hfront, by rw [List.append_assoc]; rfl, .more hds hms⟩

theorem Sound.readMembers (hitem : Sound item rel) {fuel : Nat} {cs rest : List Char}
    {ms : Members} (h : readMembers item fuel cs = .ok (ms, rest)) :
    ∃ body, cs = body ++ '}' :: rest ∧ SpellsMembers rel body ms := by
  induction fuel generalizing cs rest ms with
  | zero => cases h
  | succ fuel ih =>
    rw [Json.readMembers] at h
    split at h
    · cases h
    · next name mid hname =>
      split at h
      · cases h
      · next v left hv =>
        split at h
        · cases h
        · next tail hleft =>
          obtain ⟨rfl, rfl⟩ := Prod.mk.inj (Except.ok.inj h)
          obtain ⟨body, rfl, hbody⟩ := hitem.member hname hv hleft
          exact ⟨body, rfl, .last hbody⟩
        · next tail hleft =>
          split at h
          · next ns left' hns =>
            obtain ⟨rfl, rfl⟩ := Prod.mk.inj (Except.ok.inj h)
            obtain ⟨body, rfl, hbody⟩ := hitem.member hname hv hleft
            obtain ⟨others, rfl, hothers⟩ := ih hns
            refine ⟨body ++ ',' :: others, ?_, .more hbody hothers⟩
            rw [List.append_assoc, List.cons_append]
          · cases h
        · cases h

/-- The first name that is read is the name of the first member. -/
theorem isLed_of_readMembers {fuel : Nat} {cs rest mid : List Char} {ms : Members} {name : String}
    (h : readMembers item fuel cs = .ok (ms, rest)) (hname : readName cs = .ok (name, mid)) :
    ms.isLed = (name == numberMarker) := by
  cases fuel with
  | zero => cases h
  | succ fuel =>
    rw [Json.readMembers, hname] at h
    simp only at h
    split at h
    · cases h
    · split at h
      · cases h
      · obtain ⟨rfl, -⟩ := Prod.mk.inj (Except.ok.inj h)
        rfl
      · split at h
        · obtain ⟨rfl, -⟩ := Prod.mk.inj (Except.ok.inj h)
          rfl
        · cases h
      · cases h

theorem Complete.readMembers (hitem : Complete item rel) {cs : List Char} {ms : Members}
    (h : SpellsMembers rel cs ms) (fuel : Nat) (hfuel : ms.length ≤ fuel) (rest : List Char) :
    readMembers item fuel (cs ++ '}' :: rest) = .ok (ms, rest) := by
  induction h generalizing fuel with
  | last hm =>
    obtain ⟨fuel, rfl⟩ := Nat.exists_eq_add_one_of_ne_zero (Nat.one_le_iff_ne_zero.mp hfuel)
    obtain ⟨mid, left, hname, hread, hleft⟩ := hitem.member hm (Or.inr (Or.inr rfl)) rest
    rw [Json.readMembers, hname]
    simp only [hread, hleft]
  | more hm _ ih =>
    obtain ⟨fuel, rfl⟩ := Nat.exists_eq_add_one_of_ne_zero (Nat.ne_zero_of_lt hfuel)
    obtain ⟨mid, left, hname, hread, hleft⟩ := hitem.member hm (Or.inl rfl) _
    rw [List.append_assoc, List.cons_append, Json.readMembers, hname]
    simp only [hread, hleft]
    rw [ih fuel (Nat.le_of_succ_le_succ hfuel)]

/-! ## What members amount to -/

/-- A name that all names of a list exceed is not in it. -/
theorem Members.lookup_eq_none_of_lt {ms : Members} {name : String}
    (h : ∀ m ∈ ms, name < m.1) : ms.lookup name = none :=
  List.lookup_eq_none_iff.mpr fun m hm => by simpa using (h m hm).ne

/-- **An ordered list is known from its look-ups.** -/
theorem Members.Ordered.ext {ms ns : Members} (hms : Members.Ordered ms)
    (hns : Members.Ordered ns) (h : ∀ name, ms.lookup name = ns.lookup name) : ms = ns := by
  induction ms generalizing ns with
  | nil =>
    match ns with
    | [] => rfl
    | (key, v) :: ns =>
      have hkey := h key
      rw [Members.lookup_cons, if_pos rfl] at hkey
      exact absurd hkey nofun
  | cons m ms ih =>
    obtain ⟨key, v⟩ := m
    obtain ⟨hfirst, hothers⟩ := List.pairwise_cons.mp hms
    match ns with
    | [] =>
      have hkey := h key
      rw [Members.lookup_cons, if_pos rfl] at hkey
      exact absurd hkey nofun
    | (other, w) :: ns =>
      obtain ⟨hsecond, hothers'⟩ := List.pairwise_cons.mp hns
      simp only [Members.lookup_cons] at h
      -- of two different first names the smaller one would be in one list only
      obtain rfl : key = other := by
        rcases lt_trichotomy key other with hlt | heq | hlt
        · have hkey := h key
          rw [if_pos rfl, if_neg hlt.ne, lookup_eq_none_of_lt fun n hn => hlt.trans (hsecond n hn)]
            at hkey
          exact absurd hkey nofun
        · exact heq
        · have hkey := h other
          rw [if_pos rfl, if_neg hlt.ne, lookup_eq_none_of_lt fun n hn => hlt.trans (hfirst n hn)]
            at hkey
          exact absurd hkey nofun
      obtain rfl : v = w := by simpa using h key
      refine congrArg _ (ih hothers hothers' fun name => ?_)
      by_cases hname : name = key
      · rw [hname, lookup_eq_none_of_lt hfirst, lookup_eq_none_of_lt hsecond]
      · simpa only [if_neg hname] using h name

theorem AmountsTo.eq_collect {written ms : Members} (h : AmountsTo written ms) :
    ms = Members.collect written :=
  h.ordered.ext (Members.collect_pairwise written) fun name => by
    rw [h.lookup, Members.lookup_collect]
    rfl

theorem amountsTo_collect (written : Members) : AmountsTo written (Members.collect written) :=
  ⟨Members.collect_pairwise written, Members.lookup_collect written⟩

/-! ## Objects -/

/-- The reader of the string that the marker names. -/
theorem spellsMember_of_readSpelled {cs mid rest : List Char} {v : Value}
    (hname : readName cs = .ok (numberMarker, mid)) (h : readSpelled mid = .ok (v, rest)) :
    ∃ body s n, cs = body ++ '}' :: rest ∧ v = .number n ∧ SpellsNumber s.toList n ∧
      SpellsMember (fun ds w => w = .string s ∧ SpellsString ds s) body
        (numberMarker, .string s) := by
  obtain ⟨front, key, back, hfront, rfl, hkey, hback⟩ := spellsString_of_readName hname
  obtain ⟨front', hfront', hskip⟩ := exists_skipBlanks mid
  unfold readSpelled at h
  split at h
  · cases h
  · cases h
  · split at h
    · cases h
    · next s left hread =>
      split at h
      · cases h
      · next n hn =>
        obtain ⟨body, heq, hbody⟩ := spellsScalar_of_readScalar hread
        split at h
        · cases h
        · next tail hleft =>
          obtain ⟨rfl, rfl⟩ := Prod.mk.inj (Except.ok.inj h)
          obtain ⟨back', hback', rfl⟩ := exists_of_skipBlanks_eq hleft
          have hstring : SpellsString body s := by
            cases hbody with
            | string hstring => exact hstring
          refine ⟨_, s, n, ?_, rfl, (Number.parse_eq_ok_iff s n).mp hn,
            .intro hfront hkey hback (.intro hfront' ⟨rfl, hstring⟩ hback')⟩
          rw [hskip, heq]
          simp only [List.append_assoc, List.cons_append]
        · cases h
    · cases h

theorem readSpelled_spelled {front text back : List Char} {s : String} {n : Number}
    (hfront : Blanks front) (htext : SpellsString text s) (hback : Blanks back)
    (hs : SpellsNumber s.toList n) (rest : List Char) :
    readSpelled (front ++ (text ++ back) ++ '}' :: rest) = .ok (.number n, rest) := by
  have hread := readScalar_spelled (.string htext)
    ((endsNumber_cons rest (Or.inr (Or.inr rfl))).append hback)
  obtain ⟨ds, rfl⟩ := htext.exists_eq_cons
  rw [List.cons_append] at hread
  rw [List.append_assoc, List.append_assoc, readSpelled, skipBlanks_append hfront, List.cons_append,
    skipBlanks_cons _ (by decide)]
  split
  · next heq => exact absurd (List.cons.inj heq).1 (by decide)
  · next heq => exact absurd (List.cons.inj heq).1 (by decide)
  · simp only [hread, (Number.parse_eq_ok_iff s n).mpr hs,
      skipBlanks_append_cons hback (show isBlank '}' = false by decide)]

/-- **What is read as an object is one.** -/
theorem Sound.readObject (hitem : Sound item rel) {cs rest : List Char} {v : Value}
    (h : readObject item cs = .ok (v, rest)) :
    ∃ body, '{' :: cs = body ++ rest ∧ SpellsObject rel body v := by
  obtain ⟨front, hfront, hskip⟩ := exists_skipBlanks cs
  have htext : ∀ body, skipBlanks cs = body ++ '}' :: rest →
      '{' :: cs = '{' :: (front ++ body ++ ['}']) ++ rest := by
    intro body hbody
    rw [hskip, hbody]
    simp only [List.cons_append, List.append_assoc, List.nil_append]
  rw [Json.readObject] at h
  split at h
  · next tail heq =>
    obtain ⟨rfl, rfl⟩ := Prod.mk.inj (Except.ok.inj h)
    refine ⟨_, htext [] heq, .members (.empty ?_) rfl (amountsTo_collect [])⟩
    rwa [List.append_nil]
  · split at h
    · cases h
    · next name mid hname =>
      split at h
      · next hmarker =>
        rw [hmarker] at hname
        obtain ⟨body, s, n, heq, rfl, hs, hbody⟩ := spellsMember_of_readSpelled hname h
        exact ⟨_, htext body heq, .disguise (hbody.append hfront) hs⟩
      · next hmarker =>
        split at h
        · next ms left hread =>
          obtain ⟨rfl, rfl⟩ := Prod.mk.inj (Except.ok.inj h)
          obtain ⟨body, heq, hbody⟩ := hitem.readMembers hread
          refine ⟨_, htext body heq, .members (.members (hbody.append hfront)) ?_
            (amountsTo_collect ms)⟩
          rw [isLed_of_readMembers hread hname, beq_eq_false_iff_ne]
          exact hmarker
        · cases h

variable (item) in
/-- The first name decides what stands behind an opening brace. -/
theorem readObject_of_readName {front ds mid : List Char} {name : String} (hfront : Blanks front)
    (hname : readName ('"' :: ds) = .ok (name, mid)) :
    readObject item (front ++ '"' :: ds)
      = if name = numberMarker then readSpelled mid
        else (readMembers item (('"' :: ds).length + 1) ('"' :: ds)).map
          fun p => (.object (Members.collect p.1), p.2) := by
  rw [readObject, skipBlanks_append_cons hfront (by decide)]
  split
  · next heq => exact absurd (List.cons.inj heq).1 (by decide)
  · simp only [hname]
    cases readMembers item (('"' :: ds).length + 1) ('"' :: ds) <;> rfl

/-- The first of some members has the first name. -/
theorem Complete.exists_readName (hitem : Complete item rel) {cs : List Char} {ms : Members}
    (h : SpellsMembers rel cs ms) (rest : List Char) :
    ∃ name mid, readName (cs ++ '}' :: rest) = .ok (name, mid) ∧
      ms.isLed = (name == numberMarker) := by
  have hread := hitem.readMembers h _ (Nat.le_refl _) rest
  cases h with
  | last hm =>
    obtain ⟨mid, -, hname, -⟩ := hitem.member hm (Or.inr (Or.inr rfl)) rest
    exact ⟨_, mid, hname, isLed_of_readMembers hread hname⟩
  | more hm _ =>
    obtain ⟨mid, -, hname, -⟩ := hitem.member hm (Or.inl rfl) _
    rw [List.append_assoc, List.cons_append] at hread ⊢
    exact ⟨_, mid, hname, isLed_of_readMembers hread hname⟩

/-- **Members are read as they are written**, where the marker is not the
first. -/
theorem Complete.readObject_written (hitem : Complete item rel) {cs : List Char} {written : Members}
    (h : SpellsWritten rel cs written) (hled : written.isLed = false) (rest : List Char) :
    ∃ ds, cs = '{' :: ds ∧
      readObject item (ds ++ rest) = .ok (.object (Members.collect written), rest) := by
  cases h with
  | empty hbs =>
    refine ⟨_, rfl, ?_⟩
    rw [List.append_assoc, List.singleton_append, Json.readObject,
      skipBlanks_append_cons hbs (by decide)]
    rfl
  | members hms =>
    refine ⟨_, rfl, ?_⟩
    obtain ⟨front, ds, hfront, rfl, hds⟩ := hms.exists_eq_cons
    obtain ⟨name, mid, hname, hfirst⟩ := hitem.exists_readName hds rest
    have hmarker : name ≠ numberMarker := by
      rw [hfirst, beq_eq_false_iff_ne] at hled
      exact hled
    have hread := hitem.readMembers hds (('"' :: (ds ++ '}' :: rest)).length + 1)
      (by have := hds.length_le; simp only [List.length_cons, List.length_append] at this ⊢; omega)
      rest
    rw [List.cons_append] at hname hread
    rw [List.append_assoc, List.singleton_append, List.append_assoc, List.cons_append,
      readObject_of_readName item hfront hname, if_neg hmarker, hread]
    rfl

/-- **An object is read as one.** -/
theorem Complete.readObject (hitem : Complete item rel) {cs : List Char} {v : Value}
    (h : SpellsObject rel cs v) (rest : List Char) :
    ∃ ds, cs = '{' :: ds ∧ readObject item (ds ++ rest) = .ok (v, rest) := by
  cases h with
  | members hwritten hled hamounts =>
    rw [hamounts.eq_collect]
    exact hitem.readObject_written hwritten hled rest
  | disguise hmember hs =>
    refine ⟨_, rfl, ?_⟩
    obtain ⟨hfront, hkey, hback, hpadded⟩ := hmember
    obtain ⟨hfront', ⟨-, htext⟩, hback'⟩ := hpadded
    next front key back front' text back' =>
    have hname := readName_spelled .nil hkey hback
      (front' ++ (text ++ back') ++ '}' :: rest)
    obtain ⟨ds, rfl⟩ := hkey.exists_eq_cons
    simp only [List.nil_append, List.append_assoc, List.cons_append] at hname ⊢
    rw [readObject_of_readName item hfront hname, if_pos rfl]
    simpa only [List.append_assoc, List.cons_append] using
      readSpelled_spelled hfront' htext hback' hs rest

/-! ## Values -/

/-- How a value begins. -/
theorem Spells.exists_eq_cons {levels : Nat} {cs : List Char} {v : Value}
    (h : Spells levels cs v) : ∃ c ds, cs = c :: ds ∧ isBlank c = false ∧ c ≠ ']' := by
  have hscalar : ∀ {cs : List Char} {v : Value}, SpellsScalar cs v →
      ∃ c ds, cs = c :: ds ∧ isBlank c = false ∧ c ≠ ']' := by
    intro cs v h
    obtain ⟨c, ds, heq, hc, hne⟩ := h.exists_eq_cons
    refine ⟨c, ds, heq, hc, ?_⟩
    rintro rfl
    exact hne (by decide)
  cases levels with
  | zero => exact hscalar h
  | succ levels =>
    rcases h with h | ⟨vs, -, h⟩ | h
    · exact hscalar h
    · cases h <;> exact ⟨_, _, rfl, by decide⟩
    · cases h with
      | members h _ _ => cases h <;> exact ⟨_, _, rfl, by decide⟩
      | disguise _ _ => exact ⟨_, _, rfl, by decide⟩

/-- A value without parts is read at any level. -/
theorem readValue_spelled_scalar {cs front rest : List Char} {v : Value} (hfront : Blanks front)
    (h : SpellsScalar cs v) (hrest : EndsNumber rest) (levels : Nat) :
    readValue levels (front ++ (cs ++ rest)) = .ok (v, rest) := by
  have hread := readScalar_spelled h hrest
  obtain ⟨c, ds, rfl, hc, hne⟩ := h.exists_eq_cons
  rw [List.cons_append] at hread ⊢
  rw [readValue.eq_def, skipBlanks_append_cons hfront hc]
  split
  · next heq => exact absurd (by rw [(List.cons.inj heq).1]; decide) hne
  · next heq => exact absurd (by rw [(List.cons.inj heq).1]; decide) hne
  · exact hread

/-- **What is read as a value is one**, … -/
theorem sound_readValue (levels : Nat) : Sound (readValue levels) (Spells levels) := by
  have hscalar : ∀ {cs rest : List Char} {v : Value} {levels : Nat},
      readScalar (skipBlanks cs) = .ok (v, rest) →
      ∃ front body, Blanks front ∧ cs = front ++ (body ++ rest) ∧ Spells levels body v := by
    intro cs rest v levels h
    obtain ⟨front, hfront, hskip⟩ := exists_skipBlanks cs
    obtain ⟨body, heq, hbody⟩ := spellsScalar_of_readScalar h
    refine ⟨front, body, hfront, by rw [← heq]; exact hskip, ?_⟩
    cases levels with
    | zero => exact hbody
    | succ levels => exact Or.inl hbody
  induction levels with
  | zero =>
    intro cs v rest h
    rw [readValue.eq_def] at h
    split at h
    · cases h
    · cases h
    · exact hscalar h
  | succ levels ih =>
    intro cs v rest h
    obtain ⟨front, hfront, hskip⟩ := exists_skipBlanks cs
    rw [readValue.eq_def] at h
    split at h
    · next tail heq =>
      obtain ⟨body, vs, hbody, rfl, hvs⟩ := ih.readArray h
      exact ⟨front, body, hfront, by rw [← hbody, ← heq]; exact hskip,
        Or.inr (Or.inl ⟨vs, rfl, hvs⟩)⟩
    · next tail heq =>
      obtain ⟨body, hbody, hv⟩ := ih.readObject h
      exact ⟨front, body, hfront, by rw [← hbody, ← heq]; exact hskip, Or.inr (Or.inr hv)⟩
    · exact hscalar h

/-- … **and a value is read as one.** -/
theorem complete_readValue (levels : Nat) : Complete (readValue levels) (Spells levels) := by
  refine ⟨?_, fun _ _ => Spells.exists_eq_cons⟩
  induction levels with
  | zero =>
    intro front body v rest hfront h hrest
    exact readValue_spelled_scalar hfront h hrest 0
  | succ levels ih =>
    intro front body v rest hfront h hrest
    have hitem : Complete (readValue levels) (Spells levels) :=
      ⟨ih, fun _ _ => Spells.exists_eq_cons⟩
    rcases h with h | ⟨vs, rfl, h⟩ | h
    · exact readValue_spelled_scalar hfront h hrest (levels + 1)
    · obtain ⟨ds, rfl, hread⟩ := hitem.readArray h rest
      rw [List.cons_append, readValue.eq_def, skipBlanks_append_cons hfront (by decide)]
      exact hread
    · obtain ⟨ds, rfl, hread⟩ := hitem.readObject h rest
      rw [List.cons_append, readValue.eq_def, skipBlanks_append_cons hfront (by decide)]
      exact hread

/-- **A text is read as a value exactly if it denotes the value.** -/
theorem Value.parse_eq_ok_iff (text : String) (v : Value) :
    Value.parse text = .ok v ↔ Denotes text v := by
  rw [Value.parse]
  constructor
  · intro h
    split at h
    · next w rest hread =>
      split at h
      · next hempty =>
        obtain ⟨front, body, hfront, heq, hbody⟩ := sound_readValue maxDepth _ _ _ hread
        obtain ⟨back, hback, hrest⟩ := exists_of_skipBlanks_eq (List.isEmpty_iff.mp hempty)
        rw [← Except.ok.inj h, Denotes, heq, hrest, List.append_nil]
        exact .intro hfront hbody hback
      · cases h
    · cases h
  · intro h
    unfold Denotes at h
    generalize text.toList = cs at h
    obtain ⟨hfront, hbody, hback⟩ := h
    next front body back =>
    have hread := (complete_readValue maxDepth).read front body v back hfront hbody
      (by rw [← List.append_nil back]; exact endsNumber_nil.append hback)
    have hempty : skipBlanks back = [] := by
      rw [← List.append_nil back, skipBlanks_append hback]
      rfl
    rw [hread]
    simp only [hempty, List.isEmpty_nil, if_true]

/-! ## Objects as they are written -/

variable {text : String} {written : Members}

/-- **An object is read as what its members amount to**, where the marker is
not the first of them. -/
theorem WritesObject.parse_eq (h : WritesObject text written) (hled : written.isLed = false) :
    Value.parse text = .ok (.object (Members.collect written)) := by
  obtain ⟨front, body, back, hfront, hback, htext, hbody⟩ := h
  rw [Value.parse_eq_ok_iff, Denotes, htext]
  exact .intro hfront (Or.inr (Or.inr (.members hbody hled (amountsTo_collect written)))) hback

/-- **What is read as an object is written as one.** -/
theorem exists_writesObject_iff (text : String) :
    (∃ written, WritesObject text written ∧ written.isLed = false)
      ↔ ∃ ms, Value.parse text = .ok (.object ms) := by
  constructor
  · rintro ⟨written, h, hled⟩
    exact ⟨_, h.parse_eq hled⟩
  · rintro ⟨ms, h⟩
    rw [Value.parse_eq_ok_iff, Denotes] at h
    generalize htext : text.toList = cs at h
    generalize hv : Value.object ms = v at h
    obtain ⟨hfront, hspells, hback⟩ := h
    subst hv
    rcases hspells with hscalar | ⟨vs, hvs, -⟩ | hobject
    · cases hscalar
    · cases hvs
    · obtain ⟨hbody, hled, -⟩ := hobject
      exact ⟨_, ⟨_, _, _, hfront, hback, htext, hbody⟩, hled⟩

/-- A text whose members are read behind its brace is an object with these
members. -/
theorem writesObject_of_readMembers (fuel : Nat) {front cs back : List Char}
    (htext : text.toList = front ++ '{' :: cs) (hfront : Blanks front) (hback : Blanks back)
    (hread : readMembers (readValue (maxDepth - 1)) fuel cs = .ok (written, back)) :
    WritesObject text written := by
  obtain ⟨body, rfl, hbody⟩ := (sound_readValue (maxDepth - 1)).readMembers hread
  refine ⟨front, '{' :: (body ++ ['}']), back, hfront, hback, ?_, .members hbody⟩
  rw [htext, List.cons_append, List.append_assoc, List.singleton_append]

end EchoProbe.Json
