import EchoProbe.Text.Painted

/-!
# Colours taken out of a text

A colour sequence is an escape character, `[`, some parameters and `m`. `stripColours` goes
through a text and leaves out each sequence that it meets; everything else it keeps, also an
escape character that begins no sequence.

Where a text ends within a sequence, what follows may complete it. A text that does not is
*settled*, and what stands behind it is stripped apart from it (`dropSequences_append`). So
painting a settled text leaves no trace, and lines of which each piece but the last is settled
become the same text with colours as without (`stripColours_renderLines`), whatever their pieces
hold. If they hold no escape character, that is the plain text as it is
(`dropSequences_eq_self`).
-/

namespace EchoProbe.Text

/-! ## Sequences -/

/-- A parameter of a colour sequence, or the sign between two of them. -/
def isParameter (c : Char) : Bool := c.isDigit || c == ';'

/-- **A colour sequence.** -/
def IsSequence (cs : List Char) : Prop :=
  ∃ parameters : List Char, parameters.all isParameter = true ∧
    cs = escape :: '[' :: parameters ++ ['m']

theorem isSequence_sequence (tone : Tone) : IsSequence tone.sequence := by
  cases tone with
  | good => exact ⟨['1', ';', '3', '2'], rfl, rfl⟩
  | bad => exact ⟨['1', ';', '3', '1'], rfl, rfl⟩
  | doubtful => exact ⟨['1', ';', '3', '3'], rfl, rfl⟩

theorem isSequence_resetSequence : IsSequence resetSequence := ⟨['0'], rfl, rfl⟩

/-- What stands behind the sequence that a text begins with, if it begins with one. -/
def behindSequence? : List Char → Option (List Char)
  | c :: '[' :: cs =>
    if c = escape then
      match cs.dropWhile isParameter with
      | 'm' :: rest => some rest
      | _ => none
    else none
  | _ => none

theorem behindSequence?_eq_some_iff {cs rest : List Char} :
    behindSequence? cs = some rest ↔ ∃ s, IsSequence s ∧ cs = s ++ rest := by
  constructor
  · intro h
    unfold behindSequence? at h
    split at h
    · next c cs =>
      split at h
      · next hescape =>
        split at h
        · next hdrop =>
          cases h
          refine ⟨escape :: '[' :: cs.takeWhile isParameter ++ ['m'],
            ⟨_, List.all_takeWhile, rfl⟩, ?_⟩
          have hsplit := List.takeWhile_append_dropWhile (p := isParameter) (l := cs)
          rw [hdrop] at hsplit
          simp [hescape, hsplit]
        · cases h
      · cases h
    · cases h
  · rintro ⟨_, ⟨parameters, hparameters, rfl⟩, rfl⟩
    have hdrop : (parameters ++ 'm' :: rest).dropWhile isParameter = 'm' :: rest :=
      List.dropWhile_append_of_pos (List.all_eq_true.mp hparameters)
    simp [behindSequence?, hdrop]

theorem behindSequence?_eq_none_iff {cs : List Char} :
    behindSequence? cs = none ↔ ∀ s, IsSequence s → ¬ s <+: cs := by
  rw [Option.eq_none_iff_forall_ne_some]
  constructor
  · rintro h s hs ⟨rest, rfl⟩
    exact h rest (behindSequence?_eq_some_iff.mpr ⟨s, hs, rfl⟩)
  · intro h rest hrest
    obtain ⟨s, hs, rfl⟩ := behindSequence?_eq_some_iff.mp hrest
    exact h s hs (List.prefix_append s rest)

theorem length_lt_of_behindSequence? {cs rest : List Char} (h : behindSequence? cs = some rest) :
    rest.length < cs.length := by
  obtain ⟨_, ⟨parameters, -, rfl⟩, rfl⟩ := behindSequence?_eq_some_iff.mp h
  simp only [List.cons_append, List.length_cons, List.length_append]
  omega

/-- The characters that are left without the colour sequences. -/
def dropSequences : List Char → List Char
  | [] => []
  | c :: cs =>
    match _ : behindSequence? (c :: cs) with
    | some rest => dropSequences rest
    | none => c :: dropSequences cs
termination_by cs => cs.length
decreasing_by
  · exact length_lt_of_behindSequence? ‹_›
  · exact Nat.lt_succ_self _

/-- **A text without its colour sequences.** -/
def stripColours (text : String) : String := String.ofList (dropSequences text.toList)

/-- A sequence at the front is left out. -/
theorem dropSequences_sequence {s : List Char} (hs : IsSequence s) (cs : List Char) :
    dropSequences (s ++ cs) = dropSequences cs := by
  have hsome : behindSequence? (s ++ cs) = some cs :=
    behindSequence?_eq_some_iff.mpr ⟨s, hs, rfl⟩
  obtain ⟨parameters, -, rfl⟩ := hs
  simp only [List.cons_append] at hsome ⊢
  rw [dropSequences]
  split
  · next hrest => rw [hsome] at hrest; cases hrest; rfl
  · next hnone => rw [hsome] at hnone; cases hnone

/-- Any other character at the front is kept. -/
theorem dropSequences_cons {c : Char} {cs : List Char} (h : behindSequence? (c :: cs) = none) :
    dropSequences (c :: cs) = c :: dropSequences cs := by
  rw [dropSequences]
  split
  · next hrest => rw [h] at hrest; cases hrest
  · rfl

/-- **A text without escape characters stays as it is.** -/
theorem dropSequences_eq_self {cs : List Char} (h : escape ∉ cs) : dropSequences cs = cs := by
  induction cs with
  | nil => rw [dropSequences]
  | cons c cs ih =>
    rw [List.mem_cons, not_or] at h
    obtain ⟨hc, hcs⟩ := h
    have hnone : behindSequence? (c :: cs) = none := by
      rw [behindSequence?_eq_none_iff]
      rintro _ ⟨parameters, -, rfl⟩ hprefix
      exact hc (List.cons_prefix_cons.mp hprefix).1
    rw [dropSequences_cons hnone, ih hcs]

theorem stripColours_eq_self {text : String} (h : escape ∉ text.toList) :
    stripColours text = text := by
  rw [stripColours, dropSequences_eq_self h, String.ofList_toList]

/-- An escape character that begins no sequence stays. -/
example : stripColours "a\x1b[1;32mb\x1b[0m\x1b[c" = "ab\x1b[c" := by cbv

/-! ## Settled texts -/

/-- **A text that does not end within a sequence.** -/
def Settled (cs : List Char) : Prop :=
  ∀ t s, t <:+ cs → t <+: s → IsSequence s → t = [] ∨ t = s

theorem Settled.of_suffix {cs ds : List Char} (h : Settled cs) (hsuffix : ds <:+ cs) :
    Settled ds :=
  fun t s ht => h t s (ht.trans hsuffix)

theorem settled_of_not_mem {cs : List Char} (h : escape ∉ cs) : Settled cs := by
  rintro t _ hsuffix hprefix ⟨parameters, -, rfl⟩
  cases t with
  | nil => exact .inl rfl
  | cons c t =>
    obtain rfl : c = escape := (List.cons_prefix_cons.mp hprefix).1
    exact absurd (hsuffix.subset List.mem_cons_self) h

/-- A character that stands in no sequence settles the text that it ends. -/
theorem settled_concat (cs : List Char) {c : Char} (hescape : c ≠ escape) (hbracket : c ≠ '[')
    (hparameter : isParameter c = false) : Settled (cs ++ [c]) := by
  rintro t _ hsuffix hprefix ⟨parameters, hparameters, rfl⟩
  obtain rfl | ⟨t, rfl, -⟩ := List.suffix_concat_iff.mp hsuffix
  · exact .inl rfl
  · refine .inr ((List.prefix_concat_iff.mp hprefix).resolve_right fun hwithin => ?_)
    have hmem : c ∈ escape :: '[' :: parameters :=
      hwithin.subset (List.mem_append_right _ (List.mem_singleton_self c))
    rcases List.mem_cons.mp hmem with heq | hmem
    · exact hescape heq
    · rcases List.mem_cons.mp hmem with heq | hmem
      · exact hbracket heq
      · exact Bool.false_ne_true (hparameter.symm.trans (List.all_eq_true.mp hparameters c hmem))

/-- No sequence comes about where something is added to a settled text. -/
theorem Settled.behindSequence?_append {c : Char} {cs : List Char} (h : Settled (c :: cs))
    (hnone : behindSequence? (c :: cs) = none) (ds : List Char) :
    behindSequence? (c :: cs ++ ds) = none := by
  rw [behindSequence?_eq_none_iff] at hnone ⊢
  intro s hs hprefix
  rcases List.prefix_or_prefix_of_prefix hprefix (List.prefix_append (c :: cs) ds) with
    hshort | hlong
  · exact hnone s hs hshort
  · rcases h _ s List.suffix_rfl hlong hs with hnil | heq
    · cases hnil
    · exact hnone s hs (heq ▸ List.prefix_rfl)

/-- **What stands behind a settled text is stripped apart from it.** -/
theorem dropSequences_append {cs : List Char} (h : Settled cs) (ds : List Char) :
    dropSequences (cs ++ ds) = dropSequences cs ++ dropSequences ds := by
  fun_induction dropSequences cs with
  | case1 => rfl
  | case2 c cs rest hrest ih =>
    obtain ⟨s, hs, heq⟩ := behindSequence?_eq_some_iff.mp hrest
    rw [heq] at h ⊢
    rw [List.append_assoc, dropSequences_sequence hs, ih (h.of_suffix (List.suffix_append s rest))]
  | case3 c cs hnone ih =>
    have hfront := h.behindSequence?_append hnone ds
    rw [List.cons_append] at hfront ⊢
    rw [dropSequences_cons hfront, ih (h.of_suffix (List.suffix_cons c cs)), List.cons_append]

/-! ## Lines -/

/-- **A line that colours leave no trace in**: each piece but the last is settled, and the last
is plain. -/
def LineSettled (line : Line) : Prop :=
  ∃ pieces text, line = pieces ++ [plain text] ∧ ∀ span ∈ pieces, Settled span.text.toList

theorem lineSettled_plain (text : String) : LineSettled [plain text] :=
  ⟨[], text, rfl, List.forall_mem_nil _⟩

/-- Painted or not, a settled piece leaves its own text. -/
theorem dropSequences_span_append {span : Span} (h : Settled span.text.toList) (coloured : Bool)
    (rest : List Char) :
    dropSequences (span.toChars coloured ++ rest)
      = dropSequences span.text.toList ++ dropSequences rest := by
  obtain ⟨tone, text⟩ := span
  cases coloured with
  | false => exact dropSequences_append h rest
  | true =>
    cases tone with
    | none => exact dropSequences_append h rest
    | some tone =>
      show dropSequences (tone.sequence ++ text.toList ++ resetSequence ++ rest) = _
      rw [List.append_assoc, List.append_assoc, dropSequences_sequence (isSequence_sequence tone),
        dropSequences_append h, dropSequences_sequence isSequence_resetSequence]

theorem dropSequences_line {line : Line} (h : LineSettled line) (coloured : Bool)
    (rest : List Char) :
    dropSequences (line.flatMap (Span.toChars coloured) ++ '\n' :: rest)
      = dropSequences (line.flatMap (·.text.toList) ++ ['\n']) ++ dropSequences rest := by
  obtain ⟨pieces, text, rfl, hpieces⟩ := h
  induction pieces with
  | nil =>
    have hline : Settled (text.toList ++ ['\n']) :=
      settled_concat text.toList (by decide) (by decide) (by decide)
    have htext : [plain text].flatMap (Span.toChars coloured) = text.toList := by
      cases coloured <;> simp [Span.toChars, plain]
    have hchars : [plain text].flatMap (·.text.toList) = text.toList := by simp [plain]
    rw [List.nil_append, htext, hchars, ← dropSequences_append hline, List.append_assoc,
      List.singleton_append]
  | cons span pieces ih =>
    obtain ⟨hspan, hpieces⟩ := List.forall_mem_cons.mp hpieces
    rw [List.cons_append, List.flatMap_cons, List.flatMap_cons, List.append_assoc,
      List.append_assoc, dropSequences_span_append hspan, ih hpieces, dropSequences_append hspan,
      List.append_assoc]

/-- **Lines become the same text with colours as without.** -/
theorem dropSequences_linesChars {lines : List Line} (h : ∀ line ∈ lines, LineSettled line) :
    dropSequences (linesChars true lines) = dropSequences (linesChars false lines) := by
  induction lines with
  | nil => rfl
  | cons line lines ih =>
    obtain ⟨hline, hlines⟩ := List.forall_mem_cons.mp h
    have hcons : ∀ coloured, linesChars coloured (line :: lines)
        = line.flatMap (Span.toChars coloured) ++ '\n' :: linesChars coloured lines := by
      intro coloured
      rw [linesChars, List.flatMap_cons, List.append_assoc, List.singleton_append]
      rfl
    rw [hcons, hcons, dropSequences_line hline, dropSequences_line hline, ih hlines]

theorem stripColours_renderLines {lines : List Line} (h : ∀ line ∈ lines, LineSettled line) :
    stripColours (renderLines true lines) = stripColours (renderLines false lines) := by
  rw [stripColours, stripColours, renderLines, renderLines, String.toList_ofList,
    String.toList_ofList, dropSequences_linesChars h]

end EchoProbe.Text
