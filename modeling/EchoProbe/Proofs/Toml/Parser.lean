import EchoProbe.Proofs.Toml.Document
import EchoProbe.Proofs.Toml.Lexical

/-!
# The reader of TOML takes off what it reads

A value is taken off the front of the text, and it holds no name twice (`Takes`). This is so
of a value without parts; for arrays and tables in braces it follows from the values
inside, by induction on the levels.

Since every statement takes something off, the fuel with which a text is read plays no part
once there is more of it than there are characters (`readStatements?_congr`). That is what
it takes to read a text behind another one. Here it is a line that is a comment: the
lines that follow it are read as if it were not there (`parse_comment`). And a text spells
only documents that hold no name twice (`distinct_of_parse`).
-/

namespace EchoProbe.Toml

open EchoProbe.Text

variable {cs rest : List Char} {fuel : Nat} {node : Node}

/-! ### Values -/

/-- **A value is taken off the front of a text**, and holds no name twice. -/
structure Takes (cs : List Char) (node : Node) (rest : List Char) : Prop where
  /-- What is left is no longer than the text. -/
  length_le : rest.length ≤ cs.length
  /-- The value holds no name twice. -/
  distinct : node.Distinct

theorem Takes.cons (h : Takes cs node rest) (c : Char) : Takes (c :: cs) node rest :=
  ⟨Nat.le_succ_of_le h.length_le, h.distinct⟩

theorem distinct_of_integer? {n : Int} (h : integer? n = some node) : node.Distinct := by
  unfold integer? at h
  split at h
  · cases h
    exact .integer n
  · cases h

theorem distinct_of_float? {negative : Bool} {digits : Nat} {exponent : Int}
    (h : float? negative digits exponent = some node) : node.Distinct := by
  dsimp only [float?] at h
  split at h
  · cases h
    exact .float _
  · cases h

theorem takes_of_readDecimal? (h : readDecimal? cs = some (node, rest)) : Takes cs node rest := by
  have hsign := length_readSign_le cs
  unfold readDecimal? at h
  generalize readSign cs = sign at h hsign
  obtain ⟨negative, unsigned⟩ := sign
  dsimp only at h hsign
  split at h
  · cases h
    simp only [List.length_cons] at hsign
    exact ⟨by omega, .float _⟩
  · cases h
    simp only [List.length_cons] at hsign
    exact ⟨by omega, .float _⟩
  · simp only [Option.bind_eq_bind, Option.bind_eq_some_iff] at h
    obtain ⟨⟨whole, left⟩, hwhole, h⟩ := h
    have hwhole := length_of_readWhole? hwhole
    dsimp only at h
    split at h
    · simp only [Option.bind_eq_some_iff] at h
      obtain ⟨⟨fraction, left'⟩, hfraction, ⟨power, left''⟩, hpower, node', hnode, h⟩ := h
      cases h
      have hfraction := length_of_readDigits? hfraction
      have hpower := length_of_readExponent? hpower
      rw [List.length_cons] at hwhole
      dsimp only at *
      exact ⟨by omega, distinct_of_float? hnode⟩
    · split at h
      · simp only [Option.bind_eq_some_iff] at h
        obtain ⟨⟨power, left'⟩, hpower, node', hnode, h⟩ := h
        cases h
        have hpower := length_of_readExponent? hpower
        dsimp only at *
        exact ⟨by omega, distinct_of_float? hnode⟩
      · simp only [Option.bind_eq_some_iff] at h
        obtain ⟨node', hnode, h⟩ := h
        cases h
        exact ⟨by omega, distinct_of_integer? hnode⟩

theorem takes_of_readBase? {base : Nat} (h : readBase? base cs = some (node, rest)) :
    Takes cs node rest := by
  simp only [readBase?, Option.bind_eq_bind, Option.bind_eq_some_iff] at h
  obtain ⟨⟨ds, left⟩, hread, node', hnode, h⟩ := h
  cases h
  exact ⟨length_of_readDigits? hread, distinct_of_integer? hnode⟩

theorem takes_of_readNumeric? (h : readNumeric? cs = some (node, rest)) : Takes cs node rest := by
  unfold readNumeric? at h
  split at h
  · obtain ⟨left, hread, h⟩ := Option.map_eq_some_iff.mp h
    cases h
    exact ⟨length_of_readDate? hread, .moment⟩
  · split at h
    · obtain ⟨left, hread, h⟩ := Option.map_eq_some_iff.mp h
      cases h
      exact ⟨length_of_readTime? hread, .moment⟩
    · split at h
      · exact ((takes_of_readBase? h).cons _).cons _
      · exact ((takes_of_readBase? h).cons _).cons _
      · exact ((takes_of_readBase? h).cons _).cons _
      · exact takes_of_readDecimal? h

theorem takes_of_readPlain? (h : readPlain? cs = some (node, rest)) : Takes cs node rest := by
  unfold readPlain? at h
  split at h
  · cases h
  · cases h
    exact ⟨by simp only [List.length_cons]; omega, .boolean true⟩
  · cases h
    exact ⟨by simp only [List.length_cons]; omega, .boolean false⟩
  · split at h
    · obtain ⟨s, hread, rfl⟩ := exists_of_map (f := fun s => Node.string (String.ofList s)) h
      exact ⟨length_of_readString? hread, .string _⟩
    · split at h
      · exact takes_of_readNumeric? h
      · cases h

/-- A reader of values takes off those that it gives. -/
def Reads (value : List Char → Option (Node × List Char)) : Prop :=
  ∀ {cs node rest}, value cs = some (node, rest) → Takes cs node rest

variable {value : List Char → Option (Node × List Char)}

theorem takes_of_readItems? (hvalue : Reads value) {nodes : List Node}
    (h : readItems? value fuel cs = some (nodes, rest)) :
    rest.length ≤ cs.length ∧ ∀ n ∈ nodes, n.Distinct := by
  induction fuel generalizing cs nodes with
  | zero => cases h
  | succ fuel ih =>
    simp only [readItems?, Option.bind_eq_bind, Option.bind_eq_some_iff] at h
    obtain ⟨cs₁, hlines, h⟩ := h
    have hlines := length_of_skipLines? hlines
    split at h
    · cases h
      rw [List.length_cons] at hlines
      exact ⟨by omega, List.forall_mem_nil _⟩
    · simp only [Option.bind_eq_some_iff] at h
      obtain ⟨⟨node, cs₂⟩, hread, cs₃, hlines', h⟩ := h
      obtain ⟨hread, hnode⟩ := hvalue hread
      have hlines' := length_of_skipLines? hlines'
      dsimp only at *
      split at h
      · cases h
        rw [List.length_cons] at hlines'
        exact ⟨by omega, List.forall_mem_singleton.mpr hnode⟩
      · simp only [Option.bind_eq_some_iff] at h
        obtain ⟨⟨nodes', left⟩, hitems, h⟩ := h
        cases h
        obtain ⟨hitems, hnodes⟩ := ih hitems
        rw [List.length_cons] at hlines'
        exact ⟨by omega, List.forall_mem_cons.mpr ⟨hnode, hnodes⟩⟩
      · cases h

theorem takes_of_readPairs? (hvalue : Reads value) {pairs : List (List String × String × Node)}
    (h : readPairs? value fuel cs = some (pairs, rest)) :
    rest.length ≤ cs.length ∧ ∀ p ∈ pairs, p.2.2.Distinct := by
  induction fuel generalizing cs pairs with
  | zero => cases h
  | succ fuel ih =>
    simp only [readPairs?, Option.bind_eq_bind, Option.bind_eq_some_iff] at h
    obtain ⟨⟨path, name, cs₁⟩, hname, cs₂, hequals, ⟨node, cs₃⟩, hread, h⟩ := h
    have hname := length_of_readName? hname
    have hequals := length_of_readChar? hequals
    obtain ⟨hread, hnode⟩ := hvalue hread
    have hfront := length_skipBlanks_le cs₂
    have hbehind := length_skipBlanks_le cs₃
    dsimp only at *
    split at h
    · next heq =>
      cases h
      rw [heq, List.length_cons] at hbehind
      exact ⟨by omega, List.forall_mem_singleton.mpr hnode⟩
    · next heq =>
      simp only [Option.bind_eq_some_iff] at h
      obtain ⟨⟨pairs', left⟩, hpairs, h⟩ := h
      cases h
      obtain ⟨hpairs, hnodes⟩ := ih hpairs
      rw [heq, List.length_cons] at hbehind
      exact ⟨by omega, List.forall_mem_cons.mpr ⟨hnode, hnodes⟩⟩
    · cases h

theorem reads_readValue? (levels : Nat) : Reads (readValue? levels) := by
  induction levels with
  | zero =>
    intro cs node rest h
    unfold readValue? at h
    split at h
    · cases h
    · cases h
    · exact takes_of_readPlain? h
  | succ levels ih =>
    intro cs node rest h
    unfold readValue? at h
    split at h
    · obtain ⟨nodes, hread, rfl⟩ := exists_of_map h
      obtain ⟨hitems, hnodes⟩ := takes_of_readItems? ih hread
      exact ⟨Nat.le_succ_of_le hitems, .array hnodes⟩
    · next cs =>
      have hblanks := length_skipBlanks_le cs
      dsimp only at h
      split at h
      · next heq =>
        cases h
        rw [heq, List.length_cons] at hblanks
        exact ⟨by rw [List.length_cons]; omega, Entries.Distinct.nil.table .inline⟩
      · simp only [Option.bind_eq_bind, Option.bind_eq_some_iff] at h
        obtain ⟨⟨pairs, left⟩, hread, node', hnode, h⟩ := h
        cases h
        obtain ⟨hpairs, hnodes⟩ := takes_of_readPairs? ih hread
        exact ⟨Nat.le_succ_of_le hpairs, Entries.Distinct.of_inlineTable hnodes hnode⟩
    · exact takes_of_readPlain? h

/-! ### Statements -/

theorem takes_of_readAssignment? {statement : Statement}
    (h : readAssignment? cs = some (statement, rest)) :
    rest.length < cs.length ∧ statement.Distinct := by
  simp only [readAssignment?, Option.bind_eq_bind, Option.bind_eq_some_iff] at h
  obtain ⟨⟨path, name, cs₁⟩, hname, cs₂, hequals, ⟨node, cs₃⟩, hread, cs₄, hline, h⟩ := h
  cases h
  have hname := length_of_readName? hname
  have hequals := length_of_readChar? hequals
  have hblanks := length_skipBlanks_le cs₂
  obtain ⟨hread, hnode⟩ := reads_readValue? maxDepth hread
  have hline := length_of_readLineRest? hline
  dsimp only at *
  exact ⟨by omega, hnode⟩

theorem takes_of_readHeader? {statement : Statement}
    (h : readHeader? cs = some (statement, rest)) :
    rest.length < cs.length ∧ statement.Distinct := by
  unfold readHeader? at h
  split at h
  · simp only [Option.bind_eq_bind, Option.bind_eq_some_iff] at h
    obtain ⟨⟨path, name, cs₁⟩, hname, cs₂, hbracket, cs₃, hbracket', cs₄, hline, h⟩ := h
    cases h
    have hname := length_of_readName? hname
    have hbracket := length_of_readChar? hbracket
    have hbracket' := length_of_readChar? hbracket'
    have hline := length_of_readLineRest? hline
    simp only [List.length_cons]
    dsimp only at *
    exact ⟨by omega, trivial⟩
  · simp only [Option.bind_eq_bind, Option.bind_eq_some_iff] at h
    obtain ⟨⟨path, name, cs₁⟩, hname, cs₂, hbracket, cs₃, hline, h⟩ := h
    cases h
    have hname := length_of_readName? hname
    have hbracket := length_of_readChar? hbracket
    have hline := length_of_readLineRest? hline
    rw [List.length_cons]
    dsimp only at *
    exact ⟨by omega, trivial⟩
  · cases h

/-- **The fuel plays no part** if there is enough of it. -/
theorem readStatements?_congr {fuel' : Nat} (h : cs.length < fuel) (h' : cs.length < fuel') :
    readStatements? fuel cs = readStatements? fuel' cs := by
  induction fuel generalizing cs fuel' with
  | zero => exact absurd h (Nat.not_lt_zero _)
  | succ fuel ih =>
    obtain ⟨fuel', rfl⟩ := Nat.exists_eq_add_one_of_ne_zero (Nat.ne_zero_of_lt h')
    have hblanks := length_skipBlanks_le cs
    rw [readStatements?, readStatements?]
    split
    · rfl
    · next comment heq =>
      rw [heq, List.length_cons] at hblanks
      have hcomment := length_dropWhile_le isCommentChar comment
      refine Option.bind_congr fun left hleft => ?_
      have hleft := length_of_readLineEnd? hleft
      exact ih (by omega) (by omega)
    · next left heq =>
      rw [heq, List.length_cons] at hblanks
      exact ih (by omega) (by omega)
    · next heq =>
      rw [heq] at hblanks
      refine Option.bind_congr fun left hleft => ?_
      have hleft := length_of_readNewline? hleft
      exact ih (by omega) (by omega)
    · next heq =>
      rw [heq] at hblanks
      refine Option.bind_congr fun ⟨statement, left⟩ hread => ?_
      have hread := (takes_of_readHeader? hread).1
      have hsame : readStatements? fuel left = readStatements? fuel' left :=
        ih (by omega) (by omega)
      dsimp only
      rw [hsame]
    · refine Option.bind_congr fun ⟨statement, left⟩ hread => ?_
      have hread := (takes_of_readAssignment? hread).1
      have hsame : readStatements? fuel left = readStatements? fuel' left :=
        ih (by omega) (by omega)
      dsimp only
      rw [hsame]

/-- A line that is a comment is passed over. -/
theorem readStatements?_comment {comment : List Char}
    (hcomment : ∀ c ∈ comment, isCommentChar c = true) (fuel : Nat) (cs : List Char) :
    readStatements? (fuel + 1) ('#' :: (comment ++ '\n' :: cs)) = readStatements? fuel cs := by
  have hend : (comment ++ '\n' :: cs).dropWhile isCommentChar = '\n' :: cs := by
    rw [List.dropWhile_append_of_pos hcomment]
    rfl
  rw [readStatements?]
  show (readLineEnd? ((comment ++ '\n' :: cs).dropWhile isCommentChar)).bind _ = _
  rw [hend]
  rfl

theorem skipMark_of_head?_ne {cs : List Char} (h : cs.head? ≠ some '\uFEFF') :
    skipMark cs = cs := by
  cases cs with
  | nil => rfl
  | cons c cs =>
    refine if_neg fun hmark => h (congrArg some ?_)
    exact Char.toNat_inj.mp hmark

/-- **A comment in front of a text** is read as if it were not there, unless the
text begins with a mark. -/
theorem parse_comment {comment text : String}
    (hcomment : ∀ c ∈ comment.toList, isCommentChar c = true)
    (hmark : text.toList.head? ≠ some '\uFEFF') :
    parse ("#" ++ comment ++ "\n" ++ text) = parse text := by
  have htext : ("#" ++ comment ++ "\n" ++ text).toList
      = '#' :: (comment.toList ++ '\n' :: text.toList) := by
    simp
  rw [parse, parse, ← String.length_toList, ← String.length_toList, htext,
    skipMark_of_head?_ne hmark]
  show (readStatements? _ ('#' :: _)).bind build = _
  rw [readStatements?_comment hcomment]
  refine congrArg (Option.bind · build) (readStatements?_congr ?_ ?_)
  · rw [List.length_cons, List.length_append, List.length_cons]
    omega
  · exact Nat.lt_succ_self _

theorem distinct_of_readStatements? {statements : List Statement}
    (h : readStatements? fuel cs = some statements) : ∀ s ∈ statements, s.Distinct := by
  induction fuel generalizing cs statements with
  | zero => cases h
  | succ fuel ih =>
    rw [readStatements?] at h
    split at h
    · cases h
      exact List.forall_mem_nil _
    · obtain ⟨cs₁, -, h⟩ := Option.bind_eq_some_iff.mp h
      exact ih h
    · exact ih h
    · obtain ⟨cs₁, -, h⟩ := Option.bind_eq_some_iff.mp h
      exact ih h
    · simp only [Option.bind_eq_bind, Option.bind_eq_some_iff] at h
      obtain ⟨⟨statement, left⟩, hread, statements', hrest, h⟩ := h
      cases h
      exact List.forall_mem_cons.mpr ⟨(takes_of_readHeader? hread).2, ih hrest⟩
    · simp only [Option.bind_eq_bind, Option.bind_eq_some_iff] at h
      obtain ⟨⟨statement, left⟩, hread, statements', hrest, h⟩ := h
      cases h
      exact List.forall_mem_cons.mpr ⟨(takes_of_readAssignment? hread).2, ih hrest⟩

/-- **A text spells a document that holds no name twice.** -/
theorem distinct_of_parse {text : String} {es : Entries} (h : parse text = some es) :
    es.Distinct := by
  obtain ⟨statements, hread, hbuild⟩ := Option.bind_eq_some_iff.mp h
  exact distinct_of_build (distinct_of_readStatements? hread) hbuild

end EchoProbe.Toml
