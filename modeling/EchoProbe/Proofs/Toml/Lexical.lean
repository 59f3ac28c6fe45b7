import Mathlib.Data.List.Basic
import EchoProbe.Toml.Parser

/-!
# The words of a TOML text

What reads a word – a name, a string, a number, a date – takes it off the front of the
text, so that what it leaves is no longer than what it was given. There is one lemma
for each reader, in the order in which they build on each other.
-/

namespace EchoProbe.Toml

open EchoProbe.Text

variable {cs rest : List Char} {fuel : Nat}

/-! ### Lines -/

/-- What is done to the value leaves the rest as it is. -/
theorem exists_of_map {α β : Type} {f : α → β} {o : Option (α × List Char)} {b : β}
    (h : (o.map fun (a, left) => (f a, left)) = some (b, rest)) :
    ∃ a, o = some (a, rest) ∧ f a = b := by
  obtain ⟨⟨a, left⟩, ho, h⟩ := Option.map_eq_some_iff.mp h
  cases h
  exact ⟨a, ho, rfl⟩

theorem length_dropWhile_le (p : Char → Bool) (cs : List Char) :
    (cs.dropWhile p).length ≤ cs.length :=
  (List.dropWhile_suffix p).length_le

theorem length_skipBlanks_le (cs : List Char) : (skipBlanks cs).length ≤ cs.length :=
  length_dropWhile_le isBlank cs

theorem length_of_readNewline? (h : readNewline? cs = some rest) : rest.length < cs.length := by
  unfold readNewline? at h
  split at h
  · cases h
    exact Nat.lt_succ_self _
  · cases h
    exact Nat.lt_succ_of_lt (Nat.lt_succ_self _)
  · cases h

theorem length_of_readLineEnd? (h : readLineEnd? cs = some rest) : rest.length ≤ cs.length := by
  unfold readLineEnd? at h
  split at h
  · cases h
    exact Nat.le_refl _
  · exact Nat.le_of_lt (length_of_readNewline? h)

theorem length_skipComment_le (cs : List Char) : (skipComment cs).length ≤ cs.length := by
  unfold skipComment
  split
  · exact Nat.le_succ_of_le (length_dropWhile_le _ _)
  · exact Nat.le_refl _

theorem length_of_readLineRest? (h : readLineRest? cs = some rest) : rest.length ≤ cs.length := by
  have hline := length_of_readLineEnd? h
  have hcomment := length_skipComment_le (skipBlanks cs)
  have hblanks := length_skipBlanks_le cs
  omega

theorem length_of_skipLines? (h : skipLines? fuel cs = some rest) : rest.length ≤ cs.length := by
  induction fuel generalizing cs with
  | zero => cases h
  | succ fuel ih =>
    have hblanks := length_skipBlanks_le cs
    unfold skipLines? at h
    split at h
    · next comment heq =>
      obtain ⟨left, hline, h⟩ := Option.bind_eq_some_iff.mp h
      have hcomment := length_dropWhile_le isCommentChar comment
      have hline := length_of_readNewline? hline
      have hrest := ih h
      rw [heq, List.length_cons] at hblanks
      omega
    · next heq =>
      have hrest := ih h
      rw [heq, List.length_cons] at hblanks
      omega
    · next heq =>
      obtain ⟨left, hline, h⟩ := Option.bind_eq_some_iff.mp h
      have hline := length_of_readNewline? hline
      have hrest := ih h
      rw [heq] at hblanks
      omega
    · cases h
      exact hblanks

/-! ### Strings -/

theorem length_of_readHex? {value n d : Nat} (h : readHex? value n cs = some (d, rest)) :
    rest.length ≤ cs.length := by
  induction n generalizing value cs with
  | zero =>
    cases h
    exact Nat.le_refl _
  | succ n ih =>
    cases cs with
    | nil => cases h
    | cons c cs =>
      obtain ⟨digit, -, h⟩ := Option.bind_eq_some_iff.mp h
      exact Nat.le_succ_of_le (ih h)

theorem length_of_readEscape? {c : Char} (h : readEscape? cs = some (c, rest)) :
    rest.length ≤ cs.length := by
  unfold readEscape? at h
  split at h
  case h_8 | h_9 =>
    simp only [Option.bind_eq_bind, Option.bind_eq_some_iff] at h
    obtain ⟨⟨n, left⟩, hhex, d, -, h⟩ := h
    cases h
    exact Nat.le_succ_of_le (length_of_readHex? hhex)
  case h_10 => cases h
  all_goals
    cases h
    exact Nat.le_succ _

theorem length_of_readBasic? {s : List Char} (h : readBasic? fuel cs = some (s, rest)) :
    rest.length ≤ cs.length := by
  induction fuel generalizing cs s with
  | zero => cases h
  | succ fuel ih =>
    cases cs with
    | nil => cases h
    | cons c cs =>
      simp only [readBasic?, Option.bind_eq_bind] at h
      split at h
      · cases h
        exact Nat.le_succ _
      · split at h
        · simp only [Option.bind_eq_some_iff] at h
          obtain ⟨⟨d, left⟩, hescape, ⟨s', rest'⟩, hread, h⟩ := h
          cases h
          exact Nat.le_succ_of_le (Nat.le_trans (ih hread) (length_of_readEscape? hescape))
        · split at h
          · simp only [Option.bind_eq_some_iff] at h
            obtain ⟨⟨s', rest'⟩, hread, h⟩ := h
            cases h
            exact Nat.le_succ_of_le (ih hread)
          · cases h

theorem length_of_readLiteral? {s : List Char} (h : readLiteral? cs = some (s, rest)) :
    rest.length ≤ cs.length := by
  induction cs generalizing s with
  | nil => cases h
  | cons c cs ih =>
    simp only [readLiteral?] at h
    split at h
    · cases h
      exact Nat.le_succ _
    · split at h
      · obtain ⟨s', hread, -⟩ := exists_of_map h
        exact Nat.le_succ_of_le (ih hread)
      · cases h

theorem length_skipSpace_le (cs : List Char) : (skipSpace cs).length ≤ cs.length := by
  fun_induction skipSpace cs with
  | case1 rest ih => exact Nat.le_succ_of_le (Nat.le_succ_of_le ih)
  | case2 c rest _ _ ih => exact Nat.le_succ_of_le ih
  | case3 c rest _ _ => exact Nat.le_refl _
  | case4 => exact Nat.le_refl _

theorem length_of_readClosing? {quote : Char} {s : List Char}
    (h : readClosing? quote cs = some (s, rest)) : rest.length ≤ cs.length := by
  unfold readClosing? at h
  extract_lets run count at h
  split at h
  · cases h
  · cases h
    rw [List.length_drop]
    exact Nat.sub_le _ _

theorem length_of_readLongBasic? {s : List Char}
    (h : readLongBasic? fuel cs = some (s, rest)) : rest.length ≤ cs.length := by
  induction fuel generalizing cs s with
  | zero => cases h
  | succ fuel ih =>
    cases cs with
    | nil => cases h
    | cons c cs =>
      simp only [readLongBasic?, Option.bind_eq_bind] at h
      split at h
      · split at h
        · next hclosing =>
          cases h
          exact length_of_readClosing? hclosing
        · obtain ⟨s', hread, -⟩ := exists_of_map h
          exact Nat.le_succ_of_le (ih hread)
      · split at h
        · split at h
          · next left hline =>
            have hspace := length_skipSpace_le left
            have hline := length_of_readNewline? hline
            have hblanks := length_skipBlanks_le cs
            have hrest := ih h
            rw [List.length_cons]
            omega
          · simp only [Option.bind_eq_some_iff] at h
            obtain ⟨⟨d, left⟩, hescape, ⟨s', rest'⟩, hread, h⟩ := h
            cases h
            exact Nat.le_succ_of_le (Nat.le_trans (ih hread) (length_of_readEscape? hescape))
        · split at h
          · next hline =>
            obtain ⟨s', hread, -⟩ := exists_of_map h
            exact Nat.le_of_lt (Nat.lt_of_le_of_lt (ih hread) (length_of_readNewline? hline))
          · split at h
            · obtain ⟨s', hread, -⟩ := exists_of_map h
              exact Nat.le_succ_of_le (ih hread)
            · cases h

theorem length_of_readLongLiteral? {s : List Char}
    (h : readLongLiteral? fuel cs = some (s, rest)) : rest.length ≤ cs.length := by
  induction fuel generalizing cs s with
  | zero => cases h
  | succ fuel ih =>
    cases cs with
    | nil => cases h
    | cons c cs =>
      simp only [readLongLiteral?] at h
      split at h
      · split at h
        · next hclosing =>
          cases h
          exact length_of_readClosing? hclosing
        · obtain ⟨s', hread, -⟩ := exists_of_map h
          exact Nat.le_succ_of_le (ih hread)
      · split at h
        · next hline =>
          obtain ⟨s', hread, -⟩ := exists_of_map h
          exact Nat.le_of_lt (Nat.lt_of_le_of_lt (ih hread) (length_of_readNewline? hline))
        · split at h
          · obtain ⟨s', hread, -⟩ := exists_of_map h
            exact Nat.le_succ_of_le (ih hread)
          · cases h

theorem length_dropNewline_le (cs : List Char) : (dropNewline cs).length ≤ cs.length := by
  unfold dropNewline
  cases hline : readNewline? cs with
  | none => exact Nat.le_refl _
  | some rest => exact Nat.le_of_lt (length_of_readNewline? hline)

theorem length_of_readString? {s : List Char} (h : readString? cs = some (s, rest)) :
    rest.length ≤ cs.length := by
  unfold readString? at h
  split at h
  · next cs =>
    have hread := length_of_readLongBasic? h
    have hline := length_dropNewline_le cs
    simp only [List.length_cons]
    omega
  · next cs =>
    have hread := length_of_readLongLiteral? h
    have hline := length_dropNewline_le cs
    simp only [List.length_cons]
    omega
  · exact Nat.le_succ_of_le (length_of_readBasic? h)
  · exact Nat.le_succ_of_le (length_of_readLiteral? h)
  · cases h

/-! ### Names -/

theorem length_of_readPart? {part : String} (h : readPart? cs = some (part, rest)) :
    rest.length ≤ cs.length := by
  unfold readPart? at h
  split at h
  · obtain ⟨s, hread, -⟩ := exists_of_map h
    exact Nat.le_succ_of_le (length_of_readBasic? hread)
  · obtain ⟨s, hread, -⟩ := exists_of_map h
    exact Nat.le_succ_of_le (length_of_readLiteral? hread)
  · extract_lets part at h
    split at h
    · cases h
    · cases h
      exact length_dropWhile_le _ _

theorem length_of_readParts? {parts : List String}
    (h : readParts? fuel cs = some (parts, rest)) : rest.length ≤ cs.length := by
  induction fuel generalizing cs parts with
  | zero => cases h
  | succ fuel ih =>
    simp only [readParts?, Option.bind_eq_bind, Option.bind_eq_some_iff] at h
    obtain ⟨⟨part, left⟩, hpart, h⟩ := h
    have hpart := length_of_readPart? hpart
    have hfront := length_skipBlanks_le cs
    have hbehind := length_skipBlanks_le left
    dsimp only at h hpart
    split at h
    · next heq =>
      simp only [Option.bind_eq_some_iff] at h
      obtain ⟨⟨parts', rest'⟩, hread, h⟩ := h
      cases h
      have hread := ih hread
      rw [heq, List.length_cons] at hbehind
      omega
    · cases h
      omega

theorem length_of_readName? {path : List String} {name : String}
    (h : readName? cs = some (path, name, rest)) : rest.length ≤ cs.length := by
  simp only [readName?, Option.bind_eq_bind, Option.bind_eq_some_iff] at h
  obtain ⟨⟨parts, left⟩, hparts, h⟩ := h
  split at h
  · cases h
  · simp only [Option.bind_eq_some_iff] at h
    obtain ⟨name', -, h⟩ := h
    cases h
    exact length_of_readParts? hparts

/-! ### Numbers -/

theorem length_of_readMoreDigits? {base : Nat} {ds : List Nat}
    (h : readMoreDigits? base cs = some (ds, rest)) : rest.length ≤ cs.length := by
  fun_induction readMoreDigits? base cs generalizing ds with
  | case1 =>
    cases h
    exact Nat.le_refl _
  | case2 c cs d _ ih =>
    obtain ⟨ds', hread, -⟩ := exists_of_map h
    exact Nat.le_succ_of_le (Nat.le_succ_of_le (ih hread))
  | case3 => cases h
  | case4 => cases h
  | case5 c cs _ _ d _ ih =>
    obtain ⟨ds', hread, -⟩ := exists_of_map h
    exact Nat.le_succ_of_le (ih hread)
  | case6 =>
    cases h
    exact Nat.le_refl _

theorem length_of_readDigits? {base : Nat} {ds : List Nat}
    (h : readDigits? base cs = some (ds, rest)) : rest.length ≤ cs.length := by
  unfold readDigits? at h
  split at h
  · cases h
  · split at h
    · obtain ⟨ds', hread, -⟩ := exists_of_map h
      exact Nat.le_succ_of_le (length_of_readMoreDigits? hread)
    · cases h

theorem length_readSign_le (cs : List Char) : (readSign cs).2.length ≤ cs.length := by
  unfold readSign
  split
  · exact Nat.le_succ _
  · exact Nat.le_succ _
  · exact Nat.le_refl _

theorem length_of_readWhole? {ds : List Nat} (h : readWhole? cs = some (ds, rest)) :
    rest.length ≤ cs.length := by
  unfold readWhole? at h
  split at h
  · cases h
    exact Nat.le_succ _
  · exact length_of_readDigits? h

theorem length_of_readPower? {power : Int} (h : readPower? cs = some (power, rest)) :
    rest.length ≤ cs.length := by
  simp only [readPower?, Option.bind_eq_bind, Option.bind_eq_some_iff] at h
  obtain ⟨⟨ds, left⟩, hread, h⟩ := h
  cases h
  exact Nat.le_trans (length_of_readDigits? hread) (length_readSign_le cs)

theorem length_of_readExponent? {power : Int} (h : readExponent? cs = some (power, rest)) :
    rest.length ≤ cs.length := by
  unfold readExponent? at h
  split at h
  · exact Nat.le_succ_of_le (length_of_readPower? h)
  · exact Nat.le_succ_of_le (length_of_readPower? h)
  · cases h
    exact Nat.le_refl _

/-! ### Dates and times -/

theorem length_of_readField? {width low high n : Nat}
    (h : readField? width low high cs = some (n, rest)) : rest.length ≤ cs.length := by
  dsimp only [readField?] at h
  split at h
  · split at h
    · cases h
      rw [List.length_drop]
      exact Nat.sub_le _ _
    · cases h
  · cases h

theorem length_of_readChar? {c : Char} (h : readChar? c cs = some rest) :
    rest.length < cs.length := by
  unfold readChar? at h
  split at h
  · cases h
  · split at h
    · cases h
      exact Nat.lt_succ_self _
    · cases h

theorem length_readFraction_le (cs : List Char) : (readFraction cs).length ≤ cs.length := by
  unfold readFraction
  split
  · next c cs =>
    split
    · exact Nat.le_succ_of_le (Nat.le_succ_of_le (length_dropWhile_le _ _))
    · exact Nat.le_refl _
  · exact Nat.le_refl _

theorem length_of_readTime? (h : readTime? cs = some rest) : rest.length ≤ cs.length := by
  simp only [readTime?, Option.bind_eq_bind, Option.bind_eq_some_iff] at h
  obtain ⟨⟨_, rest₁⟩, hhour, rest₂, hcolon, ⟨_, rest₃⟩, hminute, rest₄, hcolon', ⟨_, rest₅⟩,
    hsecond, h⟩ := h
  cases h
  have hhour := length_of_readField? hhour
  have hcolon := length_of_readChar? hcolon
  have hminute := length_of_readField? hminute
  have hcolon' := length_of_readChar? hcolon'
  have hsecond := length_of_readField? hsecond
  have hfraction := length_readFraction_le rest₅
  dsimp only at *
  omega

theorem length_of_readOffset? (h : readOffset? cs = some rest) : rest.length ≤ cs.length := by
  unfold readOffset? at h
  split at h
  · cases h
    exact Nat.le_succ _
  · cases h
    exact Nat.le_succ _
  · split at h
    · simp only [Option.bind_eq_bind, Option.bind_eq_some_iff] at h
      obtain ⟨⟨_, rest₁⟩, hhour, rest₂, hcolon, ⟨_, rest₃⟩, hminute, h⟩ := h
      cases h
      have hhour := length_of_readField? hhour
      have hcolon := length_of_readChar? hcolon
      have hminute := length_of_readField? hminute
      rw [List.length_cons]
      dsimp only at *
      omega
    · cases h
      exact Nat.le_refl _
  · cases h
    exact Nat.le_refl _

theorem length_of_readDate? (h : readDate? cs = some rest) : rest.length ≤ cs.length := by
  simp only [readDate?, Option.bind_eq_bind, Option.bind_eq_some_iff] at h
  obtain ⟨⟨year, rest₁⟩, hyear, rest₂, hhyphen, ⟨month, rest₃⟩, hmonth, rest₄, hhyphen', ⟨_, rest₅⟩,
    hday, h⟩ := h
  have hyear := length_of_readField? hyear
  have hhyphen := length_of_readChar? hhyphen
  have hmonth := length_of_readField? hmonth
  have hhyphen' := length_of_readChar? hhyphen'
  have hday := length_of_readField? hday
  dsimp only at *
  split at h
  · split at h
    · simp only [Option.bind_eq_some_iff] at h
      obtain ⟨rest₆, htime, hoffset⟩ := h
      have htime := length_of_readTime? htime
      have hoffset := length_of_readOffset? hoffset
      rw [List.length_cons] at hday
      omega
    · cases h
      omega
  · cases h
    exact Nat.zero_le _

end EchoProbe.Toml
