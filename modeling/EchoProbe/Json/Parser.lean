import EchoProbe.Json.Value

/-!
# Reading JSON

`Value.parse` reads the one JSON value that a text spells, with blanks
around it. It accepts the grammar of RFC 8259 with three limits: at most
`maxDepth` arrays and objects stand inside each other, a surrogate escape
must be half of a pair, and an object whose first name is `numberMarker`
denotes the number that its single member spells.

A text that is refused has a `Fault`: it ends too early, it breaks the
grammar, or it is well-formed where something of another kind was due. The
fault that is met first wins.

Each reader takes the text from where it stands and gives back what it read
and the text that is left.
-/

namespace EchoProbe.Json

open EchoProbe.Text

/-- **Why a text is no JSON value.** -/
inductive Fault where
  /-- The text ends where more must follow. -/
  | truncated
  /-- A character stands where the grammar does not allow it. -/
  | malformed
  /-- The text is well-formed, but a value of another kind is due. -/
  | unfit
deriving DecidableEq, Repr

/-- The wording of a fault. -/
def Fault.message : Fault → String
  | .truncated => "the text ends too early"
  | .malformed => "the text breaks the grammar"
  | .unfit => "a value of another kind is due"

/-- The most arrays and objects that may stand inside each other. -/
def maxDepth : Nat := 127

/-- An object whose first name is this one denotes the number that its only
member spells as a string. -/
def numberMarker : String := "$serde_json::private::Number"

/-- The blanks of JSON: space, line feed, tab and carriage return. -/
def isBlank (c : Char) : Bool := c == ' ' || c == '\n' || c == '\t' || c == '\r'

/-- The text without the blanks at its front. -/
def skipBlanks (cs : List Char) : List Char := cs.dropWhile isBlank

/-! ### Numbers -/

/-- Read a run of at least one digit. -/
def readDigits : List Char → Except Fault (Digits × List Char)
  | [] => .error .truncated
  | c :: cs =>
    match Digit.ofChar? c with
    | none => .error .malformed
    | some d => .ok (⟨d, (splitDigits cs).1⟩, (splitDigits cs).2)

/-- Read the digits in front of the point. No digit follows a leading zero. -/
def readWhole : List Char → Except Fault (Whole × List Char)
  | [] => .error .truncated
  | c :: cs =>
    match Digit.ofChar? c with
    | none => .error .malformed
    | some d =>
      if h : d = 0 then
        if (splitDigits cs).1.isEmpty then .ok (.zero, cs) else .error .malformed
      else .ok (.positive (d.pred h) (splitDigits cs).1, (splitDigits cs).2)

/-- Read the point and the digits behind it, if a point stands here. -/
def readFraction : List Char → Except Fault (Option Digits × List Char)
  | '.' :: cs =>
    match readDigits cs with
    | .ok (ds, rest) => .ok (some ds, rest)
    | .error e => .error e
  | cs => .ok (none, cs)

/-- Read the sign of an exponent; without one it is a plus. -/
def readSign : List Char → Bool × List Char
  | '-' :: cs => (true, cs)
  | '+' :: cs => (false, cs)
  | cs => (false, cs)

/-- Read an exponent behind its marker. -/
def readPower (cs : List Char) : Except Fault (Option Exponent × List Char) :=
  match readDigits (readSign cs).2 with
  | .ok (ds, rest) => .ok (some ⟨(readSign cs).1, ds⟩, rest)
  | .error e => .error e

/-- Read the exponent, if its marker stands here. -/
def readExponent : List Char → Except Fault (Option Exponent × List Char)
  | 'e' :: cs => readPower cs
  | 'E' :: cs => readPower cs
  | cs => .ok (none, cs)

/-- Read the minus sign, if one stands here. -/
def readMinus : List Char → Bool × List Char
  | '-' :: cs => (true, cs)
  | cs => (false, cs)

/-- **Read a number**, as far as it goes. -/
def readNumber (cs : List Char) : Except Fault (Number × List Char) := do
  let (negative, cs) := readMinus cs
  let (whole, cs) ← readWhole cs
  let (fraction, cs) ← readFraction cs
  let (exponent, cs) ← readExponent cs
  return ({ negative, whole, fraction, exponent }, cs)

/-- The number that a whole text spells, with nothing around it. -/
def Number.parse (text : String) : Except Fault Number :=
  match readNumber text.toList with
  | .ok (n, []) => .ok n
  | .ok _ => .error .malformed
  | .error e => .error e

/-! ### Strings -/

/-- How many bytes a text takes in UTF-8. -/
def utf8Length (cs : List Char) : Nat := cs.foldr (fun c n => c.utf8Size + n) 0

/-- Read the four hexadecimal digits of an escape. A text that has fewer
than four bytes left ends too early, whatever they are. -/
def readHex : List Char → Except Fault (Nat × List Char)
  | a :: b :: c :: d :: cs =>
    match hexValue? a, hexValue? b, hexValue? c, hexValue? d with
    | some i, some j, some k, some l => .ok (((i * 16 + j) * 16 + k) * 16 + l, cs)
    | _, _, _, _ => .error .malformed
  | cs => if utf8Length cs < 4 then .error .truncated else .error .malformed

/-- A code unit that opens a surrogate pair. -/
def isHighSurrogate (n : Nat) : Bool := 0xD800 ≤ n && n < 0xDC00

/-- A code unit that closes a surrogate pair. -/
def isLowSurrogate (n : Nat) : Bool := 0xDC00 ≤ n && n < 0xE000

/-- Read the second half of a surrogate pair, which must follow at once, and
join it to the first. -/
def readPair (high : Nat) : List Char → Except Fault (Char × List Char)
  | [] => .error .truncated
  | ['\\'] => .error .truncated
  | '\\' :: 'u' :: cs =>
    match readHex cs with
    | .ok (low, rest) =>
      if isLowSurrogate low then
        .ok (Char.ofNat (0x10000 + (high - 0xD800) * 0x400 + (low - 0xDC00)), rest)
      else .error .malformed
    | .error e => .error e
  | _ => .error .malformed

/-- Read a hexadecimal escape behind its `u`. -/
def readUnicode (cs : List Char) : Except Fault (Char × List Char) :=
  match readHex cs with
  | .ok (n, rest) =>
    if isHighSurrogate n then readPair n rest
    else if isLowSurrogate n then .error .malformed
    else .ok (Char.ofNat n, rest)
  | .error e => .error e

/-- The character of an escape of one letter. -/
def shortEscape? (c : Char) : Option Char :=
  match c with
  | '"' => some '"'
  | '\\' => some '\\'
  | '/' => some '/'
  | 'b' => some '\x08'
  | 'f' => some '\x0c'
  | 'n' => some '\n'
  | 'r' => some '\r'
  | 't' => some '\t'
  | _ => none

/-- Read an escape behind its backslash. -/
def readEscape : List Char → Except Fault (Char × List Char)
  | [] => .error .truncated
  | c :: cs =>
    if c = 'u' then readUnicode cs
    else
      match shortEscape? c with
      | some d => .ok (d, cs)
      | none => .error .malformed

/-- Four digits are taken off. -/
theorem length_of_readHex {cs rest : List Char} {n : Nat} (h : readHex cs = .ok (n, rest)) :
    cs.length = rest.length + 4 := by
  unfold readHex at h
  split at h
  · split at h
    · simp only [Except.ok.injEq, Prod.mk.injEq] at h
      simp [h.2]
    · simp at h
  · split at h <;> simp at h

/-- A second half takes something off. -/
theorem length_of_readPair {cs rest : List Char} {n : Nat} {c : Char}
    (h : readPair n cs = .ok (c, rest)) : rest.length < cs.length := by
  unfold readPair at h
  split at h
  · simp at h
  · simp at h
  · split at h
    · next hex =>
      split at h
      · simp only [Except.ok.injEq, Prod.mk.injEq] at h
        have := length_of_readHex hex
        rw [← h.2]
        simp only [List.length_cons]
        omega
      · simp at h
    · simp at h
  · simp at h

/-- A hexadecimal escape takes something off. -/
theorem length_of_readUnicode {cs rest : List Char} {c : Char}
    (h : readUnicode cs = .ok (c, rest)) : rest.length < cs.length := by
  unfold readUnicode at h
  split at h
  · next hex =>
    have hlen := length_of_readHex hex
    split at h
    · have := length_of_readPair h
      omega
    · split at h
      · simp at h
      · simp only [Except.ok.injEq, Prod.mk.injEq] at h
        rw [← h.2]
        omega
  · simp at h

/-- An escape takes something off. -/
theorem length_of_readEscape {cs rest : List Char} {c : Char}
    (h : readEscape cs = .ok (c, rest)) : rest.length < cs.length := by
  unfold readEscape at h
  split at h
  · simp at h
  · split at h
    · have := length_of_readUnicode h
      simp only [List.length_cons]
      omega
    · split at h
      · simp only [Except.ok.injEq, Prod.mk.injEq] at h
        simp [h.2]
      · simp at h

/-- **Read a string** behind its opening quote: its characters, and the text
behind the closing quote. Control characters must be escaped. -/
def readString (text : List Char) : Except Fault (List Char × List Char) :=
  match text with
  | [] => .error .truncated
  | c :: cs =>
    if c = '"' then .ok ([], cs)
    else if c = '\\' then
      match _h : readEscape cs with
      | .error e => .error e
      | .ok (d, rest) =>
        match readString rest with
        | .ok (s, left) => .ok (d :: s, left)
        | .error e => .error e
    else if c.toNat < 0x20 then .error .malformed
    else
      match readString cs with
      | .ok (s, left) => .ok (c :: s, left)
      | .error e => .error e
termination_by text.length
decreasing_by
  · have := length_of_readEscape _h
    simp only [List.length_cons]
    omega
  · simp

/-! ### Values -/

/-- Read the letters of a word that must stand here. -/
def readWord : List Char → List Char → Except Fault (List Char)
  | [], cs => .ok cs
  | _ :: _, [] => .error .truncated
  | w :: ws, c :: cs => if w = c then readWord ws cs else .error .malformed

/-- Read a value that is neither an array nor an object. -/
def readScalar : List Char → Except Fault (Value × List Char)
  | [] => .error .truncated
  | 'n' :: cs => (readWord ['u', 'l', 'l'] cs).map (Value.null, ·)
  | 't' :: cs => (readWord ['r', 'u', 'e'] cs).map (Value.bool true, ·)
  | 'f' :: cs => (readWord ['a', 'l', 's', 'e'] cs).map (Value.bool false, ·)
  | '"' :: cs => (readString cs).map fun (s, rest) => (Value.string (String.ofList s), rest)
  | c :: cs =>
    if c = '-' || (Digit.ofChar? c).isSome then
      (readNumber (c :: cs)).map fun (n, rest) => (Value.number n, rest)
    else .error .malformed

/-- Read the name of a member and the colon behind it. -/
def readName (cs : List Char) : Except Fault (String × List Char) :=
  match skipBlanks cs with
  | [] => .error .truncated
  | '"' :: cs =>
    match readString cs with
    | .error e => .error e
    | .ok (name, rest) =>
      match skipBlanks rest with
      | [] => .error .truncated
      | ':' :: rest => .ok (String.ofList name, rest)
      | _ => .error .malformed
  | _ => .error .malformed

/-- Read the number that the member behind `numberMarker` spells, up to the
end of its object. -/
def readSpelled (cs : List Char) : Except Fault (Value × List Char) :=
  match skipBlanks cs with
  | '[' :: _ => .error .unfit
  | '{' :: _ => .error .unfit
  | cs =>
    match readScalar cs with
    | .error e => .error e
    | .ok (.string s, rest) =>
      match Number.parse s with
      | .error _ => .error .unfit
      | .ok n =>
        match skipBlanks rest with
        | [] => .error .truncated
        | '}' :: rest => .ok (.number n, rest)
        | _ => .error .malformed
    | .ok _ => .error .unfit

/-- Read the items of an array that has some, up to its closing bracket.
Each item takes something off the text, so its length bounds their number. -/
def readItems (item : List Char → Except Fault (Value × List Char)) :
    Nat → List Char → Except Fault (List Value × List Char)
  | 0, _ => .error .truncated
  | fuel + 1, cs =>
    match item cs with
    | .error e => .error e
    | .ok (v, rest) =>
      match skipBlanks rest with
      | [] => .error .truncated
      | ']' :: rest => .ok ([v], rest)
      | ',' :: rest =>
        match readItems item fuel rest with
        | .ok (vs, left) => .ok (v :: vs, left)
        | .error e => .error e
      | _ => .error .malformed

/-- Read the members of an object that has some, up to its closing brace, in
the order in which they are written. -/
def readMembers (item : List Char → Except Fault (Value × List Char)) :
    Nat → List Char → Except Fault (Members × List Char)
  | 0, _ => .error .truncated
  | fuel + 1, cs =>
    match readName cs with
    | .error e => .error e
    | .ok (name, rest) =>
      match item rest with
      | .error e => .error e
      | .ok (v, rest) =>
        match skipBlanks rest with
        | [] => .error .truncated
        | '}' :: rest => .ok ([(name, v)], rest)
        | ',' :: rest =>
          match readMembers item fuel rest with
          | .ok (ms, left) => .ok ((name, v) :: ms, left)
          | .error e => .error e
        | _ => .error .malformed

/-- Read an array behind its opening bracket. -/
def readArray (item : List Char → Except Fault (Value × List Char)) (cs : List Char) :
    Except Fault (Value × List Char) :=
  match skipBlanks cs with
  | ']' :: rest => .ok (.array [], rest)
  | cs =>
    match readItems item (cs.length + 1) cs with
    | .ok (vs, rest) => .ok (.array vs, rest)
    | .error e => .error e

/-- Read an object behind its opening brace. Its first name decides whether
it is an object or a number in disguise. -/
def readObject (item : List Char → Except Fault (Value × List Char)) (cs : List Char) :
    Except Fault (Value × List Char) :=
  match skipBlanks cs with
  | '}' :: rest => .ok (.object [], rest)
  | cs =>
    match readName cs with
    | .error e => .error e
    | .ok (name, rest) =>
      if name = numberMarker then readSpelled rest
      else
        match readMembers item (cs.length + 1) cs with
        | .ok (ms, rest) => .ok (.object (Members.collect ms), rest)
        | .error e => .error e

/-- **Read a value** behind any blanks, with at most `levels` arrays and
objects inside each other. -/
def readValue (levels : Nat) (cs : List Char) : Except Fault (Value × List Char) :=
  match skipBlanks cs with
  | '[' :: rest =>
    match levels with
    | 0 => .error .malformed
    | levels + 1 => readArray (readValue levels) rest
  | '{' :: rest =>
    match levels with
    | 0 => .error .malformed
    | levels + 1 => readObject (readValue levels) rest
  | cs => readScalar cs
termination_by structural levels

/-- **The value that a text spells.** -/
def Value.parse (text : String) : Except Fault Value :=
  match readValue maxDepth text.toList with
  | .ok (v, rest) => if (skipBlanks rest).isEmpty then .ok v else .error .malformed
  | .error e => .error e

end EchoProbe.Json
