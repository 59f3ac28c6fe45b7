import EchoProbe.Toml.Document
import EchoProbe.Text.Digit

/-!
# Reading TOML

`Toml.parse` reads the statements of a text and builds the document. A text
that breaks the grammar, or whose statements contradict each other, has no
document.

The grammar is that of TOML 1.0, with two limits: arrays and tables in
braces stand at most `maxDepth` deep inside each other, and a dotted name has
fewer than `maxParts` parts. Whole numbers have 64 bits, and a number with a
point must not exceed the finite ones.
-/

namespace EchoProbe.Toml

open EchoProbe.Text

/-- How deep values may stand inside each other. -/
def maxDepth : Nat := 79

/-- How many parts are too many for a name. -/
def maxParts : Nat := 80

/-! ### Blanks, comments and lines -/

/-- A blank inside a line. -/
def isBlank (c : Char) : Bool := c == ' ' || c == '\t'

/-- Without the blanks at the front. -/
def skipBlanks (cs : List Char) : List Char := cs.dropWhile isBlank

/-- A character that may stand in a comment. -/
def isCommentChar (c : Char) : Bool := c == '\t' || (0x20 ≤ c.toNat && c.toNat != 0x7F)

/-- Without the comment that stands here, if one does. -/
def skipComment : List Char → List Char
  | '#' :: cs => cs.dropWhile isCommentChar
  | cs => cs

/-- Read a line break. -/
def readNewline? : List Char → Option (List Char)
  | '\n' :: cs => some cs
  | '\r' :: '\n' :: cs => some cs
  | _ => none

/-- Read the end of a line: a line break, or the end of the text. -/
def readLineEnd? : List Char → Option (List Char)
  | [] => some []
  | cs => readNewline? cs

/-- Read what may follow a statement on its line. -/
def readLineRest? (cs : List Char) : Option (List Char) :=
  readLineEnd? (skipComment (skipBlanks cs))

/-- Without blanks, line breaks and comments, as inside an array. A comment
must end in a line break. -/
def skipLines? : Nat → List Char → Option (List Char)
  | 0, _ => none
  | fuel + 1, cs =>
    match skipBlanks cs with
    | '#' :: rest => (readNewline? (rest.dropWhile isCommentChar)).bind (skipLines? fuel)
    | '\n' :: rest => skipLines? fuel rest
    | '\r' :: rest => (readNewline? ('\r' :: rest)).bind (skipLines? fuel)
    | rest => some rest

/-! ### Strings -/

/-- Read hexadecimal digits, exactly as many as asked for. -/
def readHex? (value : Nat) : Nat → List Char → Option (Nat × List Char)
  | 0, cs => some (value, cs)
  | _ + 1, [] => none
  | n + 1, c :: cs => (hexValue? c).bind fun d => readHex? (value * 16 + d) n cs

/-- The character of a code point, if it is one. -/
def scalar? (n : Nat) : Option Char :=
  if n < 0x110000 ∧ ¬ (0xD800 ≤ n ∧ n < 0xE000) then some (Char.ofNat n) else none

/-- Read an escape behind its backslash. -/
def readEscape? : List Char → Option (Char × List Char)
  | 'b' :: cs => some ('\x08', cs)
  | 'f' :: cs => some ('\x0c', cs)
  | 'n' :: cs => some ('\n', cs)
  | 'r' :: cs => some ('\r', cs)
  | 't' :: cs => some ('\t', cs)
  | '"' :: cs => some ('"', cs)
  | '\\' :: cs => some ('\\', cs)
  | 'u' :: cs => do
    let (n, rest) ← readHex? 0 4 cs
    return (← scalar? n, rest)
  | 'U' :: cs => do
    let (n, rest) ← readHex? 0 8 cs
    return (← scalar? n, rest)
  | _ => none

/-- A character that may stand in a string on one line. -/
def isTextChar (c : Char) : Bool := isCommentChar c

/-- Read a quoted string on one line, behind its quote. -/
def readBasic? : Nat → List Char → Option (List Char × List Char)
  | 0, _ => none
  | _ + 1, [] => none
  | fuel + 1, c :: cs =>
    if c = '"' then some ([], cs)
    else if c = '\\' then do
      let (d, rest) ← readEscape? cs
      let (s, left) ← readBasic? fuel rest
      return (d :: s, left)
    else if isTextChar c then do
      let (s, left) ← readBasic? fuel cs
      return (c :: s, left)
    else none

/-- Read a literal string on one line, behind its apostrophe. -/
def readLiteral? : List Char → Option (List Char × List Char)
  | [] => none
  | c :: cs =>
    if c = '\'' then some ([], cs)
    else if isTextChar c then (readLiteral? cs).map fun (s, left) => (c :: s, left)
    else none

/-- Without blanks and line breaks. -/
def skipSpace (cs : List Char) : List Char :=
  match cs with
  | '\r' :: '\n' :: rest => skipSpace rest
  | c :: rest => if isBlank c || c = '\n' then skipSpace rest else c :: rest
  | [] => []

/-- Read the end of a string over several lines: three quotes, with up to
two more in front that belong to the string. -/
def readClosing? (quote : Char) (cs : List Char) : Option (List Char × List Char) :=
  let run := (cs.takeWhile (· == quote)).length
  if run < 3 then none
  else
    let count := min run 5
    some (List.replicate (count - 3) quote, cs.drop count)

/-- Read a quoted string over several lines, behind its opening. A backslash
at the end of a line joins it to the next one without the blanks between. -/
def readLongBasic? : Nat → List Char → Option (List Char × List Char)
  | 0, _ => none
  | _ + 1, [] => none
  | fuel + 1, c :: cs =>
    if c = '"' then
      match readClosing? '"' (c :: cs) with
      | some (s, rest) => some (s, rest)
      | none => (readLongBasic? fuel cs).map fun (s, left) => (c :: s, left)
    else if c = '\\' then
      match readNewline? (skipBlanks cs) with
      | some rest => readLongBasic? fuel (skipSpace rest)
      | none => do
        let (d, rest) ← readEscape? cs
        let (s, left) ← readLongBasic? fuel rest
        return (d :: s, left)
    else
      match readNewline? (c :: cs) with
      | some rest => (readLongBasic? fuel rest).map fun (s, left) => ('\n' :: s, left)
      | none =>
        if isTextChar c then (readLongBasic? fuel cs).map fun (s, left) => (c :: s, left)
        else none

/-- Read a literal string over several lines, behind its opening. -/
def readLongLiteral? : Nat → List Char → Option (List Char × List Char)
  | 0, _ => none
  | _ + 1, [] => none
  | fuel + 1, c :: cs =>
    if c = '\'' then
      match readClosing? '\'' (c :: cs) with
      | some (s, rest) => some (s, rest)
      | none => (readLongLiteral? fuel cs).map fun (s, left) => (c :: s, left)
    else
      match readNewline? (c :: cs) with
      | some rest => (readLongLiteral? fuel rest).map fun (s, left) => ('\n' :: s, left)
      | none =>
        if isTextChar c then (readLongLiteral? fuel cs).map fun (s, left) => (c :: s, left)
        else none

/-- Without the line break that may follow the opening of a long string. -/
def dropNewline (cs : List Char) : List Char := (readNewline? cs).getD cs

/-- Read a string of any of the four kinds. -/
def readString? : List Char → Option (List Char × List Char)
  | '"' :: '"' :: '"' :: cs => readLongBasic? (cs.length + 1) (dropNewline cs)
  | '\'' :: '\'' :: '\'' :: cs => readLongLiteral? (cs.length + 1) (dropNewline cs)
  | '"' :: cs => readBasic? (cs.length + 1) cs
  | '\'' :: cs => readLiteral? cs
  | _ => none

/-! ### Names -/

/-- A character that may stand in a bare name. -/
def isBareChar (c : Char) : Bool := c.isAlphanum || c == '-' || c == '_'

/-- Read one part of a name: bare, quoted or literal. -/
def readPart? : List Char → Option (String × List Char)
  | '"' :: cs => (readBasic? (cs.length + 1) cs).map fun (s, rest) => (String.ofList s, rest)
  | '\'' :: cs => (readLiteral? cs).map fun (s, rest) => (String.ofList s, rest)
  | cs =>
    let part := cs.takeWhile isBareChar
    if part.isEmpty then none else some (String.ofList part, cs.dropWhile isBareChar)

/-- Read the parts of a dotted name, with blanks around each. -/
def readParts? : Nat → List Char → Option (List String × List Char)
  | 0, _ => none
  | fuel + 1, cs => do
    let (part, rest) ← readPart? (skipBlanks cs)
    match skipBlanks rest with
    | '.' :: rest =>
      let (parts, left) ← readParts? fuel rest
      return (part :: parts, left)
    | rest => return ([part], rest)

/-- Read a dotted name: the path to its table, and its last part. -/
def readName? (cs : List Char) : Option (List String × String × List Char) := do
  let (parts, rest) ← readParts? (cs.length + 1) cs
  if maxParts ≤ parts.length then none
  else
    let name ← parts.getLast?
    return (parts.dropLast, name, rest)

/-! ### Numbers -/

/-- Read the digits of a base that may have underscores between them, behind
the first one. -/
def readMoreDigits? (base : Nat) : List Char → Option (List Nat × List Char)
  | [] => some ([], [])
  | '_' :: c :: cs =>
    match (hexValue? c).filter (· < base) with
    | some d => (readMoreDigits? base cs).map fun (ds, rest) => (d :: ds, rest)
    | none => none
  | ['_'] => none
  | c :: cs =>
    match (hexValue? c).filter (· < base) with
    | some d => (readMoreDigits? base cs).map fun (ds, rest) => (d :: ds, rest)
    | none => some ([], c :: cs)

/-- Read the digits of a base, at least one. -/
def readDigits? (base : Nat) : List Char → Option (List Nat × List Char)
  | [] => none
  | c :: cs =>
    match (hexValue? c).filter (· < base) with
    | some d => (readMoreDigits? base cs).map fun (ds, rest) => (d :: ds, rest)
    | none => none

/-- The number that some digits denote. -/
def valueOf (base : Nat) (ds : List Nat) : Nat := ds.foldl (fun n d => n * base + d) 0

/-- Read a sign: whether it is a minus, and the text behind it. -/
def readSign : List Char → Bool × List Char
  | '-' :: cs => (true, cs)
  | '+' :: cs => (false, cs)
  | cs => (false, cs)

/-- Read whole decimal digits; a leading zero stands alone. -/
def readWhole? : List Char → Option (List Nat × List Char)
  | '0' :: cs => some ([0], cs)
  | cs => readDigits? 10 cs

/-- The greatest whole number. -/
def maxInteger : Int := 9223372036854775807

/-- A whole number of 64 bits. -/
def integer? (n : Int) : Option Node :=
  if -maxInteger - 1 ≤ n ∧ n ≤ maxInteger then some (.integer n) else none

/-- A number with a point or an exponent. One above the largest finite number
is refused; one as far below zero is infinite. -/
def float? (negative : Bool) (digits : Nat) (exponent : Int) : Option Node :=
  let x := Binary64.ofDecimal negative digits exponent
  if x.isFinite || negative then some (.float x) else none

/-- Read an exponent behind its letter. -/
def readPower? (cs : List Char) : Option (Int × List Char) := do
  let (negative, cs) := readSign cs
  let (ds, rest) ← readDigits? 10 cs
  let size : Int := valueOf 10 ds
  return (if negative then -size else size, rest)

/-- Read an exponent, if one stands here. -/
def readExponent? : List Char → Option (Int × List Char)
  | 'e' :: cs => readPower? cs
  | 'E' :: cs => readPower? cs
  | cs => some (0, cs)

/-- Whether an exponent stands here. -/
def startsExponent : List Char → Bool
  | c :: _ => c == 'e' || c == 'E'
  | [] => false

/-- The number without a bound, or without a value. -/
def special (negative nan : Bool) : Node :=
  .float (Binary64.ofMagnitude negative (Binary64.infinite + if nan then 2 ^ 51 else 0))

/-- Read a decimal number, whole or not. -/
def readDecimal? (cs : List Char) : Option (Node × List Char) :=
  let (negative, unsigned) := readSign cs
  match unsigned with
  | 'i' :: 'n' :: 'f' :: rest => some (special negative false, rest)
  | 'n' :: 'a' :: 'n' :: rest => some (special negative true, rest)
  | _ => do
    let (whole, rest) ← readWhole? unsigned
    match rest with
    | '.' :: rest =>
      let (fraction, rest) ← readDigits? 10 rest
      let (power, rest) ← readExponent? rest
      let node ← float? negative (valueOf 10 (whole ++ fraction)) (power - fraction.length)
      return (node, rest)
    | rest =>
      if startsExponent rest then
        let (power, rest) ← readExponent? rest
        return (← float? negative (valueOf 10 whole) power, rest)
      else
        let size : Int := valueOf 10 whole
        return (← integer? (if negative then -size else size), rest)

/-- Read a whole number of another base, behind its mark. -/
def readBase? (base : Nat) (cs : List Char) : Option (Node × List Char) := do
  let (ds, rest) ← readDigits? base cs
  return (← integer? (valueOf base ds), rest)

/-! ### Dates and times -/

/-- Read a number of exactly so many digits within bounds. -/
def readField? (width low high : Nat) (cs : List Char) : Option (Nat × List Char) :=
  let ds := cs.take width
  if ds.length = width ∧ ds.all Char.isDigit then
    let n := valueOf 10 (ds.filterMap hexValue?)
    if low ≤ n ∧ n ≤ high then some (n, cs.drop width) else none
  else none

/-- Read a character that must stand here. -/
def readChar? (c : Char) : List Char → Option (List Char)
  | [] => none
  | d :: ds => if c = d then some ds else none

/-- The days of a month. -/
def daysOf (year month : Nat) : Nat :=
  if month = 2 then
    if year % 4 = 0 ∧ (year % 100 ≠ 0 ∨ year % 400 = 0) then 29 else 28
  else if month = 4 ∨ month = 6 ∨ month = 9 ∨ month = 11 then 30
  else 31

/-- Read the fraction of a second, if there is one. -/
def readFraction : List Char → List Char
  | '.' :: c :: cs => if c.isDigit then cs.dropWhile Char.isDigit else '.' :: c :: cs
  | cs => cs

/-- Read a time of the day. -/
def readTime? (cs : List Char) : Option (List Char) := do
  let (_, cs) ← readField? 2 0 23 cs
  let (_, cs) ← readField? 2 0 59 (← readChar? ':' cs)
  let (_, cs) ← readField? 2 0 60 (← readChar? ':' cs)
  return readFraction cs

/-- Read the distance to the standard time, if there is one. -/
def readOffset? : List Char → Option (List Char)
  | 'Z' :: cs => some cs
  | 'z' :: cs => some cs
  | c :: cs =>
    if c = '+' ∨ c = '-' then do
      let (_, cs) ← readField? 2 0 23 cs
      let (_, cs) ← readField? 2 0 59 (← readChar? ':' cs)
      return cs
    else some (c :: cs)
  | [] => some []

/-- Whether a time seems to stand here: two digits and a colon. -/
def startsTime : List Char → Bool
  | a :: b :: ':' :: _ => a.isDigit && b.isDigit
  | _ => false

/-- Whether a date seems to stand here: four digits and a hyphen. -/
def startsDate : List Char → Bool
  | a :: b :: c :: d :: '-' :: _ => a.isDigit && b.isDigit && c.isDigit && d.isDigit
  | _ => false

/-- Read a date and the time that may follow it. -/
def readDate? (cs : List Char) : Option (List Char) := do
  let (year, cs) ← readField? 4 0 9999 cs
  let (month, cs) ← readField? 2 1 12 (← readChar? '-' cs)
  let (_, cs) ← readField? 2 1 (daysOf year month) (← readChar? '-' cs)
  match cs with
  | c :: rest =>
    if (c = 'T' ∨ c = 't' ∨ c = ' ') ∧ startsTime rest then readOffset? (← readTime? rest)
    else return cs
  | [] => return []

/-! ### Values -/

/-- Read a date, a time or a number. -/
def readNumeric? (cs : List Char) : Option (Node × List Char) :=
  if startsDate cs then (readDate? cs).map (Node.moment, ·)
  else if startsTime cs then (readTime? cs).map (Node.moment, ·)
  else
    match cs with
    | '0' :: 'x' :: rest => readBase? 16 rest
    | '0' :: 'o' :: rest => readBase? 8 rest
    | '0' :: 'b' :: rest => readBase? 2 rest
    | cs => readDecimal? cs

/-- Read a value that holds no others. -/
def readPlain? : List Char → Option (Node × List Char)
  | [] => none
  | 't' :: 'r' :: 'u' :: 'e' :: rest => some (.boolean true, rest)
  | 'f' :: 'a' :: 'l' :: 's' :: 'e' :: rest => some (.boolean false, rest)
  | c :: cs =>
    if c = '"' ∨ c = '\'' then
      (readString? (c :: cs)).map fun (s, rest) => (.string (String.ofList s), rest)
    else if c.isDigit ∨ c = '+' ∨ c = '-' ∨ c = 'i' ∨ c = 'n' then readNumeric? (c :: cs)
    else none

/-- Read the items of an array, up to its closing bracket. A comma may stand
behind the last one. -/
def readItems? (value : List Char → Option (Node × List Char)) :
    Nat → List Char → Option (List Node × List Char)
  | 0, _ => none
  | fuel + 1, cs => do
    match ← skipLines? (cs.length + 1) cs with
    | ']' :: rest => return ([], rest)
    | cs =>
      let (node, rest) ← value cs
      match ← skipLines? (rest.length + 1) rest with
      | ']' :: rest => return ([node], rest)
      | ',' :: rest =>
        let (nodes, left) ← readItems? value fuel rest
        return (node :: nodes, left)
      | _ => none

/-- Read the assignments of a table in braces, up to its closing brace. All
stand on one line, and none is empty. -/
def readPairs? (value : List Char → Option (Node × List Char)) :
    Nat → List Char → Option (List (List String × String × Node) × List Char)
  | 0, _ => none
  | fuel + 1, cs => do
    let (path, name, rest) ← readName? cs
    let (node, rest) ← value (skipBlanks (← readChar? '=' rest))
    match skipBlanks rest with
    | '}' :: rest => return ([(path, name, node)], rest)
    | ',' :: rest =>
      let (pairs, left) ← readPairs? value fuel rest
      return ((path, name, node) :: pairs, left)
    | _ => none

/-- **Read a value**, with at most so many arrays and tables inside each
other. -/
def readValue? (levels : Nat) (cs : List Char) : Option (Node × List Char) :=
  match cs with
  | '[' :: rest =>
    match levels with
    | 0 => none
    | levels + 1 =>
      (readItems? (readValue? levels) (rest.length + 1) rest).map
        fun (nodes, left) => (.array nodes, left)
  | '{' :: rest =>
    match levels with
    | 0 => none
    | levels + 1 =>
      match skipBlanks rest with
      | '}' :: left => some (.table .inline [], left)
      | _ => do
        let (pairs, left) ← readPairs? (readValue? levels) (rest.length + 1) rest
        return (← inlineTable pairs, left)
  | cs => readPlain? cs
termination_by structural levels

/-! ### Statements -/

/-- Read an assignment and the rest of its line. -/
def readAssignment? (cs : List Char) : Option (Statement × List Char) := do
  let (path, name, rest) ← readName? cs
  let (node, rest) ← readValue? maxDepth (skipBlanks (← readChar? '=' rest))
  return (.assign path name node, ← readLineRest? rest)

/-- Read a header and the rest of its line. -/
def readHeader? : List Char → Option (Statement × List Char)
  | '[' :: '[' :: cs => do
    let (path, name, rest) ← readName? cs
    let rest ← readChar? ']' (← readChar? ']' rest)
    return (.openElement path name, ← readLineRest? rest)
  | '[' :: cs => do
    let (path, name, rest) ← readName? cs
    return (.openTable path name, ← readLineRest? (← readChar? ']' rest))
  | _ => none

/-- Read the statements of a text, line by line. -/
def readStatements? : Nat → List Char → Option (List Statement)
  | 0, _ => none
  | fuel + 1, cs =>
    match skipBlanks cs with
    | [] => some []
    | '#' :: rest => (readLineEnd? (rest.dropWhile isCommentChar)).bind (readStatements? fuel)
    | '\n' :: rest => readStatements? fuel rest
    | '\r' :: rest => (readNewline? ('\r' :: rest)).bind (readStatements? fuel)
    | '[' :: rest => do
      let (statement, left) ← readHeader? ('[' :: rest)
      return statement :: (← readStatements? fuel left)
    | rest => do
      let (statement, left) ← readAssignment? rest
      return statement :: (← readStatements? fuel left)

/-- Without the mark that may stand at the front of a text. -/
def skipMark : List Char → List Char
  | c :: cs => if c.toNat = 0xFEFF then cs else c :: cs
  | [] => []

/-- **The document that a text spells**, if it does. -/
def parse (text : String) : Option Entries :=
  (readStatements? (text.length + 1) (skipMark text.toList)).bind build

end EchoProbe.Toml
