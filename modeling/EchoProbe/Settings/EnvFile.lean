import EchoProbe.Settings.Environment
import EchoProbe.Text.Blank
import EchoProbe.Text.Table.Alphanumeric

/-!
# Environment files

A file with lines `NAME=value` adds variables to an environment. A variable
is set only if it cannot be read there yet, so the environment wins over the
file, and in the file the first assignment of a name.

A logical line goes on over line breaks while a quote is open or a blank or
a backslash stands at its end. In a value, single quotes keep everything
literal, double quotes keep blanks, a backslash escapes one character, and
`$NAME` or a name in braces behind a dollar stands for a variable or, if
there is none, for an earlier assignment of the file. The first line that is
at fault ends the file.
-/

namespace EchoProbe.EnvFile

open EchoProbe.Text

/-! ### Logical lines -/

/-- Where the end of a line stands. -/
inductive State where
  /-- In the open; the line is complete. -/
  | complete
  /-- Behind a backslash. -/
  | escape
  /-- Between single quotes. -/
  | strong
  /-- Behind a backslash between single quotes. -/
  | strongEscape
  /-- Between double quotes. -/
  | weak
  /-- Behind a backslash between double quotes. -/
  | weakEscape
  /-- Behind a blank. -/
  | blank
  /-- In a comment. -/
  | comment
deriving DecidableEq, Repr

/-- Whether a character is white space inside a line. -/
def isLineBlank (c : Char) : Bool := isWhiteSpace c && c != '\n' && c != '\r'

/-- The state behind a character. A comment is not left again. -/
def State.next (s : State) (c : Char) : State :=
  match s with
  | .blank =>
    if c = '#' then .comment
    else if c = '\\' then .escape
    else if c = '"' then .weak
    else if c = '\'' then .strong
    else .complete
  | .complete =>
    if isLineBlank c then .blank
    else if c = '\\' then .escape
    else if c = '"' then .weak
    else if c = '\'' then .strong
    else .complete
  | .escape => .complete
  | .weak => if c = '\\' then .weakEscape else if c = '"' then .complete else .weak
  | .weakEscape => .weak
  | .strong => if c = '\\' then .strongEscape else if c = '\'' then .complete else .strong
  | .strongEscape => .strong
  | .comment => .comment

/-- The state behind a text, and the text in front of its comment. -/
def scan (s : State) : List Char → State × List Char
  | [] => (s, [])
  | c :: cs =>
    let t := s.next c
    if t = .comment then (t, []) else ((scan t cs).1, c :: (scan t cs).2)

/-- The lines of some bytes, each with its line feed. -/
def byteLines : List UInt8 → List (List UInt8)
  | [] => []
  | b :: bs =>
    if b = 10 then [b] :: byteLines bs
    else
      match byteLines bs with
      | [] => [[b]]
      | line :: lines => (b :: line) :: lines

/-- Without a line break at the end. -/
def chomp (cs : List Char) : List Char :=
  match cs.reverse with
  | '\n' :: '\r' :: rest => rest.reverse
  | '\n' :: rest => rest.reverse
  | _ => cs

/-- Join lines to logical lines; `none` stands for a fault that ends the
file. -/
def logicalLines (state : State) (text : List Char) : List (List UInt8) → List (Option (List Char))
  | [] => if state = .complete then [] else [none]
  | line :: lines =>
    match Utf8.decode? line with
    | none => [none]
    | some s =>
      let joined := text ++ s.toList
      if (trimFront joined).head? == some '#' then logicalLines .complete [] lines
      else
        match scan state s.toList with
        | (.complete, _) => some (chomp joined) :: logicalLines .complete [] lines
        | (.comment, front) => some (text ++ front) :: logicalLines .complete [] lines
        | (state, _) => logicalLines state joined lines

/-! ### Assignments -/

/-- How far a value has been read. -/
inductive Mode where
  /-- In the open, or between double quotes. -/
  | text (quoted : Bool)
  /-- Behind a backslash. -/
  | escape (quoted : Bool)
  /-- Between single quotes. -/
  | strong
  /-- In a name behind a dollar, which is held in reverse. -/
  | name (quoted : Bool) (name : List Char)
  /-- In a name between braces, which is held in reverse. -/
  | braces (quoted : Bool) (name : List Char)
  /-- Behind the value. -/
  | ending
deriving DecidableEq, Repr

/-- What a character behind a backslash stands for. -/
def escaped? (c : Char) : Option Char :=
  if c = 'n' then some '\n'
  else if ['\\', '\'', '"', '$', ' '].contains c then some c
  else none

/-- Read a value to its end: what is put out so far, in reverse, and how far
it has been read. -/
def readValue? (valueOf : List Char → List Char) (out : List Char) :
    Mode → List Char → Option (List Char)
  | .text quoted, [] => if quoted then none else some out.reverse
  | .escape quoted, [] => if quoted then none else some out.reverse
  | .strong, [] => none
  | .name quoted name, [] =>
    if quoted then none else some (out.reverse ++ valueOf name.reverse)
  | .braces _ _, [] => none
  | .ending, [] => some out.reverse
  | .ending, c :: cs =>
    if c = ' ' ∨ c = '\t' then readValue? valueOf out .ending cs
    else if c = '#' then some out.reverse
    else none
  | .escape quoted, c :: cs =>
    match escaped? c with
    | some d => readValue? valueOf (d :: out) (.text quoted) cs
    | none => none
  | .strong, c :: cs =>
    if c = '\'' then readValue? valueOf out (.text false) cs
    else readValue? valueOf (c :: out) .strong cs
  | .name quoted name, c :: cs =>
    if alphanumericTable.contains c then readValue? valueOf out (.name quoted (c :: name)) cs
    else if c = '{' ∧ name = [] then readValue? valueOf out (.braces quoted []) cs
    else
      let out := (valueOf name.reverse).reverse ++ out
      if c = '$' then readValue? valueOf out (.name quoted []) cs
      else readValue? valueOf (c :: out) (.text quoted) cs
  | .braces quoted name, c :: cs =>
    if c = '}' then
      readValue? valueOf ((valueOf name.reverse).reverse ++ out) (.text quoted) cs
    else readValue? valueOf out (.braces quoted (c :: name)) cs
  | .text true, c :: cs =>
    if c = '$' then readValue? valueOf out (.name true []) cs
    else if c = '"' then readValue? valueOf out (.text false) cs
    else if c = '\\' then readValue? valueOf out (.escape true) cs
    else readValue? valueOf (c :: out) (.text true) cs
  | .text false, c :: cs =>
    if c = '$' then readValue? valueOf out (.name false []) cs
    else if c = '\'' then readValue? valueOf out .strong cs
    else if c = '"' then readValue? valueOf out (.text true) cs
    else if c = '\\' then readValue? valueOf out (.escape false) cs
    else if c = ' ' ∨ c = '\t' then readValue? valueOf out .ending cs
    else readValue? valueOf (c :: out) (.text false) cs

/-- A character that may stand in a name. -/
def isNameChar (c : Char) : Bool := c.isAlphanum || c == '_' || c == '.'

/-- Read a name, which begins with a letter or an underscore. -/
def readName? (cs : List Char) : Option (String × List Char) :=
  match cs with
  | [] => none
  | c :: _ =>
    if c.isAlpha || c == '_' then
      some (String.ofList (cs.takeWhile isNameChar), cs.dropWhile isNameChar)
    else none

/-- Read an equals sign. -/
def readEquals? : List Char → Option (List Char)
  | '=' :: cs => some cs
  | _ => none

/-- Read a name and its equals sign. The word `export` may stand in front. -/
def readTarget? (cs : List Char) : Option (String × List Char) := do
  let (name, rest) ← readName? cs
  let rest := trimFront rest
  match readEquals? rest with
  | some rest => return (name, rest)
  | none =>
    if name = "export" then
      let (name, rest) ← readName? rest
      return (name, ← readEquals? (trimFront rest))
    else none

/-- **Variables while a file is read**: the environment and what the file has
assigned. -/
structure Reading where
  /-- The environment. -/
  environment : Environment
  /-- The assignments of the file, the latest first. -/
  assigned : List (String × String)

/-- What a name stands for inside a value. -/
def Reading.valueOf (r : Reading) (name : List Char) : List Char :=
  let name := String.ofList name
  match r.environment.read? name with
  | some value => value.toList
  | none => ((r.assigned.lookup name).getD "").toList

/-- Record an assignment. -/
def Reading.assign (r : Reading) (name value : String) : Reading where
  environment :=
    if (r.environment.read? name).isSome then r.environment else r.environment.set name value
  assigned := (name, value) :: r.assigned

/-- Follow a logical line; a blank one and a comment change nothing. -/
def Reading.line? (r : Reading) (line : List Char) : Option Reading := do
  let cs := trimFront (trimBack line)
  if cs.isEmpty || cs.head? == some '#' then return r
  let (name, rest) ← readTarget? cs
  let rest := trimFront rest
  if rest.isEmpty || rest.head? == some '#' then return r.assign name ""
  let value ← readValue? r.valueOf [] (.text false) rest
  return r.assign name (String.ofList value)

/-- Follow logical lines up to the first fault. -/
def Reading.lines (r : Reading) : List (Option (List Char)) → Reading
  | [] => r
  | none :: _ => r
  | some line :: lines =>
    match r.line? line with
    | some r => r.lines lines
    | none => r

/-- Without the mark that may stand at the front of a file. -/
def skipMark : List UInt8 → List UInt8
  | 0xEF :: 0xBB :: 0xBF :: bs => bs
  | bs => bs

/-- **The environment after a file.** -/
def load (env : Environment) (bytes : List UInt8) : Environment :=
  (Reading.lines ⟨env, []⟩ (logicalLines .complete [] (byteLines (skipMark bytes)))).environment

end EchoProbe.EnvFile
