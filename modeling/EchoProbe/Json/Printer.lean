import EchoProbe.Json.Value

/-!
# Writing JSON

`Value.toText` writes a value on one line without blanks, the members of an
object in the order in which the value lists them. `Value.toPrettyText`
writes one item or member a line, each level two spaces further in. In a
string only the quote, the backslash and the control characters are escaped;
five of the latter have a letter of their own and the others four
hexadecimal digits.
-/

namespace EchoProbe.Json

open EchoProbe.Text

/-- How a character stands in a string. -/
def escapeChar (c : Char) : List Char :=
  match c with
  | '"' => ['\\', '"']
  | '\\' => ['\\', '\\']
  | '\x08' => ['\\', 'b']
  | '\x0c' => ['\\', 'f']
  | '\n' => ['\\', 'n']
  | '\r' => ['\\', 'r']
  | '\t' => ['\\', 't']
  | c =>
    if c.toNat < 0x20 then
      ['\\', 'u', '0', '0', hexDigit (c.toNat / 16), hexDigit (c.toNat % 16)]
    else [c]

/-- A string in quotes. -/
def quoteChars (s : List Char) : List Char := '"' :: s.flatMap escapeChar ++ ['"']

namespace Value

mutual

/-- **The compact form of a value.** -/
def toChars : Value → List Char
  | .null => ['n', 'u', 'l', 'l']
  | .bool true => ['t', 'r', 'u', 'e']
  | .bool false => ['f', 'a', 'l', 's', 'e']
  | .number n => n.toChars
  | .string s => quoteChars s.toList
  | .array items => '[' :: itemsChars items ++ [']']
  | .object members => '{' :: membersChars members ++ ['}']

/-- The items of an array, with commas between them. -/
def itemsChars : List Value → List Char
  | [] => []
  | [v] => toChars v
  | v :: vs => toChars v ++ ',' :: itemsChars vs

/-- The members of an object, with commas between them. -/
def membersChars : List (String × Value) → List Char
  | [] => []
  | [m] => quoteChars m.1.toList ++ ':' :: toChars m.2
  | m :: ms => quoteChars m.1.toList ++ ':' :: toChars m.2 ++ ',' :: membersChars ms

end

/-- The compact form of a value, as a text. -/
def toText (v : Value) : String := String.ofList v.toChars

/-- A new line, indented to a level. -/
def newline (level : Nat) : List Char := '\n' :: List.replicate (2 * level) ' '

mutual

/-- **The indented form of a value** that stands at a level. -/
def prettyChars (level : Nat) : Value → List Char
  | .array [] => ['[', ']']
  | .array items => '[' :: prettyItems (level + 1) items ++ newline level ++ [']']
  | .object [] => ['{', '}']
  | .object members =>
    '{' :: prettyMembers (level + 1) members ++ newline level ++ ['}']
  | .null => ['n', 'u', 'l', 'l']
  | .bool true => ['t', 'r', 'u', 'e']
  | .bool false => ['f', 'a', 'l', 's', 'e']
  | .number n => n.toChars
  | .string s => quoteChars s.toList

/-- The items of an array, each on a line of its own. -/
def prettyItems (level : Nat) : List Value → List Char
  | [] => []
  | [v] => newline level ++ prettyChars level v
  | v :: vs => newline level ++ prettyChars level v ++ ',' :: prettyItems level vs

/-- The members of an object, each on a line of its own. -/
def prettyMembers (level : Nat) : List (String × Value) → List Char
  | [] => []
  | [m] => newline level ++ quoteChars m.1.toList ++ ':' :: ' ' :: prettyChars level m.2
  | m :: ms =>
    newline level ++ quoteChars m.1.toList ++ ':' :: ' ' :: prettyChars level m.2 ++
      ',' :: prettyMembers level ms

end

/-- The indented form of a value, as a text. -/
def toPrettyText (v : Value) : String := String.ofList (v.prettyChars 0)

end Value

end EchoProbe.Json
