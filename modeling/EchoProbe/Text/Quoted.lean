import EchoProbe.Text.Table.Printable
import EchoProbe.Text.Table.Extend

/-!
# Quoted texts

A text is shown in a message between quotes, in a form that leaves no doubt
about its characters. The quote, the backslash and four control characters
have an escape of one letter; what cannot be shown, or would join the
character in front of it, is written as its code point.
-/

namespace EchoProbe.Text

/-- Whether a character is shown as it is. -/
def isShown (c : Char) : Bool :=
  if c.toNat < 0x7F then 0x20 ≤ c.toNat
  else printableTable.contains c && !extendTable.contains c

/-- How a character stands in a quoted text. -/
def quoteChar (c : Char) : List Char :=
  match c with
  | '"' => ['\\', '"']
  | '\\' => ['\\', '\\']
  | '\n' => ['\\', 'n']
  | '\r' => ['\\', 'r']
  | '\t' => ['\\', 't']
  | '\x00' => ['\\', '0']
  | c => if isShown c then [c] else ['\\', 'u', '{'] ++ hexChars c.toNat ++ ['}']

/-- **A text between quotes.** -/
def quoted (s : String) : String :=
  String.ofList ('"' :: s.toList.flatMap quoteChar ++ ['"'])

end EchoProbe.Text
