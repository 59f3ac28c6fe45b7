import EchoProbe.Text.Table.Lowercase
import EchoProbe.Text.Table.Cased
import EchoProbe.Text.Table.CaseIgnorable

/-!
# Lower case

The full lower-case form of a text by the Unicode rules. All characters are
mapped one by one but two: a capital I with a dot becomes two characters,
and a capital sigma at the end of a word becomes the final sigma.
-/

namespace EchoProbe.Text

/-- Whether a text begins with a cased character, the characters that casing
passes over left aside. -/
def startsCased (cs : List Char) : Bool :=
  match cs.dropWhile caseIgnorableTable.contains with
  | [] => false
  | c :: _ => casedTable.contains c

/-- The lower-case form of one character between the text before it, which
is reversed, and the text after it. -/
def lowerChar (before : List Char) (c : Char) (after : List Char) : List Char :=
  if c.toNat < 0x80 then [c.toLower]
  else if c.toNat = 0x130 then ['i', Char.ofNat 0x307]
  else if c.toNat = 0x3A3 then
    if startsCased before && !startsCased after then [Char.ofNat 0x3C2]
    else [Char.ofNat 0x3C3]
  else [(lowercaseTable.get? c).getD c]

/-- The lower-case form of a text that stands behind another one. -/
def lowerChars (before : List Char) : List Char → List Char
  | [] => []
  | c :: cs => lowerChar before c cs ++ lowerChars (c :: before) cs

/-- **The lower-case form of a text.** -/
def lowercase (s : String) : String := String.ofList (lowerChars [] s.toList)

end EchoProbe.Text
