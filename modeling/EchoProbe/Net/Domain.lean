import EchoProbe.Net.Punycode
import EchoProbe.Net.Domain.Disallowed
import EchoProbe.Net.Domain.Replaced
import EchoProbe.Net.Domain.Expanded
import EchoProbe.Net.Domain.Marks
import EchoProbe.Net.Domain.Direction
import EchoProbe.Net.Domain.Joining

/-!
# Domain names

A domain name is brought into the form in which it is looked up: each
character is mapped (capital letters to small ones, wide forms to plain
ones, and some away), and each label with other than ASCII characters is
written in Punycode behind the mark `xn--`. A name with a character that no
domain name may hold has no such form, nor has one with a label that begins
with a combining mark, holds a joiner where none may stand, or begins with
the mark `xn--` and has no proper encoding behind it, nor one in which
labels mix directions.
-/

namespace EchoProbe.Net

open EchoProbe.Text

/-- The characters that vanish from a domain name. -/
def ignoredTable : Ranges := Ranges.ofLines
  ["AD 34F 115F-1160 17B4-17B5 180B-180F 200B 2060-2064 206A-206F 3164 FE00-FE0F FEFF",
    "FFA0 1BCA0-1BCA3 1D173-1D17A E0100-E01EF"]

/-- The ASCII characters that no domain name may hold: controls, the space
and what has a meaning in an address. -/
def isForbidden (c : Char) : Bool :=
  c.toNat ≤ 0x20 || c.toNat = 0x7F ||
    ['#', '/', ':', '<', '>', '?', '@', '[', '\\', ']', '^', '|', '%'].contains c

/-- What a character of a domain name is mapped to; none for a character
that it may not hold. -/
def mapDomainChar? (c : Char) : Option (List Char) :=
  if c.toNat < 0x80 then some [c.toLower]
  else if ignoredTable.contains c then some []
  else if disallowedTable.contains c then none
  else
    match replacedTable.get? c with
    | some d => some [d]
    | none => some ((expandedTable.get? c).getD [c])

/-- Whether a character stays as it is in a domain name. -/
def isDomainChar (c : Char) : Bool := mapDomainChar? c == some [c]

/-- Whether a label of any characters is proper. -/
def isProperLabel (label : List Char) : Bool :=
  match label with
  | [] => false
  | c :: _ =>
    !markTable.contains c && label.all isDomainChar && label.any (0x80 ≤ ·.toNat) &&
      joinsProperly label

/-- **A label of a domain name.** -/
structure DomainLabel where
  /-- Its characters. -/
  content : List Char
  /-- The form in which it is looked up. -/
  ascii : List Char
deriving DecidableEq, Repr

/-- The label that a mapped text is. -/
def DomainLabel.of? (text : List Char) : Option DomainLabel :=
  if text.any isForbidden then none
  else
    let isAscii := text.all (·.toNat < 0x80)
    match text with
    | 'x' :: 'n' :: '-' :: '-' :: encoded =>
      if isAscii then
        ((Punycode.decode? encoded).filter isProperLabel).map fun content => ⟨content, text⟩
      else none
    | _ =>
      if isAscii then some ⟨text, text⟩
      else if isProperLabel text then
        some ⟨text, ['x', 'n', '-', '-'] ++ Punycode.encode text⟩
      else none

/-- The labels with points between them. -/
def joinLabels : List (List Char) → List Char
  | [] => []
  | [label] => label
  | label :: labels => label ++ '.' :: joinLabels labels

/-- **The form in which a domain name is looked up.** -/
def domainToAscii? (name : List Char) : Option (List Char) := do
  let mapped ← name.mapM mapDomainChar?
  let labels ← (splitAt '.' mapped.flatten).mapM DomainLabel.of?
  if keepsDirection (labels.map DomainLabel.content) then
    return joinLabels (labels.map DomainLabel.ascii)
  else none

end EchoProbe.Net
