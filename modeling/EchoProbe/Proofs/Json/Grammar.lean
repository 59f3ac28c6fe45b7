import EchoProbe.Proofs.Json.Members
import EchoProbe.Proofs.Json.Value

/-!
# The grammar of JSON

Here it is laid down which texts spell a value and which value that is, by
the productions of RFC 8259 and without regard to how a text is read. Each
production is a relation between a text and what it denotes; the doc comments
cite the productions.

The productions for arrays and objects are stated for any relation between
the texts and the values of their elements. `Spells` puts them together: with
no level left there is neither an array nor an object, and a level more
allows those whose elements do with the levels below. `Denotes` is about a
whole text, which has at most `maxDepth` levels.

In three points the grammar goes beyond the RFC, which leaves them open.

* The halves of a surrogate pair denote one character together, and none
  alone.
* Of the members of an object only the last one of each name counts, and
  their order does not (`AmountsTo`).
* An object whose first name is `numberMarker` denotes the number that its
  only member spells as a string, and nothing if that is not so.
-/

namespace EchoProbe.Json

open EchoProbe.Text

/-- `ws = *( %x20 / %x09 / %x0A / %x0D )` -/
def Blanks (cs : List Char) : Prop := ∀ c ∈ cs, c ∈ [' ', '\t', '\n', '\r']

instance (cs : List Char) : Decidable (Blanks cs) :=
  List.decidableBAll (· ∈ [' ', '\t', '\n', '\r']) cs

/-! ## Numbers -/

/-- `*DIGIT` -/
inductive SpellsDigits : List Char → List Digit → Prop where
  /-- No digit. -/
  | nil : SpellsDigits [] []
  /-- A digit, then more. -/
  | cons {cs : List Char} {ds : List Digit} (d : Digit) :
    SpellsDigits cs ds → SpellsDigits (d.toChar :: cs) (d :: ds)

/-- `int = zero / ( digit1-9 *DIGIT )` -/
inductive SpellsWhole : List Char → Whole → Prop where
  /-- A lone zero. -/
  | zero : SpellsWhole ['0'] .zero
  /-- Another digit leads. -/
  | positive {cs : List Char} {ds : List Digit} (lead : Fin 9) :
    SpellsDigits cs ds → SpellsWhole (Digit.toChar lead.succ :: cs) (.positive lead ds)

/-- `[ frac ]`, where `frac = decimal-point 1*DIGIT` -/
inductive SpellsFraction : List Char → Option Digits → Prop where
  /-- There is no point. -/
  | absent : SpellsFraction [] none
  /-- Digits follow the point. -/
  | present {cs : List Char} {ds : Digits} :
    SpellsDigits cs ds.toList → SpellsFraction ('.' :: cs) (some ds)

/-- `[ minus ]` -/
inductive SpellsMinus : List Char → Bool → Prop where
  /-- There is no sign. -/
  | absent : SpellsMinus [] false
  /-- There is one. -/
  | present : SpellsMinus ['-'] true

/-- `[ minus / plus ]` -/
inductive SpellsSign : List Char → Bool → Prop where
  /-- There is no sign. -/
  | absent : SpellsSign [] false
  /-- A plus. -/
  | plus : SpellsSign ['+'] false
  /-- A minus. -/
  | minus : SpellsSign ['-'] true

/-- `[ exp ]`, where `exp = e [ minus / plus ] 1*DIGIT` and `e` is of either
case -/
inductive SpellsExponent : List Char → Option Exponent → Prop where
  /-- There is no exponent. -/
  | absent : SpellsExponent [] none
  /-- A sign and digits follow the marker. -/
  | present {marker : Char} {sign cs : List Char} {negative : Bool} {ds : Digits} :
    marker ∈ ['e', 'E'] → SpellsSign sign negative → SpellsDigits cs ds.toList →
      SpellsExponent (marker :: (sign ++ cs)) (some ⟨negative, ds⟩)

/-- **A number**: `number = [ minus ] int [ frac ] [ exp ]` -/
inductive SpellsNumber : List Char → Number → Prop where
  /-- Its four parts. -/
  | intro {minus int frac exp : List Char} {n : Number} :
    SpellsMinus minus n.negative → SpellsWhole int n.whole → SpellsFraction frac n.fraction →
      SpellsExponent exp n.exponent → SpellsNumber (minus ++ (int ++ (frac ++ exp))) n

/-! ## Strings -/

/-- The escapes of one letter, and what they stand for. -/
def shortEscapes : List (Char × Char) :=
  [('"', '"'), ('\\', '\\'), ('/', '/'), ('b', '\x08'), ('f', '\x0c'), ('n', '\n'), ('r', '\r'),
    ('t', '\t')]

/-- The hexadecimal digits in lower case, … -/
def lowerHexDigits : List Char :=
  ['0', '1', '2', '3', '4', '5', '6', '7', '8', '9', 'a', 'b', 'c', 'd', 'e', 'f']

/-- … and in upper case. -/
def upperHexDigits : List Char :=
  ['0', '1', '2', '3', '4', '5', '6', '7', '8', '9', 'A', 'B', 'C', 'D', 'E', 'F']

/-- `HEXDIG`, of either case -/
def SpellsHexDigit (c : Char) (n : Nat) : Prop :=
  lowerHexDigits[n]? = some c ∨ upperHexDigits[n]? = some c

/-- `%x75 4HEXDIG`: a code unit, behind the backslash -/
inductive SpellsUnit : List Char → Nat → Prop where
  /-- Four digits follow the letter. -/
  | intro {a b c d : Char} {i j k l : Nat} :
    SpellsHexDigit a i → SpellsHexDigit b j → SpellsHexDigit c k → SpellsHexDigit d l →
      SpellsUnit ['u', a, b, c, d] (i * 16 ^ 3 + j * 16 ^ 2 + k * 16 + l)

/-- `char = unescaped / escape (…)`: one character of a string -/
inductive SpellsChar : List Char → Char → Prop where
  /-- `unescaped = %x20-21 / %x23-5B / %x5D-10FFFF` -/
  | plain {c : Char} : c ≠ '"' → c ≠ '\\' → 0x20 ≤ c.toNat → SpellsChar [c] c
  /-- An escape of one letter. -/
  | short {e c : Char} : (e, c) ∈ shortEscapes → SpellsChar ['\\', e] c
  /-- A code unit that is a character. -/
  | unit {cs : List Char} {n : Nat} :
    SpellsUnit cs n → n < 0xD800 ∨ 0xDFFF < n → SpellsChar ('\\' :: cs) (Char.ofNat n)
  /-- A surrogate pair. -/
  | pair {cs ds : List Char} {high low : Nat} :
    SpellsUnit cs high → 0xD800 ≤ high ∧ high ≤ 0xDBFF →
      SpellsUnit ds low → 0xDC00 ≤ low ∧ low ≤ 0xDFFF →
      SpellsChar ('\\' :: (cs ++ '\\' :: ds))
        (Char.ofNat (0x10000 + (high - 0xD800) * 0x400 + (low - 0xDC00)))

/-- `*char` -/
inductive SpellsChars : List Char → List Char → Prop where
  /-- No character. -/
  | nil : SpellsChars [] []
  /-- A character, then more. -/
  | cons {cs ds s : List Char} {c : Char} :
    SpellsChar cs c → SpellsChars ds s → SpellsChars (cs ++ ds) (c :: s)

/-- **A string**: `string = quotation-mark *char quotation-mark` -/
inductive SpellsString : List Char → String → Prop where
  /-- The characters between the quotes. -/
  | intro {cs : List Char} {s : String} :
    SpellsChars cs s.toList → SpellsString ('"' :: (cs ++ ['"'])) s

/-- `false / null / true / number / string` -/
inductive SpellsScalar : List Char → Value → Prop where
  /-- The word `null`. -/
  | null : SpellsScalar ['n', 'u', 'l', 'l'] .null
  /-- The word `true`. -/
  | yes : SpellsScalar ['t', 'r', 'u', 'e'] (.bool true)
  /-- The word `false`. -/
  | no : SpellsScalar ['f', 'a', 'l', 's', 'e'] (.bool false)
  /-- A number. -/
  | number {cs : List Char} {n : Number} : SpellsNumber cs n → SpellsScalar cs (.number n)
  /-- A string. -/
  | string {cs : List Char} {s : String} : SpellsString cs s → SpellsScalar cs (.string s)

/-! ## Arrays and objects -/

section Elements

variable (item : List Char → Value → Prop)

/-- `ws value ws` -/
inductive Padded : List Char → Value → Prop where
  /-- Blanks around an element. -/
  | intro {front cs back : List Char} {v : Value} :
    Blanks front → item cs v → Blanks back → Padded (front ++ (cs ++ back)) v

/-- `value *( value-separator value )` -/
inductive SpellsItems : List Char → List Value → Prop where
  /-- The last item. -/
  | last {cs : List Char} {v : Value} : Padded item cs v → SpellsItems cs [v]
  /-- An item, a comma, and more. -/
  | more {cs ds : List Char} {v : Value} {vs : List Value} :
    Padded item cs v → SpellsItems ds vs → SpellsItems (cs ++ ',' :: ds) (v :: vs)

/-- **An array**: `array = begin-array [ value *( value-separator value ) ] end-array` -/
inductive SpellsArray : List Char → List Value → Prop where
  /-- Without items. -/
  | empty {bs : List Char} : Blanks bs → SpellsArray ('[' :: (bs ++ [']'])) []
  /-- With items. -/
  | items {cs : List Char} {vs : List Value} :
    SpellsItems item cs vs → SpellsArray ('[' :: (cs ++ [']'])) vs

/-- `member = string name-separator value` -/
inductive SpellsMember : List Char → String × Value → Prop where
  /-- A name, a colon and a value. -/
  | intro {front key back cs : List Char} {name : String} {v : Value} :
    Blanks front → SpellsString key name → Blanks back → Padded item cs v →
      SpellsMember (front ++ (key ++ (back ++ ':' :: cs))) (name, v)

/-- `member *( value-separator member )` -/
inductive SpellsMembers : List Char → Members → Prop where
  /-- The last member. -/
  | last {cs : List Char} {m : String × Value} : SpellsMember item cs m → SpellsMembers cs [m]
  /-- A member, a comma, and more. -/
  | more {cs ds : List Char} {m : String × Value} {ms : Members} :
    SpellsMember item cs m → SpellsMembers ds ms → SpellsMembers (cs ++ ',' :: ds) (m :: ms)

/-- **The members of an object as they are written**:
`object = begin-object [ member *( value-separator member ) ] end-object` -/
inductive SpellsWritten : List Char → Members → Prop where
  /-- Without members. -/
  | empty {bs : List Char} : Blanks bs → SpellsWritten ('{' :: (bs ++ ['}'])) []
  /-- With members. -/
  | members {cs : List Char} {ms : Members} :
    SpellsMembers item cs ms → SpellsWritten ('{' :: (cs ++ ['}'])) ms

end Elements

/-- The member of this name that counts: the last one that is written. -/
def Members.last? (written : Members) (name : String) : Option Value := written.reverse.lookup name

/-- **What written members amount to**: each name once, in order, with the
value that was written last. -/
structure AmountsTo (written ms : Members) : Prop where
  /-- The names increase. -/
  ordered : Members.Ordered ms
  /-- Each name has the value that counts. -/
  lookup : ∀ name, ms.lookup name = written.last? name

/-- **An object**, or a number in the disguise of one. -/
inductive SpellsObject (item : List Char → Value → Prop) : List Char → Value → Prop where
  /-- The members, of which the marker is not the first. -/
  | members {cs : List Char} {written ms : Members} :
    SpellsWritten item cs written → written.isLed = false → AmountsTo written ms →
      SpellsObject item cs (.object ms)
  /-- The marker is the name of the only member, a string that spells a
  number. -/
  | disguise {cs : List Char} {s : String} {n : Number} :
    SpellsMember (fun ds v => v = .string s ∧ SpellsString ds s) cs (numberMarker, .string s) →
      SpellsNumber s.toList n → SpellsObject item ('{' :: (cs ++ ['}'])) (.number n)

/-! ## Values -/

/-- **A value** without blanks around it, of which at most so many arrays and
objects stand inside each other:
`value = false / null / true / object / array / number / string` -/
def Spells : Nat → List Char → Value → Prop
  | 0 => SpellsScalar
  | levels + 1 => fun cs v =>
    SpellsScalar cs v ∨ (∃ vs, v = .array vs ∧ SpellsArray (Spells levels) cs vs) ∨
      SpellsObject (Spells levels) cs v

/-- **The value that a text denotes**: `JSON-text = ws value ws` -/
def Denotes (text : String) (v : Value) : Prop := Padded (Spells maxDepth) text.toList v

/-- **The text is an object with these members**, in the order in which they
are written. What is inside has the levels below the outermost one. -/
def WritesObject (text : String) (written : Members) : Prop :=
  ∃ front body back, Blanks front ∧ Blanks back ∧ text.toList = front ++ (body ++ back) ∧
    SpellsWritten (Spells (maxDepth - 1)) body written

end EchoProbe.Json
