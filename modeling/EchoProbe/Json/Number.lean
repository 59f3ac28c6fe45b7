import EchoProbe.Text.Digit

/-!
# JSON numbers, kept by their text

A number is kept as the digits it was written with, of any length, so that
no digit is ever rounded away. The parts are chosen so that each value of
`Number` has exactly one text: only the exponent has several spellings
(`1E5`, `1e5`, `1e+5`), and of those the lower-case one with a sign is
written. Two numbers are equal only if their texts are: `1.0` is not `1`, and
`-0` is not `0`.
-/

namespace EchoProbe.Json

open EchoProbe.Text

/-- A run of at least one digit. -/
structure Digits where
  /-- The first digit. -/
  head : Digit
  /-- The digits after it. -/
  tail : List Digit
deriving DecidableEq, Repr

/-- The digits as a list. -/
def Digits.toList (ds : Digits) : List Digit := ds.head :: ds.tail

/-- **The digits in front of the point**: a lone zero, or a run that does
not begin with one. -/
inductive Whole where
  /-- A lone zero. -/
  | zero
  /-- A first digit from one to nine, counted from zero, and the others. -/
  | positive (lead : Fin 9) (rest : List Digit)
deriving DecidableEq, Repr

/-- The digits as a list. -/
def Whole.toList : Whole → List Digit
  | .zero => [0]
  | .positive lead rest => lead.succ :: rest

/-- An exponent: its sign and its digits, zeros in front included. -/
structure Exponent where
  /-- Whether the sign is a minus. -/
  negative : Bool
  /-- The digits after the sign. -/
  digits : Digits
deriving DecidableEq, Repr

/-- **A JSON number**, of any size and precision. -/
structure Number where
  /-- Whether a minus stands in front. -/
  negative : Bool
  /-- The digits in front of the point. -/
  whole : Whole
  /-- The digits behind the point, if there is one. -/
  fraction : Option Digits
  /-- The power of ten, if one is written. -/
  exponent : Option Exponent
deriving DecidableEq, Repr

namespace Number

/-- The minus sign of a negative number. -/
def signChars (n : Number) : List Char := if n.negative then ['-'] else []

/-- The point and the digits behind it. -/
def fractionChars (n : Number) : List Char :=
  match n.fraction with
  | none => []
  | some ds => '.' :: digitChars ds.toList

/-- The exponent: a lower-case marker, a sign and the digits. -/
def exponentChars (n : Number) : List Char :=
  match n.exponent with
  | none => []
  | some e => 'e' :: (if e.negative then '-' else '+') :: digitChars e.digits.toList

/-- **The one text of a number.** -/
def toChars (n : Number) : List Char :=
  n.signChars ++ digitChars n.whole.toList ++ n.fractionChars ++ n.exponentChars

/-- The text of a number. -/
def toText (n : Number) : String := String.ofList n.toChars

/-- A whole number that is not negative. -/
def ofNat (n : Nat) : Number :=
  let whole : Whole :=
    match digitsOf n with
    | [] => .zero
    | d :: ds => if h : d = 0 then .zero else .positive (d.pred h) ds
  { negative := false, whole, fraction := none, exponent := none }

end Number

end EchoProbe.Json
