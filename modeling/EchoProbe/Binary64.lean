import EchoProbe.Text.Digit

/-!
# Floating-point numbers of 64 bits

A `Binary64` is a sign and a magnitude. The magnitudes are numbered upwards
without a gap: zero is 0, each finite magnitude has the number of its bit
pattern, and above the largest finite one stand infinity and the patterns
that are no number. So the order of the magnitudes is the order of their
numbers, and rounding is a matter of finding the nearest number.

A finite magnitude stands for `significand · 2 ^ (shift - 1074)`.
-/

namespace EchoProbe

/-- How a number half-way between two candidates is rounded. -/
inductive Tie where
  /-- To the candidate that is even. -/
  | toEven
  /-- To the larger candidate. -/
  | up
deriving DecidableEq, Repr

/-- The quotient rounded to the nearest whole number. -/
def roundDiv (tie : Tie) (num den : Nat) : Nat :=
  let q := num / den
  let r := 2 * (num % den)
  if r < den then q
  else if den < r then q + 1
  else
    match tie with
    | .up => q + 1
    | .toEven => if q % 2 = 0 then q else q + 1

/-- A quotient without a remainder is not rounded. -/
theorem roundDiv_mul (tie : Tie) (q den : Nat) (h : 0 < den) :
    roundDiv tie (q * den) den = q := by
  simp [roundDiv, Nat.mul_div_cancel _ h, h]

/-- **A floating-point number of 64 bits.** -/
structure Binary64 where
  /-- Whether the sign bit is set. -/
  negative : Bool
  /-- The number of the magnitude: the bit pattern without the sign. -/
  magnitude : Fin (2 ^ 63)
deriving DecidableEq, Repr

namespace Binary64

/-- The number that a bit pattern stands for. -/
def ofBits (bits : Nat) : Binary64 where
  negative := bits / 2 ^ 63 % 2 == 1
  magnitude := Fin.ofNat _ bits

/-- The bit pattern of a number. -/
def toBits (x : Binary64) : Nat := (if x.negative then 2 ^ 63 else 0) + x.magnitude

/-- The number of the magnitude infinity. -/
def infinite : Nat := 2047 * 2 ^ 52

/-- Neither infinite nor without a value. -/
def isFinite (x : Binary64) : Bool := x.magnitude.val < infinite

/-- The whole factor of a finite magnitude. -/
def significand (magnitude : Nat) : Nat :=
  if magnitude < 2 ^ 52 then magnitude else 2 ^ 52 + magnitude % 2 ^ 52

/-- The power of two of a finite magnitude, counted from the smallest. -/
def shift (magnitude : Nat) : Nat := magnitude / 2 ^ 52 - 1

/-- The magnitude nearest to a quotient; of two equally near the even one.
What lies beyond the finite ones is infinite. -/
def nearest (num den : Nat) : Nat :=
  let scaled := num * 2 ^ 1074
  let shift := Nat.log2 (scaled / den) - 52
  min infinite (shift * 2 ^ 52 + roundDiv .toEven scaled (den * 2 ^ shift))

/-- The number of a sign and a magnitude that is at most infinite. -/
def ofMagnitude (negative : Bool) (magnitude : Nat) : Binary64 where
  negative
  magnitude := Fin.ofNat _ magnitude

/-- The magnitude nearest to `digits · 10 ^ exponent`. Exponents far outside
the range are decided without computing the power. -/
def nearestDecimal (digits : Nat) (exponent : Int) : Nat :=
  if digits = 0 then 0
  else if 400 < exponent then infinite
  else if exponent < -((digits.log2 : Int) + 400) then 0
  else nearest (digits * 10 ^ exponent.toNat) (10 ^ (-exponent).toNat)

/-- The number nearest to `digits · 10 ^ exponent` under a sign. -/
def ofDecimal (negative : Bool) (digits : Nat) (exponent : Int) : Binary64 :=
  ofMagnitude negative (nearestDecimal digits exponent)

end Binary64

end EchoProbe
