import EchoProbe.Json.Number
import EchoProbe.Binary64.Shortest

/-!
# Real numbers in JSON

A finite floating-point number is written with the fewest digits that read
back. From `1e-5` up to `1e16` it is written with a point and at least one
digit behind it, outside with a signed exponent. A number is read as the
floating-point number nearest to it, which may be infinite.
-/

namespace EchoProbe.Json

open EchoProbe.Text

/-- The whole part made of some digits; without any it is zero. -/
def Whole.ofDigits : List Digit → Whole
  | [] => .zero
  | d :: ds => if h : d = 0 then .zero else .positive (d.pred h) ds

/-- The run made of some digits, if there are any. -/
def Digits.ofList? : List Digit → Option Digits
  | [] => none
  | d :: ds => some ⟨d, ds⟩

namespace Number

/-- A number of some digits with the point at a place, counted from in front
of the first digit. -/
def ofLayout (negative : Bool) (ds : List Digit) (point : Int) : Number :=
  if -4 ≤ point ∧ point ≤ 16 then
    let places := point.toNat
    let whole := ds.take places ++ List.replicate (places - ds.length) 0
    let fraction := List.replicate (-point).toNat 0 ++ ds.drop places
    { negative
      whole := Whole.ofDigits whole
      fraction := some ((Digits.ofList? fraction).getD ⟨0, []⟩)
      exponent := none }
  else
    let power := point - 1
    { negative
      whole := Whole.ofDigits (ds.take 1)
      fraction := Digits.ofList? (ds.drop 1)
      exponent := (Digits.ofList? (digitsOf power.natAbs)).map fun digits =>
        ⟨power < 0, digits⟩ }

/-- **The number a floating-point number is written as**; none for what is
not finite. -/
def ofBinary64? (x : Binary64) : Option Number :=
  if x.isFinite then
    let (ds, point) := (Binary64.shortest .toEven x.magnitude).layout
    some (ofLayout x.negative ds (if x.magnitude.val = 0 then 1 else point))
  else none

/-- The digits of a number, without point and exponent. -/
def significantDigits (n : Number) : List Digit :=
  n.whole.toList ++ (n.fraction.map Digits.toList).getD []

/-- The power of ten of the last digit of a number. -/
def power (n : Number) : Int :=
  let written : Int :=
    match n.exponent with
    | none => 0
    | some e =>
      let size : Int := digitsValue e.digits.toList
      if e.negative then -size else size
  written - ((n.fraction.map Digits.toList).getD []).length

/-- **The floating-point number nearest to a number.** -/
def toBinary64 (n : Number) : Binary64 :=
  Binary64.ofDecimal n.negative (digitsValue n.significantDigits) n.power

/-- The nearest floating-point number, if it is finite. -/
def toFinite? (n : Number) : Option Binary64 :=
  if n.toBinary64.isFinite then some n.toBinary64 else none

end Number

end EchoProbe.Json
