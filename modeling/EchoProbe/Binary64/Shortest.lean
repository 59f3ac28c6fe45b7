import EchoProbe.Binary64
import EchoProbe.Text.Digit

/-!
# The shortest decimal of a floating-point number

Of all decimals that read back to a finite number, `shortest` gives one with
the fewest digits, and among those the nearest. It tries one digit, then
two, and so on: on each grid of decimals only the two neighbours of the
exact value can be the answer. Seventeen digits always suffice; the exact
expansion stands behind them, so that the function is total by itself.
-/

namespace EchoProbe

open EchoProbe.Text

/-- **A decimal**: `digits · 10 ^ exponent`. -/
structure Decimal where
  /-- The digits, as a number. -/
  digits : Nat
  /-- The power of ten of the last digit. -/
  exponent : Int
deriving DecidableEq, Repr

namespace Decimal

/-- The same decimal without zeros at its end. -/
def trim (d : Decimal) : Decimal :=
  if h : d.digits ≠ 0 ∧ d.digits % 10 = 0 then trim ⟨d.digits / 10, d.exponent + 1⟩ else d
termination_by d.digits
decreasing_by omega

/-- The digits of a decimal and the place of its point: the decimal is
`0.d₁d₂…dₙ · 10 ^ point`. -/
def layout (d : Decimal) : List Digit × Int :=
  let ds := digitsOf d.digits
  (ds, d.exponent + ds.length)

end Decimal

namespace Binary64

/-- The exact value of a finite magnitude, as a quotient. -/
def ratio (magnitude : Nat) : Nat × Nat :=
  (significand magnitude * 2 ^ shift magnitude, 2 ^ 1074)

/-- The power of ten of the leading digit of a magnitude that is not zero. -/
def leadingPower (magnitude : Nat) : Int :=
  let (num, den) := ratio magnitude
  ((digitsOf (num * 10 ^ 400 / den)).length : Int) - 401

/-- The neighbour of a magnitude on the grid of the multiples of
`10 ^ exponent` that reads back, the nearer one if both do. -/
def onGrid? (tie : Tie) (magnitude : Nat) (exponent : Int) : Option Decimal :=
  let (num, den) := ratio magnitude
  let num := num * 10 ^ (-exponent).toNat
  let den := den * 10 ^ exponent.toNat
  let low := num / den
  let near := roundDiv tie num den
  let far := if near = low then low + 1 else low
  let readsBack d := nearestDecimal d exponent == magnitude
  if readsBack near then some ⟨near, exponent⟩
  else if readsBack far then some ⟨far, exponent⟩
  else none

/-- **The shortest decimal that reads back** to a finite magnitude. -/
def shortest (tie : Tie) (magnitude : Nat) : Decimal :=
  if magnitude = 0 then ⟨0, 0⟩
  else
    let lead := leadingPower magnitude
    match (List.range 17).findSome? fun n => onGrid? tie magnitude (lead - Int.ofNat n) with
    | some d => d.trim
    | none => ⟨significand magnitude * 2 ^ shift magnitude * 5 ^ 1074, -1074⟩

end Binary64

end EchoProbe
