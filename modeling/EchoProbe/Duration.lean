import EchoProbe.Binary64
import EchoProbe.Text.Digit

/-!
# Durations

A duration is a whole number of nanoseconds. It is shown in the largest of
the units second, millisecond, microsecond and nanosecond of which it has at
least one, either exactly, without zeros at the end, or rounded to a fixed
number of places.
-/

namespace EchoProbe

open EchoProbe.Text

/-- **A span of time.** -/
structure Duration where
  /-- Its length in nanoseconds. -/
  nanoseconds : Nat
deriving DecidableEq, Repr

namespace Duration

/-- No time at all. -/
def zero : Duration := ⟨0⟩

/-- Some seconds and some nanoseconds. -/
def ofParts (seconds nanoseconds : Nat) : Duration := ⟨seconds * 1000000000 + nanoseconds⟩

/-- Some milliseconds. -/
def ofMillis (milliseconds : Nat) : Duration := ⟨milliseconds * 1000000⟩

/-- The whole seconds. -/
def seconds (d : Duration) : Nat := d.nanoseconds / 1000000000

/-- The nanoseconds beyond the whole seconds. -/
def subsecond (d : Duration) : Nat := d.nanoseconds % 1000000000

/-- Whether it is no time at all. -/
def isZero (d : Duration) : Bool := d.nanoseconds == 0

/-- **A unit of time.** -/
structure TimeUnit where
  /-- How many decimal places of it make a nanosecond. -/
  places : Nat
  /-- Its sign. -/
  symbol : String

/-- The unit a duration is shown in. -/
def unit (d : Duration) : TimeUnit :=
  if 1000000000 ≤ d.nanoseconds then ⟨9, "s"⟩
  else if 1000000 ≤ d.nanoseconds then ⟨6, "ms"⟩
  else if 1000 ≤ d.nanoseconds then ⟨3, "µs"⟩
  else ⟨0, "ns"⟩

/-- The digits of a fraction with so many places, without zeros at its end. -/
def fractionText (places fraction : Nat) : String :=
  let ds := (decimalPadded places fraction).toList
  let shown := (ds.reverse.dropWhile (· == '0')).reverse
  if shown.isEmpty then "" else String.ofList ('.' :: shown)

/-- **A duration, exactly.** -/
def toText (d : Duration) : String :=
  let u := d.unit
  let one := 10 ^ u.places
  decimal (d.nanoseconds / one) ++ fractionText u.places (d.nanoseconds % one) ++ u.symbol

/-- A duration to two places; a half goes to the even neighbour. -/
def toShortText (d : Duration) : String :=
  let u := d.unit
  let hundredths := roundDiv .toEven (d.nanoseconds * 100) (10 ^ u.places)
  decimal (hundredths / 100) ++ "." ++ decimalPadded 2 (hundredths % 100) ++ u.symbol

end Duration

end EchoProbe
