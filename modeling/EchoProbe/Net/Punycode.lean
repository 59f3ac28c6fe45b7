/-!
# Punycode

The encoding of RFC 3492, which writes a label of any characters with
letters, digits and hyphens. The plain characters come first and a hyphen
behind them; then the others follow as differences between one insertion and
the next, each a number of variable length whose digit weights adapt to the
numbers before.
-/

namespace EchoProbe.Net.Punycode

/-- The letter or digit of a number below 36. -/
def digitChar (d : Nat) : Char := if d < 26 then Char.ofNat (d + 0x61) else Char.ofNat (d + 22)

/-- The number of a letter or digit. -/
def digitValue? (c : Char) : Option Nat :=
  let n := c.toNat
  if 0x61 ≤ n ∧ n ≤ 0x7A then some (n - 0x61)
  else if 0x41 ≤ n ∧ n ≤ 0x5A then some (n - 0x41)
  else if 0x30 ≤ n ∧ n ≤ 0x39 then some (n - 22)
  else none

/-- The threshold of the digit at a place. -/
def threshold (place bias : Nat) : Nat :=
  if place ≤ bias then 1 else if bias + 26 ≤ place then 26 else place - bias

theorem one_le_threshold (place bias : Nat) : 1 ≤ threshold place bias := by
  unfold threshold; split
  · omega
  · split <;> omega

/-- Divide a difference until it is small, counting places. -/
def settle (delta place : Nat) : Nat × Nat :=
  if 455 < delta then settle (delta / 35) (place + 36) else (delta, place)
termination_by delta
decreasing_by exact Nat.div_lt_self (by omega) (by omega)

/-- The bias after an insertion. -/
def adapt (delta count : Nat) (first : Bool) : Nat :=
  let delta := if first then delta / 700 else delta / 2
  let (rest, place) := settle (delta + delta / count) 0
  place + 36 * rest / (rest + 38)

/-! ### Encoding -/

/-- The digits of a difference. -/
def deltaDigits (bias place q : Nat) : List Char :=
  let t := threshold place bias
  if q < t then [digitChar q]
  else digitChar (t + (q - t) % (36 - t)) :: deltaDigits bias (place + 36) ((q - t) / (36 - t))
termination_by q
decreasing_by
  have := one_le_threshold place bias
  have := Nat.div_le_self (q - threshold place bias) (36 - threshold place bias)
  omega

/-- How far the encoding has come. -/
structure Encoder where
  /-- The digits so far, in reverse. -/
  output : List Char
  /-- The difference since the last insertion. -/
  delta : Nat
  /-- The bias. -/
  bias : Nat
  /-- How many characters are handled. -/
  handled : Nat

/-- Pass a character of the label, on the way to the insertions of one code
point. -/
def Encoder.pass (basic code : Nat) (e : Encoder) (c : Char) : Encoder :=
  if c.toNat < code then { e with delta := e.delta + 1 }
  else if c.toNat = code then
    { output := (deltaDigits e.bias 36 e.delta).reverse ++ e.output
      delta := 0
      bias := adapt e.delta (e.handled + 1) (e.handled == basic)
      handled := e.handled + 1 }
  else e

/-- Insert the code points of a list, which increases, one after the other. -/
def Encoder.run (label : List Char) (basic : Nat) : List Nat → Nat → Encoder → Encoder
  | [], _, e => e
  | code :: codes, start, e =>
    let e := { e with delta := e.delta + (code - start) * (e.handled + 1) }
    let e := label.foldl (Encoder.pass basic code) e
    Encoder.run label basic codes (code + 1) { e with delta := e.delta + 1 }

/-- Put a number into an increasing list that may have it already. -/
def insertSorted (n : Nat) : List Nat → List Nat
  | [] => [n]
  | m :: ms => if n < m then n :: m :: ms else if n = m then m :: ms else m :: insertSorted n ms

/-- **The encoding of a label**, without any mark in front. -/
def encode (label : List Char) : List Char :=
  let plain := label.filter (·.toNat < 0x80)
  let codes := ((label.map Char.toNat).filter (0x80 ≤ ·)).foldr insertSorted []
  let e := Encoder.run label plain.length codes 0x80 ⟨[], 0, 72, plain.length⟩
  plain ++ (if plain.isEmpty then [] else ['-']) ++ e.output.reverse

/-! ### Decoding -/

/-- Read one difference: its value and the text behind it. -/
def readDelta? (bias place weight value : Nat) : List Char → Option (Nat × List Char)
  | [] => none
  | c :: cs =>
    match digitValue? c with
    | none => none
    | some d =>
      let t := threshold place bias
      let value := value + d * weight
      if d < t then some (value, cs)
      else readDelta? bias (place + 36) (weight * (36 - t)) value cs

theorem length_of_readDelta? {bias place weight value v : Nat} {cs rest : List Char}
    (h : readDelta? bias place weight value cs = some (v, rest)) : rest.length < cs.length := by
  induction cs generalizing place weight value with
  | nil => simp [readDelta?] at h
  | cons c cs ih =>
    unfold readDelta? at h
    split at h
    · simp at h
    · simp only at h
      split at h
      · simp only [Option.some.injEq, Prod.mk.injEq] at h
        simp [h.2]
      · have := ih h
        simp only [List.length_cons]
        omega

/-- Insert the characters that the differences describe, from a code point
and a place on. -/
def insertAll (code place bias : Nat) (label : List Char) (cs : List Char) :
    Option (List Char) :=
  match cs with
  | [] => some label
  | c :: cs' =>
    match _h : readDelta? bias 36 1 0 (c :: cs') with
    | none => none
    | some (delta, rest) =>
      let count := label.length + 1
      let target := place + delta
      let code := code + target / count
      let spot := target % count
      if code < 0x110000 ∧ ¬ (0xD800 ≤ code ∧ code < 0xE000) then
        insertAll code (spot + 1) (adapt delta count (place == 0))
          (label.take spot ++ Char.ofNat code :: label.drop spot) rest
      else none
termination_by cs.length
decreasing_by exact length_of_readDelta? _h

/-- **The label that an encoding stands for**, if it is one. -/
def decode? (cs : List Char) : Option (List Char) :=
  let digits := (cs.reverse.takeWhile (· != '-')).reverse
  let plain := cs.take (cs.length - digits.length - 1)
  if plain.isEmpty then insertAll 0x80 0 72 [] cs else insertAll 0x80 0 72 plain digits

end EchoProbe.Net.Punycode
