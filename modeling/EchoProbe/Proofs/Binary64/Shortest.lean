import EchoProbe.Binary64.Shortest
import EchoProbe.Proofs.Binary64

/-!
# The shortest decimal reads back

What `onGrid?` gives reads back because that is tested before it is given;
trailing zeros can go because moving the point moves no value; and the exact
expansion, which stands behind the search, is the value itself. So
`shortest` gives a decimal whose nearest magnitude is the one it was given
(`nearestDecimal_shortest`), for every finite magnitude and either way of
breaking ties. Nothing here depends on how many digits are tried.
-/

namespace EchoProbe.Binary64

/-- Zeros at the end carry no value. -/
theorem nearestDecimal_trim (d : Decimal) :
    nearestDecimal d.trim.digits d.trim.exponent = nearestDecimal d.digits d.exponent := by
  induction d using Decimal.trim.induct with
  | case1 d h ih =>
    rw [Decimal.trim, dif_pos h, ih]
    have hdigits : d.digits / 10 * 10 ^ 1 = d.digits := by omega
    have hexponent : d.exponent + 1 - (1 : Nat) = d.exponent := Int.add_sub_cancel _ _
    have hmul := nearestDecimal_mul (d.digits / 10) (d.exponent + 1) 1
    rw [hdigits, hexponent] at hmul
    exact hmul.symm
  | case2 d h => rw [Decimal.trim, dif_neg h]

/-- What stands on a grid was tested. -/
theorem nearestDecimal_of_onGrid? {tie : Tie} {magnitude : Nat} {exponent : Int} {d : Decimal}
    (h : onGrid? tie magnitude exponent = some d) :
    nearestDecimal d.digits d.exponent = magnitude := by
  unfold onGrid? at h
  dsimp -zeta only at h
  extract_lets num den low near far readsBack at h
  split at h
  · next htest =>
    rw [← Option.some.inj h]
    exact beq_iff_eq.mp htest
  · split at h
    · next htest =>
      rw [← Option.some.inj h]
      exact beq_iff_eq.mp htest
    · exact absurd h (Option.some_ne_none d).symm

/-- A quotient by a power of two in base ten: each power of five makes one of
ten. -/
theorem nearestDecimal_mul_five_pow (num k : Nat) :
    nearestDecimal (num * 5 ^ k) (-k) = nearest num (2 ^ k) := by
  have hten : 10 ^ k = 2 ^ k * 5 ^ k := by
    rw [show 10 = 2 * 5 from rfl, Nat.mul_pow]
  rw [nearestDecimal_eq_nearest, Int.neg_neg, Int.toNat_natCast, Int.toNat_neg_natCast,
    Nat.pow_zero, Nat.mul_one, hten]
  exact nearest_mul num (2 ^ k) (Nat.pow_pos (by decide))

/-- The shortest decimal was found on a grid, or it is the exact expansion. -/
theorem shortest_cases (tie : Tie) {magnitude : Nat} (h : magnitude ≠ 0) :
    (∃ exponent d, onGrid? tie magnitude exponent = some d ∧ shortest tie magnitude = d.trim) ∨
      shortest tie magnitude = ⟨significand magnitude * 2 ^ shift magnitude * 5 ^ 1074, -1074⟩ := by
  unfold shortest
  rw [if_neg h]
  extract_lets lead
  split
  · next d hfound =>
    obtain ⟨n, -, hgrid⟩ := List.exists_of_findSome?_eq_some hfound
    exact Or.inl ⟨lead - Int.ofNat n, d, hgrid, rfl⟩
  · exact Or.inr rfl

/-- Zero is written as zero. -/
theorem shortest_zero (tie : Tie) : shortest tie 0 = ⟨0, 0⟩ := if_pos rfl

/-- **The shortest decimal of a finite magnitude reads back.** -/
theorem nearestDecimal_shortest (tie : Tie) {magnitude : Nat} (h : magnitude < infinite) :
    nearestDecimal (shortest tie magnitude).digits (shortest tie magnitude).exponent
      = magnitude := by
  by_cases hzero : magnitude = 0
  · rw [hzero, shortest_zero, nearestDecimal, if_pos rfl]
  · rcases shortest_cases tie hzero with ⟨exponent, d, hgrid, htrim⟩ | hexact
    · rw [htrim, nearestDecimal_trim, nearestDecimal_of_onGrid? hgrid]
    · rw [hexact]
      -- the digits are a number of some 800 places, which is better not looked at
      generalize hdigits : significand magnitude * 2 ^ shift magnitude * 5 ^ 1074 = digits
      show nearestDecimal digits (-(1074 : Nat)) = magnitude
      rw [← hdigits, nearestDecimal_mul_five_pow, nearest_exact h]

/-- Only zero is written without a digit that counts. -/
theorem digits_shortest_ne_zero (tie : Tie) {magnitude : Nat} (h : magnitude < infinite)
    (hzero : magnitude ≠ 0) : (shortest tie magnitude).digits ≠ 0 := by
  intro hdigits
  have hread := nearestDecimal_shortest tie h
  rw [hdigits] at hread
  exact hzero hread.symm

end EchoProbe.Binary64
