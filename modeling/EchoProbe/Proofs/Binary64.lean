import EchoProbe.Binary64

/-!
# The nearest magnitude is a function of the value

`Binary64.nearest` is given a quotient and `Binary64.nearestDecimal` a whole
number and a power of ten. The same value can be put in many ways; the
magnitude does not depend on which (`nearest_mul`, `nearestDecimal_mul`).
For decimals this includes the two shortcuts: an exponent far outside the
range gives what the quotient would give (`nearestDecimal_eq_nearest`).

Every finite magnitude is the nearest one to its own value
(`nearest_exact`).
-/

namespace EchoProbe

/-- Rounding a quotient does not depend on how it is put. -/
theorem roundDiv_mul_mul (tie : Tie) (num den : Nat) {k : Nat} (h : 0 < k) :
    roundDiv tie (num * k) (den * k) = roundDiv tie num den := by
  have hlt : ∀ a b : Nat, 2 * (a * k) < b * k ↔ 2 * a < b := by
    intro a b
    rw [← Nat.mul_assoc]
    exact Nat.mul_lt_mul_right h
  have hgt : ∀ a b : Nat, b * k < 2 * (a * k) ↔ b < 2 * a := by
    intro a b
    rw [← Nat.mul_assoc]
    exact Nat.mul_lt_mul_right h
  simp only [roundDiv, Nat.mul_div_mul_right _ _ h, Nat.mul_mod_mul_right, hlt, hgt]

/-- What is less than a half is rounded to zero. -/
theorem roundDiv_eq_zero (tie : Tie) {num den : Nat} (h : 2 * num < den) :
    roundDiv tie num den = 0 := by
  have hlt : num < den := by omega
  simp only [roundDiv, Nat.div_eq_of_lt hlt, Nat.mod_eq_of_lt hlt, if_pos h]

namespace Binary64

/-- The magnitude nearest to a multiple of the smallest one, put as a
quotient. -/
def nearestScaled (scaled den : Nat) : Nat :=
  let shift := Nat.log2 (scaled / den) - 52
  min infinite (shift * 2 ^ 52 + roundDiv .toEven scaled (den * 2 ^ shift))

/-- The smallest magnitude is the unit. -/
theorem nearest_eq_nearestScaled (num den : Nat) :
    nearest num den = nearestScaled (num * 2 ^ 1074) den := by
  unfold nearest nearestScaled
  rfl

theorem nearestScaled_mul (scaled den : Nat) {k : Nat} (h : 0 < k) :
    nearestScaled (scaled * k) (den * k) = nearestScaled scaled den := by
  have hden : ∀ s, den * k * 2 ^ s = den * 2 ^ s * k := fun s => Nat.mul_right_comm _ _ _
  simp only [nearestScaled, hden, Nat.mul_div_mul_right _ _ h, roundDiv_mul_mul _ _ _ h]

theorem nearest_mul (num den : Nat) {k : Nat} (h : 0 < k) :
    nearest (num * k) (den * k) = nearest num den := by
  rw [nearest_eq_nearestScaled, nearest_eq_nearestScaled, Nat.mul_right_comm,
    nearestScaled_mul _ _ h]

/-- Equal quotients have the same nearest magnitude. -/
theorem nearest_congr {num den num' den' : Nat} (hden : 0 < den) (hden' : 0 < den')
    (h : num * den' = num' * den) : nearest num den = nearest num' den' := by
  rw [← nearest_mul num den hden', ← nearest_mul num' den' hden, h, Nat.mul_comm den den']

/-! ## Values outside the range -/

/-- Less than half of the smallest magnitude is zero. -/
theorem nearestScaled_eq_zero {scaled den : Nat} (h : 2 * scaled < den) :
    nearestScaled scaled den = 0 := by
  have hlt : scaled < den := by omega
  simp only [nearestScaled, Nat.div_eq_of_lt hlt, Nat.log2_zero, Nat.zero_sub, Nat.zero_mul,
    Nat.pow_zero, Nat.mul_one, roundDiv_eq_zero .toEven h, Nat.add_zero, Nat.min_zero]

/-- What needs more shifts than there are is infinite. -/
theorem nearestScaled_eq_infinite {scaled k : Nat} (hk : 2047 + 52 ≤ k) (h : 2 ^ k ≤ scaled) :
    nearestScaled scaled 1 = infinite := by
  have hne : scaled ≠ 0 := Nat.ne_of_gt (Nat.lt_of_lt_of_le (Nat.two_pow_pos k) h)
  have hlog : k ≤ scaled.log2 := (Nat.le_log2 hne).mpr h
  have hshift : 2047 * 2 ^ 52 ≤ (scaled.log2 - 52) * 2 ^ 52 :=
    Nat.mul_le_mul_right _ (by omega)
  simp only [nearestScaled, Nat.div_one, infinite]
  exact Nat.min_eq_left (Nat.le_trans hshift (Nat.le_add_right _ _))

/-- A power of ten is at least this power of two. -/
theorem two_pow_le_ten_pow {k n : Nat} (h : k ≤ 3 * n) : 2 ^ k ≤ 10 ^ n := by
  calc 2 ^ k ≤ 2 ^ (3 * n) := Nat.pow_le_pow_right (by decide) h
    _ = 8 ^ n := Nat.pow_mul 2 3 n
    _ ≤ 10 ^ n := Nat.pow_le_pow_left (by decide) n

/-- **A decimal is rounded as the quotient that it is**, whether a shortcut
is taken or not. -/
theorem nearestDecimal_eq_nearest (digits : Nat) (exponent : Int) :
    nearestDecimal digits exponent
      = nearest (digits * 10 ^ exponent.toNat) (10 ^ (-exponent).toNat) := by
  rw [nearest_eq_nearestScaled]
  unfold nearestDecimal
  split
  · next hzero =>
    rw [hzero, Nat.zero_mul, Nat.zero_mul]
    exact (nearestScaled_eq_zero (Nat.pow_pos (by decide))).symm
  · next hdigits =>
    split
    · next hbig =>
      -- more than `2 ^ 1025`, where nothing is finite any more
      have hneg : (-exponent).toNat = 0 := by omega
      have hpow : 2 ^ 1025 ≤ digits * 10 ^ exponent.toNat :=
        Nat.le_trans (two_pow_le_ten_pow (by omega))
          (Nat.le_mul_of_pos_left _ (Nat.pos_of_ne_zero hdigits))
      rw [hneg, Nat.pow_zero]
      refine (nearestScaled_eq_infinite (show 2047 + 52 ≤ 1025 + 1074 by decide) ?_).symm
      rw [Nat.pow_add]
      exact Nat.mul_le_mul_right _ hpow
    · split
      · next hsmall =>
        -- less than half of the smallest magnitude
        have hpos : exponent.toNat = 0 := by omega
        have hlt : digits < 2 ^ (digits.log2 + 1) := Nat.lt_log2_self
        rw [hpos, Nat.pow_zero, Nat.mul_one]
        refine (nearestScaled_eq_zero ?_).symm
        calc 2 * (digits * 2 ^ 1074)
            < 2 * (2 ^ (digits.log2 + 1) * 2 ^ 1074) :=
              Nat.mul_lt_mul_of_pos_left (Nat.mul_lt_mul_of_pos_right hlt (Nat.two_pow_pos _))
                (by decide)
          _ = 2 ^ (digits.log2 + 1 + 1074 + 1) := by
              rw [← Nat.pow_add, Nat.mul_comm, ← Nat.pow_succ]
          _ ≤ 10 ^ (-exponent).toNat := two_pow_le_ten_pow (by omega)
      · rfl

/-- **Moving the point moves no value**: zeros at the end of the digits and a
smaller exponent give the same magnitude. -/
theorem nearestDecimal_mul (digits : Nat) (exponent : Int) (k : Nat) :
    nearestDecimal (digits * 10 ^ k) (exponent - k) = nearestDecimal digits exponent := by
  have hpow : ∀ n, 0 < 10 ^ n := fun n => Nat.pow_pos (by decide)
  rw [nearestDecimal_eq_nearest, nearestDecimal_eq_nearest]
  refine nearest_congr (hpow _) (hpow _) ?_
  have hexp : k + (exponent - k).toNat + (-exponent).toNat
      = exponent.toNat + (-(exponent - k)).toNat := by omega
  calc digits * 10 ^ k * 10 ^ (exponent - k).toNat * 10 ^ (-exponent).toNat
      = digits * 10 ^ (k + (exponent - k).toNat + (-exponent).toNat) := by
        rw [Nat.pow_add, Nat.pow_add, Nat.mul_assoc digits, Nat.mul_assoc digits]
    _ = digits * 10 ^ exponent.toNat * 10 ^ (-(exponent - k)).toNat := by
        rw [hexp, Nat.pow_add, Nat.mul_assoc]

/-! ## Values inside the range -/

theorem shift_add_significand (magnitude : Nat) :
    shift magnitude * 2 ^ 52 + significand magnitude = magnitude := by
  unfold shift significand
  split <;> omega

/-- The significand of a magnitude fills its 53 bits, unless the magnitude is
so small that nothing is shifted. -/
theorem log2_significand_mul (magnitude : Nat) :
    (significand magnitude * 2 ^ shift magnitude).log2 - 52 = shift magnitude := by
  unfold shift significand
  split
  · next hsmall =>
    have hshift : magnitude / 2 ^ 52 - 1 = 0 := by omega
    rw [hshift, Nat.pow_zero, Nat.mul_one]
    by_cases hzero : magnitude = 0
    · rw [hzero, Nat.log2_zero]
    · have := (Nat.log2_lt hzero).mpr hsmall
      omega
  · next hlarge =>
    -- the bit that is not stored fills the significand up
    have hmod : magnitude % 2 ^ 52 < 2 ^ 52 := Nat.mod_lt _ (by decide)
    generalize magnitude / 2 ^ 52 - 1 = s
    have hlow : 2 ^ (52 + s) ≤ (2 ^ 52 + magnitude % 2 ^ 52) * 2 ^ s := by
      rw [Nat.pow_add]
      exact Nat.mul_le_mul_right _ (Nat.le_add_right _ _)
    have hhigh : (2 ^ 52 + magnitude % 2 ^ 52) * 2 ^ s < 2 ^ (52 + s + 1) := by
      rw [Nat.add_right_comm, Nat.pow_add]
      exact Nat.mul_lt_mul_of_pos_right (by omega) (Nat.two_pow_pos s)
    have hne : (2 ^ 52 + magnitude % 2 ^ 52) * 2 ^ s ≠ 0 :=
      Nat.ne_of_gt (Nat.lt_of_lt_of_le (Nat.two_pow_pos _) hlow)
    rw [(Nat.log2_eq_iff hne).mpr ⟨hlow, hhigh⟩]
    omega

theorem nearestScaled_exact {magnitude : Nat} (h : magnitude < infinite) :
    nearestScaled (significand magnitude * 2 ^ shift magnitude) 1 = magnitude := by
  have hround : roundDiv .toEven (significand magnitude * 2 ^ shift magnitude)
      (1 * 2 ^ shift magnitude) = significand magnitude := by
    rw [Nat.one_mul]
    exact roundDiv_mul .toEven (significand magnitude) _ (Nat.two_pow_pos _)
  simp only [nearestScaled, Nat.div_one, log2_significand_mul, hround, shift_add_significand]
  exact Nat.min_eq_right (Nat.le_of_lt h)

/-- **Every finite magnitude is nearest to its own value.** -/
theorem nearest_exact {magnitude : Nat} (h : magnitude < infinite) :
    nearest (significand magnitude * 2 ^ shift magnitude) (2 ^ 1074) = magnitude := by
  have hunit := nearestScaled_mul (significand magnitude * 2 ^ shift magnitude) 1
    (Nat.two_pow_pos 1074)
  rw [nearestScaled_exact h, Nat.one_mul] at hunit
  rw [nearest_eq_nearestScaled, hunit]

end Binary64

end EchoProbe
