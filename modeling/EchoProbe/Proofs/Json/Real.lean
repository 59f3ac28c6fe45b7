import EchoProbe.Json.Real
import EchoProbe.Proofs.Binary64.Shortest
import EchoProbe.Proofs.Text.Digit

/-!
# A finite number is written and read without loss

`Number.ofLayout` puts a point into some digits, or an exponent behind them.
Wherever the point comes to stand, the digits read back are the digits given
with zeros added at the end, and the power is smaller by as many as there are
zeros (`Number.ofLayout_spec`). As moving the point moves no value, the
number written for a finite floating-point number is read as that number
(`Number.exists_ofBinary64?`).
-/

namespace EchoProbe.Json

open EchoProbe.Text

/-- The digits in front of the point are the digits given, where these do not
begin with a zero. -/
theorem Whole.toList_ofDigits {d : Digit} (h : d ≠ 0) (ds : List Digit) :
    (Whole.ofDigits (d :: ds)).toList = d :: ds := by
  rw [Whole.ofDigits, dif_neg h, Whole.toList, Fin.succ_pred]

/-- The digits behind the point are the digits given. -/
theorem Digits.toList_ofList? (ds : List Digit) :
    ((Digits.ofList? ds).map Digits.toList).getD [] = ds := by
  cases ds <;> rfl

/-- Digits behind the point that are there are kept. -/
theorem Digits.toList_getD_ofList? {ds : List Digit} (h : ds ≠ []) :
    ((Digits.ofList? ds).getD ⟨0, []⟩).toList = ds := by
  cases ds with
  | nil => exact absurd rfl h
  | cons d ds => rfl

namespace Number

/-- With a point, the power counts the digits behind it. -/
theorem power_of_point (negative : Bool) (whole : Whole) (ds : Digits) :
    power ⟨negative, whole, some ds, none⟩ = -(ds.toList.length : Int) := by
  show (0 : Int) - ds.toList.length = _
  rw [Int.zero_sub]

/-- With an exponent, the power is the exponent less the digits behind the
point. -/
theorem power_of_exponent (negative : Bool) (whole : Whole) (fraction : Option Digits)
    (written : Int) :
    power ⟨negative, whole, fraction,
        (Digits.ofList? (digitsOf written.natAbs)).map fun digits => ⟨written < 0, digits⟩⟩
      = written - ((fraction.map Digits.toList).getD []).length := by
  match hds : digitsOf written.natAbs with
  | [] => exact absurd hds (digitsOf_ne_nil _)
  | d :: ds =>
    have hsize : digitsValue (d :: ds) = written.natAbs := by
      rw [← hds, digitsValue_digitsOf]
    simp only [power, Digits.ofList?, Option.map_some, Digits.toList, hsize]
    congr 1
    by_cases h : written < 0
    · rw [if_pos (decide_eq_true h)]
      omega
    · rw [if_neg (by simpa using h)]
      omega

section Layout

variable (negative : Bool) {d : Digit} {ds : List Digit} {point : Int}

/-- With a point: the digits on both sides of it, and their power. -/
theorem ofLayout_of_point (hpoint : -4 ≤ point ∧ point ≤ 16) {whole fraction : List Digit}
    (hwhole : (Whole.ofDigits
        (ds.take point.toNat ++ List.replicate (point.toNat - ds.length) 0)).toList = whole)
    (hfraction : ((Digits.ofList?
        (List.replicate (-point).toNat 0 ++ ds.drop point.toNat)).getD ⟨0, []⟩).toList
      = fraction) :
    (ofLayout negative ds point).significantDigits = whole ++ fraction ∧
      (ofLayout negative ds point).power = -(fraction.length : Int) := by
  rw [← hwhole, ← hfraction, ofLayout, if_pos hpoint]
  exact ⟨rfl, power_of_point _ _ _⟩

/-- The point stands in front of the digits: there is a lone zero in front of
it, and there are zeros between it and the digits. -/
theorem ofLayout_front (hlow : -4 ≤ point) (hfront : point ≤ 0) (hne : ds ≠ []) :
    (ofLayout negative ds point).significantDigits
        = [0] ++ (List.replicate (-point).toNat 0 ++ ds) ∧
      (ofLayout negative ds point).power
        = -((List.replicate (-point).toNat 0 ++ ds).length : Int) := by
  have hplaces : point.toNat = 0 := Int.toNat_of_nonpos hfront
  refine ofLayout_of_point negative ⟨hlow, by omega⟩ ?_ ?_
  · rw [hplaces, Nat.zero_sub]
    rfl
  · rw [hplaces, List.drop_zero]
    exact Digits.toList_getD_ofList? (List.append_ne_nil_of_right_ne_nil _ hne)

/-- The point stands between two of the digits. -/
theorem ofLayout_middle (hd : d ≠ 0) (hhigh : point ≤ 16) (hpos : 0 < point)
    (hlong : point < (d :: ds).length) :
    (ofLayout negative (d :: ds) point).significantDigits = d :: ds ∧
      (ofLayout negative (d :: ds) point).power
        = -(((d :: ds).drop point.toNat).length : Int) := by
  obtain ⟨places, hplaces⟩ : ∃ places, point.toNat = places + 1 := ⟨point.toNat - 1, by omega⟩
  have hle : point.toNat ≤ (d :: ds).length := by omega
  have hsplit : (d :: ds).take point.toNat ++ (d :: ds).drop point.toNat = d :: ds :=
    List.take_append_drop _ _
  have hboth : (ofLayout negative (d :: ds) point).significantDigits
        = (d :: ds).take point.toNat ++ (d :: ds).drop point.toNat ∧
      (ofLayout negative (d :: ds) point).power
        = -(((d :: ds).drop point.toNat).length : Int) := by
    refine ofLayout_of_point negative ⟨by omega, hhigh⟩ ?_ ?_
    · rw [Nat.sub_eq_zero_of_le hle, List.replicate_zero, List.append_nil, hplaces,
        List.take_succ_cons]
      exact Whole.toList_ofDigits hd _
    · rw [show (-point).toNat = 0 by omega, List.replicate_zero, List.nil_append]
      exact Digits.toList_getD_ofList? (by rw [Ne, List.drop_eq_nil_iff]; omega)
  rwa [hsplit] at hboth

/-- The point stands behind the digits, filled up with zeros, and a lone zero
behind it. -/
theorem ofLayout_behind (hd : d ≠ 0) (hhigh : point ≤ 16)
    (hshort : ((d :: ds).length : Int) ≤ point) :
    (ofLayout negative (d :: ds) point).significantDigits
        = d :: ds ++ List.replicate (point.toNat - (d :: ds).length) 0 ++ [0] ∧
      (ofLayout negative (d :: ds) point).power = -1 := by
  have hlen : (d :: ds).length ≤ point.toNat := by omega
  refine ofLayout_of_point negative ⟨by omega, hhigh⟩ ?_ ?_
  · rw [List.take_of_length_le hlen]
    exact Whole.toList_ofDigits hd _
  · rw [show (-point).toNat = 0 by omega, List.drop_of_length_le hlen]
    rfl

/-- With an exponent, the point stands behind the first digit. -/
theorem ofLayout_exponent (hd : d ≠ 0) (hpoint : ¬(-4 ≤ point ∧ point ≤ 16)) :
    (ofLayout negative (d :: ds) point).significantDigits = d :: ds ∧
      (ofLayout negative (d :: ds) point).power = point - 1 - ds.length := by
  rw [ofLayout, if_neg hpoint]
  refine ⟨?_, ?_⟩
  · show (Whole.ofDigits [d]).toList ++ ((Digits.ofList? ds).map Digits.toList).getD [] = _
    rw [Whole.toList_ofDigits hd, Digits.toList_ofList?]
    rfl
  · rw [power_of_exponent]
    show point - 1 - (((Digits.ofList? ds).map Digits.toList).getD []).length = _
    rw [Digits.toList_ofList?]

theorem negative_ofLayout (ds : List Digit) (point : Int) :
    (ofLayout negative ds point).negative = negative := by
  unfold ofLayout
  split <;> rfl

/-- **The digits written are the digits given**, up to zeros at their end,
and the power tells how many there are. -/
theorem ofLayout_spec (hd : d ≠ 0) (ds : List Digit) (point : Int) :
    ∃ k : Nat,
      digitsValue (ofLayout negative (d :: ds) point).significantDigits
        = digitsValue (d :: ds) * 10 ^ k ∧
      (ofLayout negative (d :: ds) point).power = point - (d :: ds).length - k := by
  -- the point stands in front of the digits, between them or behind them, or
  -- there is an exponent; zeros are added at the end only behind them
  by_cases hpoint : -4 ≤ point ∧ point ≤ 16
  · by_cases hfront : point ≤ 0
    · obtain ⟨hdigits, hpower⟩ :=
        ofLayout_front negative hpoint.1 hfront (List.cons_ne_nil d ds)
      refine ⟨0, ?_, ?_⟩
      · rw [hdigits, show [0] = List.replicate 1 (0 : Digit) from rfl,
          digitsValue_replicate_append, digitsValue_replicate_append, Nat.pow_zero, Nat.mul_one]
      · rw [hpower, List.length_append, List.length_replicate]
        omega
    · by_cases hlong : point < (d :: ds).length
      · obtain ⟨hdigits, hpower⟩ :=
          ofLayout_middle negative hd hpoint.2 (Int.not_le.mp hfront) hlong
        refine ⟨0, ?_, ?_⟩
        · rw [hdigits, Nat.pow_zero, Nat.mul_one]
        · rw [hpower, List.length_drop]
          omega
      · obtain ⟨hdigits, hpower⟩ := ofLayout_behind negative hd hpoint.2 (Int.not_lt.mp hlong)
        refine ⟨point.toNat - (d :: ds).length + 1, ?_, ?_⟩
        · rw [hdigits, List.append_assoc, ← List.replicate_succ', digitsValue_append_replicate]
        · rw [hpower]
          omega
  · obtain ⟨hdigits, hpower⟩ := ofLayout_exponent negative hd hpoint
    refine ⟨0, ?_, ?_⟩
    · rw [hdigits, Nat.pow_zero, Nat.mul_one]
    · rw [hpower, List.length_cons]
      omega

/-- A decimal that is written is rounded as the decimal. -/
theorem toBinary64_ofLayout {decimal : Decimal} (h : decimal.digits ≠ 0) :
    (ofLayout negative decimal.layout.1 decimal.layout.2).toBinary64
      = Binary64.ofDecimal negative decimal.digits decimal.exponent := by
  obtain ⟨d, ds, hds, hd⟩ := exists_digitsOf h
  have hvalue : digitsValue (d :: ds) = decimal.digits := by
    rw [← hds, digitsValue_digitsOf]
  obtain ⟨k, hdigits, hpower⟩ :=
    ofLayout_spec negative hd ds (decimal.exponent + (d :: ds).length)
  show toBinary64 (ofLayout negative (digitsOf decimal.digits)
    (decimal.exponent + (digitsOf decimal.digits).length)) = _
  rw [hds, toBinary64, negative_ofLayout, hdigits, hpower, hvalue, Int.add_sub_cancel,
    Binary64.ofDecimal, Binary64.ofDecimal, Binary64.nearestDecimal_mul]

/-- Zero is written with a point, which is not where its one digit would have
it. -/
theorem toBinary64_ofLayout_zero : (ofLayout negative [0] 1).toBinary64 = ⟨negative, 0⟩ := by
  cases negative <;> rfl

end Layout

/-- **A finite number is read back from what it is written as.** -/
theorem exists_ofBinary64? {x : Binary64} (h : x.isFinite = true) :
    ∃ n, ofBinary64? x = some n ∧ n.toFinite? = some x := by
  by_cases hzero : x.magnitude.val = 0
  · have hx : ⟨x.negative, 0⟩ = x := by
      rw [← show x.magnitude = 0 from Fin.ext hzero]
    refine ⟨ofLayout x.negative [0] 1, ?_, ?_⟩
    · rw [ofBinary64?, if_pos h, hzero, Binary64.shortest_zero]
      show some (ofLayout x.negative (digitsOf 0) 1) = _
      rw [show digitsOf 0 = [0] by rw [digitsOf]; rfl]
    · rw [toFinite?, toBinary64_ofLayout_zero, hx, if_pos h]
  · have hfinite : x.magnitude.val < Binary64.infinite := of_decide_eq_true h
    have hvalue : (ofLayout x.negative (Binary64.shortest .toEven x.magnitude).layout.1
        (Binary64.shortest .toEven x.magnitude).layout.2).toBinary64 = x := by
      rw [toBinary64_ofLayout x.negative (Binary64.digits_shortest_ne_zero .toEven hfinite hzero),
        Binary64.ofDecimal, Binary64.nearestDecimal_shortest .toEven hfinite,
        Binary64.ofMagnitude, Fin.ofNat_val_eq_self]
    refine ⟨_, ?_, by rw [toFinite?, hvalue, if_pos h]⟩
    simp only [ofBinary64?, if_pos h, if_neg hzero]

end Number

end EchoProbe.Json
