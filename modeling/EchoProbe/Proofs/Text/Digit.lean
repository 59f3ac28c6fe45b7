import Mathlib.Data.List.Induction
import EchoProbe.Text.Digit

/-!
# The number that digits denote

`digitsValue` is a fold from the left, so the last digit is the easy one to
take off. What is needed of it elsewhere is what happens when two runs stand
next to each other (`digitsValue_append`): the digits on the left count for
as many powers of ten as there are digits on the right.

The digits that are written for a number denote it (`digitsValue_digitsOf`),
and they do not begin with a zero (`exists_digitsOf`).
-/

namespace EchoProbe.Text

/-- A character that stands for a digit is the one it is written as. -/
theorem eq_toChar_of_ofChar? {c : Char} {d : Digit} (h : Digit.ofChar? c = some d) :
    c = d.toChar := by
  unfold Digit.ofChar? at h
  split at h
  · next hc =>
    cases h
    rw [Digit.toChar, Nat.sub_add_cancel hc.1, Char.ofNat_toNat]
  · cases h

theorem digitsValue_concat (ds : List Digit) (d : Digit) :
    digitsValue (ds ++ [d]) = 10 * digitsValue ds + d.val := by
  rw [digitsValue, List.foldl_append]
  rfl

/-- More digits make no number smaller. -/
theorem le_foldl_digits (ds : List Digit) (value : Nat) :
    value ≤ ds.foldl (fun n d => 10 * n + d.val) value := by
  induction ds generalizing value with
  | nil => exact Nat.le_refl value
  | cons d ds ih =>
    have hstep : value ≤ 10 * value + d.val := by omega
    exact Nat.le_trans hstep (ih (10 * value + d.val))

/-- **Two runs next to each other.** -/
theorem digitsValue_append (ds es : List Digit) :
    digitsValue (ds ++ es) = digitsValue ds * 10 ^ es.length + digitsValue es := by
  induction es using List.reverseRecOn with
  | nil => rw [List.append_nil, List.length_nil, Nat.pow_zero, Nat.mul_one]; rfl
  | append_singleton es e ih =>
    rw [← List.append_assoc, digitsValue_concat, ih, digitsValue_concat, List.length_append,
      List.length_singleton, Nat.pow_succ, ← Nat.mul_assoc, Nat.mul_add]
    omega

/-- Zeros alone denote zero. -/
theorem digitsValue_replicate_zero (k : Nat) : digitsValue (List.replicate k 0) = 0 := by
  induction k with
  | zero => rfl
  | succ k ih => rw [List.replicate_succ', digitsValue_concat, ih]; rfl

/-- Zeros in front do not count. -/
theorem digitsValue_replicate_append (k : Nat) (ds : List Digit) :
    digitsValue (List.replicate k 0 ++ ds) = digitsValue ds := by
  rw [digitsValue_append, digitsValue_replicate_zero, Nat.zero_mul, Nat.zero_add]

/-- Each zero at the end is a factor of ten. -/
theorem digitsValue_append_replicate (ds : List Digit) (k : Nat) :
    digitsValue (ds ++ List.replicate k 0) = digitsValue ds * 10 ^ k := by
  rw [digitsValue_append, digitsValue_replicate_zero, List.length_replicate, Nat.add_zero]

/-- **The digits of a number denote it.** -/
theorem digitsValue_digitsOf (n : Nat) : digitsValue (digitsOf n) = n := by
  induction n using Nat.strongRecOn with
  | ind n ih =>
    rw [digitsOf]
    by_cases h : n < 10
    · rw [if_pos h]
      show 10 * 0 + n % 10 = n
      omega
    · rw [if_neg h, digitsValue_concat, ih (n / 10) (by omega)]
      show 10 * (n / 10) + n % 10 = n
      omega

/-- **No zero in front**: the first digit of a number that is not zero is not
zero. -/
theorem exists_digitsOf {n : Nat} (h : n ≠ 0) : ∃ d ds, digitsOf n = d :: ds ∧ d ≠ 0 := by
  induction n using Nat.strongRecOn with
  | ind n ih =>
    rw [digitsOf]
    by_cases hn : n < 10
    · refine ⟨Fin.ofNat 10 n, [], if_pos hn, fun hzero => h ?_⟩
      have hmod : n % 10 = 0 := congrArg Fin.val hzero
      omega
    · obtain ⟨d, ds, heq, hd⟩ := ih (n / 10) (by omega) (by omega)
      exact ⟨d, ds ++ [Fin.ofNat 10 n], by rw [if_neg hn, heq, List.cons_append], hd⟩

/-- A number has at least one digit. -/
theorem digitsOf_ne_nil (n : Nat) : digitsOf n ≠ [] := by
  rw [digitsOf]
  split
  · exact List.cons_ne_nil _ _
  · exact List.append_ne_nil_of_right_ne_nil _ (List.cons_ne_nil _ _)

end EchoProbe.Text
