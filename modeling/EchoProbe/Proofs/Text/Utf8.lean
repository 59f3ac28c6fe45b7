import Mathlib.Data.List.Basic
import EchoProbe.Text.Utf8

/-!
# UTF-8 is read back

What is written as bytes is read as the same text (`decode?_encode`). That is a
statement about single characters in front of any bytes: the first byte of a
character says how many bytes continue it, and in which range the second one
is, and there is one case for each length.
-/

namespace EchoProbe.Text.Utf8

variable {v x bits low high n : Nat}

theorem toNat_ofNat_byte (hx : x < 256) : (UInt8.ofNat x).toNat = x := by
  rw [UInt8.toNat_ofNat', Nat.mod_eq_of_lt hx]

/-- A byte that continues a character adds six bits to it. -/
theorem continuation_cons (hlow : low ≤ x) (hhigh : x ≤ high) (hx : x < 256) (bs : List UInt8) :
    continuation bits low high (n + 1) (UInt8.ofNat x :: bs)
      = continuation (bits * 64 + (x - 0x80)) 0x80 0xBF n bs := by
  rw [continuation, toNat_ofNat_byte hx, if_pos ⟨hlow, hhigh⟩]

/-- A first byte is followed by what continues the character. -/
theorem chars_lead (hlead : lead? x = some ⟨bits, low, high, n⟩) (hfirst : 0x80 ≤ x)
    (hx : x < 256) {tail bs : List UInt8}
    (htail : continuation bits low high n tail = (some v, bs)) :
    chars (UInt8.ofNat x :: tail) = some (Char.ofNat v) :: chars bs := by
  rw [chars, toNat_ofNat_byte hx, if_neg (Nat.not_lt.mpr hfirst), hlead]
  simp only [htail, Option.map_some]

theorem lead?_of_two (h : 0x80 ≤ v) (hv : v < 0x800) :
    lead? (v / 64 + 0xC0) = some ⟨v / 64, 0x80, 0xBF, 1⟩ := by
  unfold lead?
  rw [if_neg (by omega), if_pos (by omega), Nat.add_sub_cancel]

/-- The second byte of three is in the range that the first one allows, as the
character is not shorter and no surrogate. -/
theorem lead?_of_three (h : 0x800 ≤ v) (hv : v < 0x10000) (hsurrogate : v < 0xD800 ∨ 0xDFFF < v) :
    ∃ low high, lead? (v / 4096 + 0xE0) = some ⟨v / 4096, low, high, 2⟩ ∧
      low ≤ v / 64 % 64 + 0x80 ∧ v / 64 % 64 + 0x80 ≤ high := by
  unfold lead?
  rw [if_neg (by omega), if_neg (by omega)]
  by_cases hfirst : v / 4096 = 0
  · rw [if_pos (by omega), hfirst]
    exact ⟨_, _, rfl, by omega, by omega⟩
  · rw [if_neg (by omega)]
    by_cases hlast : v / 4096 = 0xD
    · rw [if_pos (by omega), hlast]
      exact ⟨_, _, rfl, by omega, by omega⟩
    · rw [if_neg (by omega), if_pos (by omega), Nat.add_sub_cancel]
      exact ⟨_, _, rfl, by omega, by omega⟩

/-- The second byte of four is in the range that the first one allows, as the
character is not shorter and within Unicode. -/
theorem lead?_of_four (h : 0x10000 ≤ v) (hv : v < 0x110000) :
    ∃ low high, lead? (v / 262144 + 0xF0) = some ⟨v / 262144, low, high, 3⟩ ∧
      low ≤ v / 4096 % 64 + 0x80 ∧ v / 4096 % 64 + 0x80 ≤ high := by
  unfold lead?
  rw [if_neg (by omega), if_neg (by omega), if_neg (by omega), if_neg (by omega),
    if_neg (by omega)]
  by_cases hfirst : v / 262144 = 0
  · rw [if_pos (by omega), hfirst]
    exact ⟨_, _, rfl, by omega, by omega⟩
  · rw [if_neg (by omega)]
    by_cases hlast : v / 262144 = 4
    · rw [if_neg (by omega), if_pos (by omega), hlast]
      exact ⟨_, _, rfl, by omega, by omega⟩
    · rw [if_pos (by omega), Nat.add_sub_cancel]
      exact ⟨_, _, rfl, by omega, by omega⟩

/-- **A character is read back** in front of any bytes. -/
theorem chars_utf8EncodeChar_append (c : Char) (bs : List UInt8) :
    chars (String.utf8EncodeChar c ++ bs) = some c :: chars bs := by
  have hvalid : c.toNat < 0xD800 ∨ 0xDFFF < c.toNat ∧ c.toNat < 0x110000 := c.valid
  have hc : Char.ofNat c.toNat = c := Char.ofNat_toNat c
  have hval : c.val.toNat = c.toNat := rfl
  unfold String.utf8EncodeChar
  simp only [hval]
  generalize c.toNat = v at hvalid hc
  subst hc
  split
  · rw [List.singleton_append, chars, toNat_ofNat_byte (by omega), if_pos (by omega)]
  split
  · rw [Nat.mod_eq_of_lt (by omega : v / 64 < 32), List.cons_append, List.singleton_append]
    refine chars_lead (lead?_of_two (by omega) (by omega)) (by omega) (by omega) ?_
    have hv : v / 64 * 64 + (v % 64 + 0x80 - 0x80) = v := by omega
    rw [continuation_cons (by omega) (by omega) (by omega), continuation, hv]
  split
  · obtain ⟨low, high, hlead, hlow, hhigh⟩ :=
      lead?_of_three (v := v) (by omega) (by omega) (by omega)
    rw [Nat.mod_eq_of_lt (by omega : v / 4096 < 16), List.cons_append, List.cons_append,
      List.singleton_append]
    refine chars_lead hlead (by omega) (by omega) ?_
    have hv : (v / 4096 * 64 + (v / 64 % 64 + 0x80 - 0x80)) * 64 + (v % 64 + 0x80 - 0x80) = v := by
      omega
    rw [continuation_cons hlow hhigh (by omega),
      continuation_cons (by omega) (by omega) (by omega), continuation, hv]
  · obtain ⟨low, high, hlead, hlow, hhigh⟩ := lead?_of_four (v := v) (by omega) (by omega)
    rw [Nat.mod_eq_of_lt (by omega : v / 262144 < 8), List.cons_append, List.cons_append,
      List.cons_append, List.singleton_append]
    refine chars_lead hlead (by omega) (by omega) ?_
    have hv : ((v / 262144 * 64 + (v / 4096 % 64 + 0x80 - 0x80)) * 64
        + (v / 64 % 64 + 0x80 - 0x80)) * 64 + (v % 64 + 0x80 - 0x80) = v := by
      omega
    rw [continuation_cons hlow hhigh (by omega),
      continuation_cons (by omega) (by omega) (by omega),
      continuation_cons (by omega) (by omega) (by omega), continuation, hv]

/-- A text is read back, character by character. -/
theorem chars_encode (s : String) : chars (encode s) = s.toList.map some := by
  unfold encode
  induction s.toList with
  | nil => rw [List.flatMap_nil, chars, List.map_nil]
  | cons c cs ih => rw [List.flatMap_cons, chars_utf8EncodeChar_append, ih, List.map_cons]

/-- **A text is read back** from its bytes. -/
theorem decode?_encode (s : String) : decode? (encode s) = some s := by
  have hall : ∀ cs : List Char, (cs.map some).mapM id = some cs := by
    intro cs
    induction cs with
    | nil => rfl
    | cons c cs ih => rw [List.map_cons, List.mapM_cons, ih]; rfl
  rw [decode?, chars_encode, hall, Option.map_some, String.ofList_toList]

end EchoProbe.Text.Utf8
