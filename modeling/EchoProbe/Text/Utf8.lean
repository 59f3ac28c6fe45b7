/-!
# UTF-8

Bytes are read as a sequence of characters and flaws. A flaw is a byte that
can begin no character, or the longest beginning of a character that is not
continued. `Utf8.decode?` refuses bytes with a flaw, `Utf8.decodeLossy`
writes the replacement character for each.
-/

namespace EchoProbe.Text.Utf8

/-- What the first byte of a character of several bytes says: its bits of
the character, the range of the second byte, and how many bytes follow. -/
structure Lead where
  /-- The bits that the first byte contributes. -/
  bits : Nat
  /-- The least second byte. -/
  low : Nat
  /-- The greatest second byte. -/
  high : Nat
  /-- The number of bytes that follow. -/
  more : Nat

/-- The first bytes of characters of several bytes. The range of the second
byte keeps out overlong forms, surrogates and what lies beyond Unicode. -/
def lead? (b : Nat) : Option Lead :=
  if b < 0xC2 then none
  else if b < 0xE0 then some ⟨b - 0xC0, 0x80, 0xBF, 1⟩
  else if b = 0xE0 then some ⟨0, 0xA0, 0xBF, 2⟩
  else if b = 0xED then some ⟨0xD, 0x80, 0x9F, 2⟩
  else if b < 0xF0 then some ⟨b - 0xE0, 0x80, 0xBF, 2⟩
  else if b = 0xF0 then some ⟨0, 0x90, 0xBF, 3⟩
  else if b < 0xF4 then some ⟨b - 0xF0, 0x80, 0xBF, 3⟩
  else if b = 0xF4 then some ⟨4, 0x80, 0x8F, 3⟩
  else none

/-- Read the bytes that continue a character, the first of them within a
range. Without a result, the bytes that fit are passed over all the same. -/
def continuation (bits low high : Nat) : Nat → List UInt8 → Option Nat × List UInt8
  | 0, bs => (some bits, bs)
  | _ + 1, [] => (none, [])
  | n + 1, b :: bs =>
    if low ≤ b.toNat ∧ b.toNat ≤ high then
      continuation (bits * 64 + (b.toNat - 0x80)) 0x80 0xBF n bs
    else (none, b :: bs)

/-- What is left is never longer. -/
theorem length_continuation_le (bits low high n : Nat) (bs : List UInt8) :
    (continuation bits low high n bs).2.length ≤ bs.length := by
  induction n generalizing bits low high bs with
  | zero => simp [continuation]
  | succ n ih =>
    cases bs with
    | nil => simp [continuation]
    | cons b bs =>
      unfold continuation
      split
      · have := ih (bits * 64 + (b.toNat - 0x80)) 0x80 0xBF bs
        simp only [List.length_cons]
        omega
      · simp

/-- **The characters of some bytes**, with `none` in the place of each flaw. -/
def chars (bytes : List UInt8) : List (Option Char) :=
  match bytes with
  | [] => []
  | b :: bs =>
    if b.toNat < 0x80 then some (Char.ofNat b.toNat) :: chars bs
    else
      match lead? b.toNat with
      | none => none :: chars bs
      | some l =>
        let next := continuation l.bits l.low l.high l.more bs
        next.1.map Char.ofNat :: chars next.2
termination_by bytes.length
decreasing_by
  · simp
  · simp
  · have := length_continuation_le l.bits l.low l.high l.more bs
    simp only [List.length_cons]
    omega

/-- The text of some bytes, if they have no flaw. -/
def decode? (bytes : List UInt8) : Option String :=
  ((chars bytes).mapM id).map String.ofList

/-- The text of some bytes, with U+FFFD in the place of each flaw. -/
def decodeLossy (bytes : List UInt8) : String :=
  String.ofList ((chars bytes).map (·.getD (Char.ofNat 0xFFFD)))

/-- The bytes of a text. -/
def encode (s : String) : List UInt8 := s.toList.flatMap String.utf8EncodeChar

end EchoProbe.Text.Utf8
