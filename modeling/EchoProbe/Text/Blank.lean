/-!
# White space

The characters with the property White_Space, and texts without them at
their ends.
-/

namespace EchoProbe.Text

/-- Whether a character is white space. -/
def isWhiteSpace (c : Char) : Bool :=
  let n := c.toNat
  (9 ≤ n && n ≤ 13) || n == 0x20 || n == 0x85 || n == 0xA0 || n == 0x1680 ||
    (0x2000 ≤ n && n ≤ 0x200A) || n == 0x2028 || n == 0x2029 || n == 0x202F || n == 0x205F ||
    n == 0x3000

/-- The text without white space at its front. -/
def trimFront (cs : List Char) : List Char := cs.dropWhile isWhiteSpace

/-- The text without white space at its end. -/
def trimBack (cs : List Char) : List Char := (cs.reverse.dropWhile isWhiteSpace).reverse

/-- The text without white space at its ends. -/
def trim (cs : List Char) : List Char := trimBack (trimFront cs)

/-- Whether a text is all white space. -/
def isBlank (s : String) : Bool := s.toList.all isWhiteSpace

end EchoProbe.Text
