import EchoProbe.Text.Digit

/-!
# Ranges of code points

The tables of the Unicode standard are kept in the spelling in which the
standard prints them: lines of ranges such as `41-5A 61-7A AA`, and for
mappings the form of the first character of each range, `41-5A>61`.
-/

namespace EchoProbe.Text

/-- The number that some hexadecimal digits denote. -/
def hexNumber (cs : List Char) : Nat :=
  cs.foldl (fun n c => n * 16 + (hexValue? c).getD 0) 0

/-- The parts of a text between the places where a character stands. -/
def splitAt (c : Char) : List Char → List (List Char)
  | [] => [[]]
  | d :: ds =>
    if d = c then [] :: splitAt c ds
    else
      match splitAt c ds with
      | [] => [[d]]
      | part :: parts => (d :: part) :: parts

/-- The items of some lines. -/
def items (lines : List String) : List (List Char) :=
  lines.flatMap fun line => splitAt ' ' line.toList

/-- The bounds of a range such as `41-5A` or `AA`. -/
def rangeOf (cs : List Char) : Nat × Nat :=
  match splitAt '-' cs with
  | [first, last] => (hexNumber first, hexNumber last)
  | _ => (hexNumber cs, hexNumber cs)

/-- **A set of code points**, as a table of ranges. -/
structure Ranges where
  /-- The first and the last code point of each range. -/
  bounds : Array (Nat × Nat)

namespace Ranges

/-- The set that some lines of ranges list. -/
def ofLines (lines : List String) : Ranges := ⟨((items lines).map rangeOf).toArray⟩

/-- Whether a character is in the set. -/
def contains (t : Ranges) (c : Char) : Bool :=
  t.bounds.any fun (first, last) => first ≤ c.toNat && c.toNat ≤ last

end Ranges

/-- A run of code points that map to the code points of another run. -/
structure Mapping where
  /-- The first code point. -/
  first : Nat
  /-- The last code point. -/
  last : Nat
  /-- The distance between two code points of the run. -/
  step : Nat
  /-- What the first code point maps to. -/
  target : Nat

/-- The mapping that an item such as `100-12E/2>101` describes. -/
def Mapping.ofChars (cs : List Char) : Mapping :=
  match splitAt '>' cs with
  | [source, target] =>
    match splitAt '/' source with
    | [source, _] => ⟨(rangeOf source).1, (rangeOf source).2, 2, hexNumber target⟩
    | _ => ⟨(rangeOf source).1, (rangeOf source).2, 1, hexNumber target⟩
  | _ => ⟨0, 0, 1, 0⟩

/-- A table of mappings. -/
structure Mappings where
  /-- The runs. -/
  runs : Array Mapping

namespace Mappings

/-- The table that some lines list. -/
def ofLines (lines : List String) : Mappings := ⟨((items lines).map Mapping.ofChars).toArray⟩

/-- What a character maps to, if the table has it. -/
def get? (t : Mappings) (c : Char) : Option Char :=
  (t.runs.find? fun m =>
    m.first ≤ c.toNat && c.toNat ≤ m.last && (c.toNat - m.first) % m.step == 0).map
      fun m => Char.ofNat (m.target + (c.toNat - m.first))

end Mappings

/-- A table of characters that stand for several others. -/
structure Expansions where
  /-- Each code point with those that it stands for. -/
  entries : Array (Nat × List Char)

namespace Expansions

/-- The entry of an item such as `FB01>66-69`. -/
def entryOf (cs : List Char) : Nat × List Char :=
  match splitAt '>' cs with
  | [source, target] =>
    (hexNumber source, (splitAt '-' target).map fun ds => Char.ofNat (hexNumber ds))
  | _ => (0, [])

/-- The table that some lines list. -/
def ofLines (lines : List String) : Expansions := ⟨((items lines).map entryOf).toArray⟩

/-- What a character stands for, if the table has it. -/
def get? (t : Expansions) (c : Char) : Option (List Char) :=
  (t.entries.find? (·.1 == c.toNat)).map (·.2)

end Expansions

end EchoProbe.Text
