import EchoProbe.Net.Domain.Transparent

/-!
# The direction of labels

Scripts are written to the right or to the left. A name in which a character
is written to the left is readable only if each of its labels keeps to one
direction: a label begins with a letter, goes on in the direction of that
letter, and ends, marks aside, in a letter of that direction or in a number.
A label to the left does not mix both kinds of numbers.

The tables leave out what no domain name holds.
-/

namespace EchoProbe.Net

open EchoProbe.Text

/-- The letters that are written to the left. -/
def leftwardTable : Ranges := Ranges.ofLines
  ["5BE 5C0 5C3 5C6 5D0-5F4 608 60B 60D 61B-64A 66D-66F 671-6D5 6E5-6E6 6EE-6EF 6FA-710",
    "712-72F 74D-7A5 7B1-7EA 7F4-7F5 7FA 7FE-815 81A 824 828 830-858 85E-88F 8A0-8C9",
    "FBB2-FBC2 FE73 10800-1091B 10920-10A00 10A10-10A35 10A40-10AE4 10AEB-10B35 10B40-10D23",
    "10D40-10D4F 10D6E-10D8F 10E80-10EA9 10EAD-10ED8 10F00-10F45 10F51-10F81 10F86-10FF6",
    "1E800-1E8CF 1E922-1E943 1E94B-1E95F 1EC71-1ED3D"]

/-- The digits that are written to the left with their text. -/
def arabicNumberTable : Ranges := Ranges.ofLines
  ["660-669 66B-66C 10D30-10D39 10E60-10E7E"]

/-- The digits that are written to the right in every text. -/
def europeanNumberTable : Ranges := Ranges.ofLines
  ["30-39 6F0-6F9 102E1-102FB"]

/-- The characters that have no direction of their own. -/
def neutralTable : Ranges := Ranges.ofLines
  ["0-8 E-1B 21-2F 3A-60 7B-D7 F7 2B9-2BA 2C2-2CF 2D2-2ED 2EF-2FF 375 3F6 58A-58F 606-607",
    "609-60A 60C 60E-60F 66A 6DE 6E9 7F6-7F9 9F2-9F3 9FB AF1 BF3-BFA C78-C7E E3F F3A-F3D",
    "1390-1399 1400 169B-169C 17DB 17F0-180A 1940-1945 19DE-19FF 200C-20C0 2104-214D",
    "218A-2335 237B-2394 2396-2426 2440-26AB 26AD-27FF 2900-2B95 2B97-2BFF 2CE5-2CEA",
    "2CF9-2CFF 2E00-3004 3008-3020 3030 3037 303D-303F 30A0 30FB 31C0-31E3 4DC0-4DFF",
    "A490-A4C6 A60D-A60F A673 A67E-A67F A700-A721 A788 A828-A82B A838-A839 A874-A877",
    "AB6A-AB6B FD3E-FD4F FDCF-FDFF FE45-FE46 10101 10140-1018C 10190-101A0 1091F",
    "10B39-10B3F 11052-11065 11660-1166C 11FD5-11FF1 16FE2 1D1E9-1D241 1D245 1D300-1D356",
    "1E2FF 1EEF0-1F12F 1F16D-1F16F 1F1AD 1F260-1F6D7 1F6DD-1F773 1F780-1F7D8 1F7E0-1F8B1",
    "1F900-1FA53 1FA60-1FA74 1FA78-1FA86 1FA90-1FAAC 1FAB0-1FABA 1FAC0-1FAC5 1FAD0-1FAD9",
    "1FAE0-1FAE7 1FAF0-1FAF6 1FB00-1FBCA"]

/-- **The direction of a character.** -/
inductive Direction where
  /-- A letter that is written to the right. -/
  | rightward
  /-- A letter that is written to the left. -/
  | leftward
  /-- A digit that goes with text to the left. -/
  | arabicNumber
  /-- A digit that goes with any text. -/
  | europeanNumber
  /-- No direction of its own. -/
  | neutral
  /-- A mark on the character in front of it. -/
  | mark
deriving DecidableEq, Repr

namespace Direction

/-- The direction of a character. -/
def of (c : Char) : Direction :=
  if leftwardTable.contains c then .leftward
  else if arabicNumberTable.contains c then .arabicNumber
  else if europeanNumberTable.contains c then .europeanNumber
  else if transparentTable.contains c then .mark
  else if neutralTable.contains c then .neutral
  else .rightward

/-- Whether a character makes the direction of a name matter. -/
def matters : Direction → Bool
  | .leftward => true
  | .arabicNumber => true
  | _ => false

/-- Whether a label to the right may end so. -/
def endsRightward : Direction → Bool
  | .rightward => true
  | .europeanNumber => true
  | _ => false

/-- Whether a label to the left may end so. -/
def endsLeftward : Direction → Bool
  | .leftward => true
  | .arabicNumber => true
  | .europeanNumber => true
  | _ => false

/-- The directions without the marks at the end. -/
def trimMarks (ds : List Direction) : List Direction :=
  (ds.reverse.dropWhile (· == .mark)).reverse

/-- **Whether directions can follow one another in a label.** -/
def isConsistent (label : List Direction) : Bool :=
  match label with
  | [] => true
  | .rightward :: rest =>
    let rest := trimMarks rest
    rest.all (!·.matters) && rest.getLast?.all endsRightward
  | .leftward :: rest =>
    let rest := trimMarks rest
    rest.all (· != .rightward) && rest.getLast?.all endsLeftward &&
      !(rest.contains .arabicNumber && rest.contains .europeanNumber)
  | _ => false

end Direction

/-- **Whether all labels of a name keep to one direction each**, if that
matters. -/
def keepsDirection (labels : List (List Char)) : Bool :=
  let directions := labels.map fun label => label.map Direction.of
  !directions.any (·.any Direction.matters) || directions.all Direction.isConsistent

end EchoProbe.Net
