import EchoProbe.Net.Domain.Transparent

/-!
# Joiners

Two invisible characters make the letters around them join or not join. In a
domain name they stand only where that shows: behind a character that kills
a vowel, or, for the one that separates, between letters that would join.

The tables leave out what no domain name holds.
-/

namespace EchoProbe.Net

open EchoProbe.Text

/-- The characters that kill the vowel in front of them. -/
def vowelKillerTable : Ranges := Ranges.ofLines
  ["94D 9CD A4D ACD B4D BCD C4D CCD D3B-D3C D4D DCA E3A EBA F84 1039-103A 1714-1715 1734",
    "17D2 1A60 1B44 1BAA-1BAB 1BF2-1BF3 2D7F A806 A82C A8C4 A953 A9C0 AAF6 ABED 10A3F 11046",
    "11070 1107F 110B9 11133-11134 111C0 11235 112EA 1134D 11442 114C2 115BF 1163F 116B6",
    "1172B 11839 1193D-1193E 119E0 11A34 11A47 11A99 11C3F 11D44-11D45 11D97"]

/-- The letters that join on both sides. -/
def dualJoiningTable : Ranges := Ranges.ofLines
  ["620 626 628 62A-62E 633-63F 641-647 649-64A 66E-66F 679-687 69A-6BF 6C1-6C2 6CC 6CE",
    "6D0-6D1 6FA-6FC 6FF 712-714 71A-71D 71F-727 729 72B 72D-72E 74E-758 75C-76A 76D-770",
    "772 775-777 77A-77F 7CA-7EA 841-845 848 84A-853 855 860 862-865 868 886 889-88D 88F",
    "8A0-8A9 8AF-8B0 8B3-8B8 8BA-8C8 1807 1820-1878 1887-18A8 18AA A840-A871 10AC0-10AC4",
    "10AD3-10AD6 10AD8-10ADC 10ADE-10AE0 10AEB-10AEE 10B80 10B82 10B86-10B88 10B8A-10B8B",
    "10B8D 10B90 10BAD-10BAE 10D01-10D21 10D23 10EC3-10EC4 10EC6-10EC7 10F30-10F32",
    "10F34-10F44 10F51-10F53 10F70-10F73 10F76-10F81 10FB0 10FB2-10FB3 10FB8 10FBB-10FBC",
    "10FBE-10FBF 10FC1 10FC4 10FCA 1E922-1E943"]

/-- The letters that join with the one in front of them only. -/
def rightJoiningTable : Ranges := Ranges.ofLines
  ["622-625 627 629 62F-632 648 671-673 688-699 6C0 6C3-6CB 6CD 6CF 6D2-6D3 6D5 6EE-6EF",
    "710 715-719 71E 728 72A 72C 72F 74D 759-75B 76B-76C 771 773-774 778-779 840 846-847",
    "849 854 856-858 867 869-882 88E 8AA-8AC 8AE 8B1-8B2 8B9 10AC5 10AC7 10AC9-10ACA",
    "10ACE-10AD2 10ADD 10AE1 10AE4 10AEF 10B81 10B83-10B85 10B89 10B8C 10B8E-10B8F 10B91",
    "10BA9-10BAC 10D22 10EC2 10F33 10F54 10F74-10F75 10FB4-10FB6 10FB9-10FBA 10FBD",
    "10FC2-10FC3 10FC9"]

/-- The letters that join with the one behind them only. -/
def leftJoiningTable : Ranges := Ranges.ofLines
  ["A872 10ACD 10AD7 10D00 10FCB"]

/-- The character that keeps letters from joining. -/
def nonJoiner : Char := Char.ofNat 0x200C

/-- The character that makes letters join. -/
def joiner : Char := Char.ofNat 0x200D

/-- The nearest letter, marks aside. -/
def nearest? (cs : List Char) : Option Char := (cs.dropWhile transparentTable.contains).head?

/-- Whether a letter joins with the one behind it. -/
def joinsBehind (c : Char) : Bool := leftJoiningTable.contains c || dualJoiningTable.contains c

/-- Whether a letter joins with the one in front of it. -/
def joinsBefore (c : Char) : Bool := rightJoiningTable.contains c || dualJoiningTable.contains c

/-- Whether a character may stand behind and before others, the nearest
first. -/
def standsBetween (before : List Char) (c : Char) (after : List Char) : Bool :=
  if c = joiner then before.head?.any vowelKillerTable.contains
  else if c = nonJoiner then
    before.head?.any vowelKillerTable.contains ||
      ((nearest? before).any joinsBehind && (nearest? after).any joinsBefore)
  else true

/-- Whether all characters may stand where they stand, behind others. -/
def standBehind (before : List Char) : List Char → Bool
  | [] => true
  | c :: cs => standsBetween before c cs && standBehind (c :: before) cs

/-- **Whether all joiners of a label stand where they may.** -/
def joinsProperly (label : List Char) : Bool := standBehind [] label

end EchoProbe.Net
