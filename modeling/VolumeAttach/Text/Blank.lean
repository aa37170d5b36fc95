/-
Module: VolumeAttach.Text.Blank
Purpose: The characters that count as white space, and trimming.
Main exports: isBlank, isGap, skipGaps, trimBlank, trim
-/

namespace VolumeAttach.Text

/-!
White space here is the Unicode property `White_Space`, twenty-five characters
in all.  It is wider than the ASCII class that the core library tests, and it
leaves out characters such as the zero width space, which has no width but is
no white space either.
-/

/-- Membership in the Unicode property `White_Space`. -/
def isBlank (c : Char) : Bool :=
  let n := c.toNat
  (9 ≤ n && n ≤ 13) || n == 0x20 || n == 0x85 || n == 0xA0 || n == 0x1680 ||
  (0x2000 ≤ n && n ≤ 0x200A) || n == 0x2028 || n == 0x2029 || n == 0x202F ||
  n == 0x205F || n == 0x3000

/-- A blank inside a line: a space or a tab. -/
def isGap (c : Char) : Bool := c == ' ' || c == '\t'

/-- Leave out leading gaps. -/
def skipGaps (cs : List Char) : List Char := cs.dropWhile isGap

/-- Leave out the blanks at the end of a character list. -/
def trimEnd (cs : List Char) : List Char :=
  (cs.reverse.dropWhile isBlank).reverse

/-- Leave out the blanks at both ends of a character list. -/
def trimBlank (cs : List Char) : List Char :=
  trimEnd (cs.dropWhile isBlank)

/-- Leave out the blanks at both ends of a text. -/
def trim (s : String) : String :=
  String.ofList (trimBlank s.toList)

end VolumeAttach.Text
