/-
Module: VolumeAttach.Settings.Yaml.Cursor
Purpose: A place in a YAML text, which knows its line and its column.
Main exports: Yaml.Cursor, Yaml.Cursor.overWhile, Yaml.Cursor.lineRest?
-/
import VolumeAttach.Text.Blank

namespace VolumeAttach.Yaml

open Text

/-!
In YAML the column of a thing says where it belongs.  A cursor therefore counts
lines and columns as it moves, and it knows whether anything but blanks stands
in front of it on its line.
-/

/-- The characters that end a line. -/
def isLineEnd (c : Char) : Bool := c == '\n' || c == '\r'

/-- The characters that structure lists and tables in brackets. -/
def isFlowMark (c : Char) : Bool :=
  c == ',' || c == '[' || c == ']' || c == '\x7b' || c == '\x7d'

/-- A gap, a line end or the end of the text. -/
def endsWord : Option Char → Bool
  | none => true
  | some c => isGap c || isLineEnd c

/-- A place in a text. -/
structure Cursor where
  /-- What follows. -/
  rest : List Char
  /-- How many characters stand in front. -/
  index : Nat := 0
  line : Nat := 0
  column : Nat := 0
  /-- Only blanks stand in front on this line. -/
  atMargin : Bool := true
deriving Repr, DecidableEq

namespace Cursor

/-- The next character. -/
def next? (c : Cursor) : Option Char := c.rest.head?

/-- The character after the next. -/
def second? (c : Cursor) : Option Char := c.rest.tail.head?

/-- Nothing follows. -/
def atEnd (c : Cursor) : Bool := c.rest.isEmpty

/-- A gap follows. -/
def atGap (c : Cursor) : Bool := c.next?.any isGap

/-- A line end follows. -/
def atLineEnd (c : Cursor) : Bool := c.next?.any isLineEnd

/-- A line end or the end of the text follows. -/
def atLineStop (c : Cursor) : Bool := c.next?.all isLineEnd

/-- Go over the next character, which is a blank. -/
def overBlank (c : Cursor) : Cursor :=
  { c with rest := c.rest.tail, index := c.index + 1, column := c.column + 1 }

/-- Go over the next character, which is no blank. -/
def advance (c : Cursor) : Cursor := { c.overBlank with atMargin := false }

/-- Go over the line end that follows. -/
def overLineEnd (c : Cursor) : Cursor :=
  match c.rest with
  | '\r' :: '\n' :: rest => ⟨rest, c.index + 2, c.line + 1, 0, true⟩
  | _ :: rest => ⟨rest, c.index + 1, c.line + 1, 0, true⟩
  | [] => c

/-- Go over a number of characters on this line. -/
def skip (c : Cursor) (count : Nat) : Cursor :=
  { c with
    rest := c.rest.drop count, index := c.index + count, column := c.column + count,
    atMargin := c.atMargin && count == 0 }

/-- The next characters with a property, and the cursor behind them. -/
def overWhile (c : Cursor) (holds : Char → Bool) : List Char × Cursor :=
  let taken := c.rest.takeWhile holds
  (taken, { c with
    rest := c.rest.dropWhile holds, index := c.index + taken.length,
    column := c.column + taken.length })

/-- Go to the end of the line. -/
def overLine (c : Cursor) : Cursor := (c.overWhile fun x => !isLineEnd x).2

/-- Go over gaps and a comment, up to what follows them on the line or to its end.
A comment needs a gap in front of it. -/
def lineRest? (c : Cursor) : Option Cursor :=
  let (gaps, behind) := c.overWhile isGap
  if behind.next? = some '#' then if gaps = [] then none else some behind.overLine
  else some behind

/-- The mark of three equal characters that stands at the beginning of a line and
nowhere in a word. -/
def atMark (c : Cursor) (x : Char) : Bool :=
  c.column == 0 && [x, x, x].isPrefixOf c.rest && endsWord (c.rest.drop 3).head?

/-- The beginning or the end of a document is marked here. -/
def atDocumentMark (c : Cursor) : Bool := c.atMark '-' || c.atMark '.'

end Cursor
end VolumeAttach.Yaml
