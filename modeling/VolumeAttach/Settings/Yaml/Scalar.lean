/-
Module: VolumeAttach.Settings.Yaml.Scalar
Purpose: The texts of YAML in their five styles: plain, in single or double
  quotes, and in blocks that keep or fold their lines.
Main exports: Yaml.plain?, Yaml.quoted?, Yaml.block?
-/
import VolumeAttach.Settings.Yaml.Cursor
import VolumeAttach.Text.Hex

namespace VolumeAttach.Yaml

open Text

/-!
A text may go on over several lines, as long as they are indented far enough.  A
single line end between two words then counts as a space, and of several the
first does not count.  Blocks of the literal style keep their line ends.
-/

/-- What stands between two words of a text. -/
inductive Between where
  /-- Gaps on one line. -/
  | gaps (cs : List Char)
  /-- Line ends, one or more of them. -/
  | lines (count : Nat)
  /-- An escaped line end and the line ends behind it. -/
  | joined (count : Nat)
deriving Repr, DecidableEq

namespace Between

/-- What counts of it. -/
def folded : Between → List Char
  | .gaps cs => cs
  | .lines 0 => []
  | .lines 1 => [' ']
  | .lines (count + 1) => List.replicate count '\n'
  | .joined count => List.replicate count '\n'

/-- One more gap; at the beginning of a line it does not count. -/
def withGap (b : Between) (c : Char) : Between :=
  match b with
  | .gaps cs => .gaps (cs ++ [c])
  | b => b

/-- One more line end; gaps in front of it do not count. -/
def withLineEnd : Between → Between
  | .gaps _ => .lines 1
  | .lines count => .lines (count + 1)
  | .joined count => .joined (count + 1)

/-- The line has ended. -/
def endsLine : Between → Bool
  | .gaps _ => false
  | _ => true

end Between

/-! ### Plain texts -/

/-- A character goes on a plain text. -/
def continuesPlain (inFlow : Bool) (c : Cursor) : Bool :=
  match c.next? with
  | none => false
  | some ':' => !(endsWord c.second? || (inFlow && c.second?.any isFlowMark))
  | some x => !(isGap x || isLineEnd x || (inFlow && isFlowMark x))

/-- The characters of a word of a plain text. -/
def plainWord (inFlow : Bool) : Nat → Cursor → List Char × Cursor
  | 0, c => ([], c)
  | fuel + 1, c =>
      match c.next? with
      | some x =>
          if continuesPlain inFlow c then
            let (word, behind) := plainWord inFlow fuel c.advance
            (x :: word, behind)
          else ([], c)
      | none => ([], c)

/-- What stands between the words of a plain text whose lines are indented by
`least`.  A tab must not stand in for that indentation. -/
def plainBetween? (least : Int) : Nat → Between → Cursor → Option (Between × Cursor)
  | 0, b, c => some (b, c)
  | fuel + 1, b, c =>
      match c.next? with
      | some x =>
          if isLineEnd x then plainBetween? least fuel b.withLineEnd c.overLineEnd
          else if isGap x then
            if b.endsLine && c.column < least && x == '\t' then
              (c.lineRest?).bind fun behind =>
                if behind.atLineStop then plainBetween? least fuel b behind else none
            else plainBetween? least fuel (b.withGap x) c.overBlank
          else some (b, c)
      | none => some (b, c)

/-- The words of a plain text, together with whether its last line has ended. -/
def plainWords? (inFlow : Bool) (least : Int) :
    Nat → Between → Cursor → Option (List Char × Bool × Cursor)
  | 0, b, c => some ([], b.endsLine, c)
  | fuel + 1, b, c =>
      if c.atDocumentMark || c.next? == some '#' then some ([], b.endsLine, c)
      else if inFlow && c.next? == some '-' && c.second?.any isFlowMark then none
      else
        let (word, behind) := plainWord inFlow (c.rest.length + 1) c
        let kept := if word.isEmpty then [] else b.folded ++ word
        let pending := if word.isEmpty then b else .gaps []
        if behind.atGap || behind.atLineEnd then
          (plainBetween? least (behind.rest.length + 1) pending behind).bind fun (b, start) =>
            if !inFlow && start.column < least then some (kept, b.endsLine, start)
            else (plainWords? inFlow least fuel b start).map fun (more, ended, last) =>
              (kept ++ more, ended, last)
        else some (kept, pending.endsLine, behind)

/-- A plain text whose lines are indented by `least`, together with whether its
last line has ended. -/
def plain? (inFlow : Bool) (least : Int) (c : Cursor) : Option (List Char × Bool × Cursor) :=
  if inFlow && c.column < least then none
  else match plainWords? inFlow least (c.rest.length + 1) (.gaps []) c with
    | some ([], _, _) => none
    | found => found

/-! ### Quoted texts -/

/-- The character of an escape that takes one letter. -/
def simpleEscape? : Char → Option Char
  | '0' => some '\x00'
  | 'a' => some '\x07'
  | 'b' => some '\x08'
  | 't' => some '\t'
  | '\t' => some '\t'
  | 'n' => some '\n'
  | 'v' => some '\x0b'
  | 'f' => some '\x0c'
  | 'r' => some '\r'
  | 'e' => some '\x1b'
  | ' ' => some ' '
  | '"' => some '"'
  | '/' => some '/'
  | '\\' => some '\\'
  | 'N' => some '\u0085'
  | '_' => some '\u00a0'
  | 'L' => some '\u2028'
  | 'P' => some '\u2029'
  | _ => none

/-- How many hexadecimal digits an escape takes. -/
def escapeWidth? : Char → Option Nat
  | 'x' => some 2
  | 'u' => some 4
  | 'U' => some 8
  | _ => none

/-- An escape, which begins with a backslash. -/
def escape? (c : Cursor) : Option (Char × Cursor) :=
  (c.second?).bind fun letter =>
    match simpleEscape? letter with
    | some x => some (x, c.skip 2)
    | none => (escapeWidth? letter).bind fun width =>
        (escaped? width (c.rest.drop 2)).map fun (x, _) => (x, c.skip (2 + width))

/-- The characters of a word of a quoted text, and whether an escaped line end
stopped it. -/
def quotedWord? (quote : Char) : Nat → Cursor → Option (List Char × Bool × Cursor)
  | 0, _ => none
  | fuel + 1, c =>
      let keep (x : Char) (behind : Cursor) : Option (List Char × Bool × Cursor) :=
        (quotedWord? quote fuel behind).map fun (cs, joined, last) => (x :: cs, joined, last)
      match c.next? with
      | none => some ([], false, c)
      | some x =>
          if isGap x || isLineEnd x then some ([], false, c)
          else if x = quote then
            if quote = '\'' ∧ c.second? = some '\'' then keep '\'' (c.skip 2)
            else some ([], false, c)
          else if x = '\\' ∧ quote = '"' then
            if c.second?.any isLineEnd then some ([], true, c.advance.overLineEnd)
            else (escape? c).bind fun (y, behind) => keep y behind
          else keep x c.advance

/-- What stands between the words of a quoted text whose lines are indented by
`least`. -/
def quotedBetween? (least : Int) : Nat → Between → Cursor → Option (Between × Cursor)
  | 0, b, c => some (b, c)
  | fuel + 1, b, c =>
      match c.next? with
      | some x =>
          if isLineEnd x then quotedBetween? least fuel b.withLineEnd c.overLineEnd
          else if isGap x then
            if b.endsLine && x == '\t' && c.column < least then none
            else quotedBetween? least fuel (b.withGap x) c.overBlank
          else some (b, c)
      | none => some (b, c)

/-- The words of a quoted text, up to the quote that closes it. -/
def quotedWords? (quote : Char) (least : Int) : Nat → Cursor → Option (List Char × Cursor)
  | 0, _ => none
  | fuel + 1, c =>
      if c.atDocumentMark || c.atEnd || c.column < least then none
      else (quotedWord? quote (c.rest.length + 1) c).bind fun (word, joined, behind) =>
        if behind.next? = some quote then some (word, behind)
        else
          let b : Between := if joined then .joined 0 else .gaps []
          (quotedBetween? least (behind.rest.length + 1) b behind).bind fun (b, start) =>
            (quotedWords? quote least fuel start).map fun (more, last) =>
              (word ++ b.folded ++ more, last)

/-- A quoted text whose lines are indented by `least`.  Only what ends the line,
closes or parts a list, or makes the text a key may follow it. -/
def quoted? (inFlow : Bool) (least : Int) (quote : Char) (c : Cursor) :
    Option (List Char × Cursor) :=
  (quotedWords? quote least (c.rest.length + 2) c.advance).bind fun (text, closing) =>
    (closing.advance.lineRest?).bind fun behind =>
      let mayFollow := match behind.next? with
        | none => true
        | some ':' => inFlow || c.line == behind.line
        | some x => isLineEnd x || (inFlow && (x == ',' || x == ']' || x == '\x7d'))
      if mayFollow then some (text, behind) else none

/-! ### Blocks -/

/-- What becomes of the line ends at the end of a block. -/
inductive Chomping where
  | strip
  | clip
  | keep
deriving Repr, DecidableEq

/-- The chomping that a character asks for. -/
def chomping? : Option Char → Option Chomping
  | some '+' => some .keep
  | some '-' => some .strip
  | _ => none

/-- The indentation that a digit asks for. -/
def indentation? : Option Char → Option Nat
  | some x => if x.isDigit then some (x.toNat - '0'.toNat) else none
  | none => none

/-- The header of a block behind its first character: chomping and indentation, in
either order. -/
def blockHeader (c : Cursor) : Chomping × Option Nat × Cursor :=
  match chomping? c.next? with
  | some chomping => match indentation? c.second? with
      | some n => (chomping, some n, c.skip 2)
      | none => (chomping, none, c.skip 1)
  | none => match indentation? c.next? with
      | some n => match chomping? c.second? with
          | some chomping => (chomping, some n, c.skip 2)
          | none => (.clip, some n, c.skip 1)
      | none => (.clip, none, c)

/-- Go over spaces up to a column, if one is given. -/
def overSpaces (limit : Option Nat) (c : Cursor) : Cursor :=
  let spaces := (c.rest.takeWhile (· == ' ')).length
  let count := match limit with
    | some column => min spaces (column - c.column)
    | none => spaces
  { c with rest := c.rest.drop count, index := c.index + count, column := c.column + count }

/-- Go over empty lines and the spaces in front of the next line: how many lines
were empty, the highest column that was reached, and the cursor. -/
def overEmptyLines (limit : Option Nat) : Nat → Cursor → Nat × Nat × Cursor
  | 0, c => (0, c.column, c)
  | fuel + 1, c =>
      let start := overSpaces limit c
      if start.atLineEnd then
        let (count, highest, last) := overEmptyLines limit fuel start.overLineEnd
        (count + 1, max start.column highest, last)
      else (0, start.column, start)

/-- The lines of a block as far as they have been read. -/
structure BlockLines where
  text : List Char := []
  /-- The last line has ended. -/
  ended : Bool := false
  /-- How many empty lines follow. -/
  empty : Nat := 0
  /-- The last line began with a gap. -/
  startedWithGap : Bool := false

/-- The line ends behind the lines of a block. -/
def BlockLines.lineEnds (b : BlockLines) : List Char :=
  List.replicate ((if b.ended then 1 else 0) + b.empty) '\n'

/-- The lines of a block that are indented by `column`. -/
def blockLines (folds : Bool) (column : Nat) : Nat → BlockLines → Cursor → BlockLines × Cursor
  | 0, b, c => (b, c)
  | fuel + 1, b, c =>
      if c.column ≠ column ∨ c.atEnd then (b, c)
      else
        let between :=
          if folds && b.ended && !b.startedWithGap && !c.atGap then
            (Between.lines (b.empty + 1)).folded
          else b.lineEnds
        let (line, behind) := c.overWhile fun x => !isLineEnd x
        let read : BlockLines := { text := b.text ++ between ++ line, startedWithGap := c.atGap }
        if behind.atEnd then (read, behind)
        else
          let next := behind.overLineEnd
          let (empty, _, start) := overEmptyLines (some column) (next.rest.length + 1) next
          blockLines folds column fuel { read with ended := true, empty := empty } start

/-- A block behind its header in a structure that is indented by `outer`. -/
def blockBody? (folds : Bool) (outer : Int) (chomping : Chomping) (given : Option Nat)
    (c : Cursor) : Option (List Char × Cursor) :=
  let first := if c.atLineEnd then c.overLineEnd else c
  if first.next? = some '\t' then none
  else
    let wanted := given.map fun n => if 0 ≤ outer then outer.toNat + n else n
    let (empty, highest, start) := overEmptyLines wanted (first.rest.length + 1) first
    let least := (outer + 1).toNat
    let column := wanted.getD (max highest least)
    if start.atEnd then
      let oneLine := if c.atLineEnd then ['\n'] else []
      match chomping with
      | .strip => some ([], start)
      | .clip => some (if start.line = c.line then [] else oneLine, start)
      | .keep =>
          if start.line = c.line then some ([], start)
          else some (if empty = 0 then oneLine else List.replicate empty '\n', start)
    else if start.column < column && outer < start.column then none
    else
      let (read, last) :=
        blockLines folds column (start.rest.length + 1) { empty := empty } start
      let ending := match chomping with
        | .strip => []
        | _ =>
            (if read.ended then ['\n'] else []) ++
              if last.atEnd && max column 1 ≤ last.column then ['\n'] else []
      let kept := match chomping with
        | .keep => List.replicate read.empty '\n'
        | _ => []
      some (read.text ++ ending ++ kept, last)

/-- A block in a structure that is indented by `outer`. -/
def block? (folds : Bool) (outer : Int) (c : Cursor) : Option (List Char × Cursor) :=
  let (chomping, given, behind) := blockHeader c.advance
  if given = some 0 then none
  else (behind.lineRest?).bind fun start =>
    if start.atLineStop then blockBody? folds outer chomping given start else none

end VolumeAttach.Yaml
