/-
Module: VolumeAttach.Settings.Yaml.Token
Purpose: The tokens of a YAML text.
Main exports: Yaml.Token, Yaml.Token.ofText
-/
import VolumeAttach.Settings.Yaml.Name
import VolumeAttach.Settings.Yaml.Scalar

namespace VolumeAttach.Yaml

open Text

/-!
The tokens name what a YAML text leaves unsaid: where lists and tables that are
made by indentation begin and end, and which of the texts are keys.  That a text
is a key is known only from the colon behind it.  A token that may begin such a
key is therefore held back, with all tokens behind it, until the colon comes or
can no longer come.

A text that cannot be cut into tokens to its end gives the tokens that it gave
before it failed, and a last one that says so.
-/

/-- A token. -/
inductive Token where
  | directive (d : Directive)
  | documentStart
  | documentEnd
  /-- A list that is made by indentation begins. -/
  | blockSequence
  /-- A table that is made by indentation begins. -/
  | blockMapping
  | blockEnd
  | flowSequence
  | flowSequenceEnd
  | flowMapping
  | flowMappingEnd
  /-- A part of a list follows. -/
  | item
  | comma
  /-- A key follows. -/
  | key
  /-- The value of a key follows. -/
  | value
  | anchor (name : String)
  | repetition (name : String)
  | tag (handle suffix : String)
  | scalar (isPlain : Bool) (text : String)
  /-- The text ends. -/
  | streamEnd
  /-- What follows cannot be cut into tokens. -/
  | broken
deriving Repr, DecidableEq

/-- A level of indentation, with the column of the level around it. -/
structure Level where
  outer : Int
  /-- The level belongs to a list or table.  Otherwise it only says that a value has
  to stand further in than its key. -/
  isBlock : Bool
deriving Repr, DecidableEq

/-- A token that may turn out to begin a key. -/
structure KeyCandidate where
  possible : Bool := false
  /-- The text has no meaning unless the candidate is a key. -/
  required : Bool := false
  /-- How many tokens come before it. -/
  number : Nat := 0
  index : Nat := 0
  line : Nat := 0
  column : Nat := 0
deriving Repr, DecidableEq

/-- A text that is being cut into tokens. -/
structure Lexing where
  cursor : Cursor
  /-- The tokens that are held back, with the columns where they begin. -/
  queue : List (Token × Nat) := []
  /-- How many tokens have been handed out. -/
  taken : Nat := 0
  /-- A key may begin here. -/
  keyAllowed : Bool := true
  /-- One candidate for the text outside of brackets and one for each open bracket,
  the innermost first. -/
  candidates : List KeyCandidate := [{}]
  indent : Int := -1
  levels : List Level := []
  /-- How many brackets are open. -/
  flowLevel : Nat := 0
  /-- A table in braces has begun, or a key in brackets that is marked as one. -/
  inFlowMapping : Bool := false
  /-- For each open list in brackets how many brackets were open when a single pair
  began in it, if one has. -/
  pairs : List (Option Nat) := []
  /-- Where a colon needs no blank behind it, because what comes before is quoted or
  in brackets. -/
  joinedAt : Option Nat := none

namespace Lexing

/-- How far a key may lie behind its colon. -/
def keyLength : Nat := 1024

/-- How many brackets may be open at once. -/
def deepestFlow : Nat := 255

/-- The text is inside of brackets. -/
def inFlow (s : Lexing) : Bool := 0 < s.flowLevel

/-- Hold back one more token. -/
def push (s : Lexing) (t : Token) (column : Nat) : Lexing :=
  { s with queue := s.queue ++ [(t, column)] }

/-- Hold back a token in front of the one with a given number. -/
def insert (s : Lexing) (number : Nat) (t : Token) (column : Nat) : Lexing :=
  let i := number - s.taken
  { s with queue := s.queue.take i ++ (t, column) :: s.queue.drop i }

/-! ### Levels -/

/-- Close the levels that lie further in than a column, down to the first that does
not: what is left, and how many lists and tables were closed. -/
def closed (column : Int) : Int → List Level → Int × List Level × Nat
  | indent, [] => (indent, [], 0)
  | indent, level :: rest =>
      if column < indent then
        let (last, left, count) := closed column level.outer rest
        (last, left, if level.isBlock then count + 1 else count)
      else (indent, level :: rest, 0)

/-- Close the lists and tables that lie further in than a column. -/
def closeBlocks (s : Lexing) (column : Int) : Lexing :=
  if s.inFlow then s
  else
    let (indent, levels, count) := closed column s.indent s.levels
    { s with
      indent := indent, levels := levels,
      queue := s.queue ++ List.replicate count (.blockEnd, s.cursor.column) }

/-- Open a list or table at a column, unless one is open there.  Its token comes in
front of the one with the given number, or last. -/
def openBlock (s : Lexing) (column : Nat) (number : Option Nat) (t : Token) : Lexing :=
  if s.inFlow then s
  else
    let s := match s.levels with
      | ⟨outer, false⟩ :: rest =>
          if s.indent ≤ column then { s with indent := outer, levels := rest } else s
      | _ => s
    if s.indent < Int.ofNat column then
      let made := { s with levels := ⟨s.indent, true⟩ :: s.levels, indent := Int.ofNat column }
      match number with
      | some n => made.insert n t column
      | none => made.push t column
    else s

/-- What follows has to stand further in than the list or table that it belongs to. -/
def leanIn (s : Lexing) : Lexing :=
  if !s.inFlow && s.levels.head?.any Level.isBlock then
    { s with levels := ⟨s.indent, false⟩ :: s.levels, indent := s.indent + 1 }
  else s

/-- The innermost list or table. -/
def innermostBlock : Int → List Level → Int × List Level
  | _, ⟨outer, false⟩ :: rest => innermostBlock outer rest
  | indent, levels => (indent, levels)

/-- What follows has to stand further in than the innermost list or table only. -/
def leanOut (s : Lexing) : Lexing :=
  let (indent, levels) := innermostBlock s.indent s.levels
  { s with indent := indent, levels := levels }

/-! ### Candidates for keys -/

/-- What follows may be a key. -/
def saveCandidate (s : Lexing) : Lexing :=
  if s.keyAllowed then
    let candidate : KeyCandidate := {
      possible := true
      required := !s.inFlow && s.indent == s.cursor.column && s.levels.head?.any Level.isBlock
      number := s.taken + s.queue.length
      index := s.cursor.index
      line := s.cursor.line
      column := s.cursor.column }
    { s with candidates := candidate :: s.candidates.tail }
  else s

/-- The candidate is no key. -/
def KeyCandidate.drop? (k : KeyCandidate) : Option KeyCandidate :=
  if k.possible && k.required then none else some { k with possible := false }

/-- The innermost candidate is no key. -/
def dropCandidate? (s : Lexing) : Option Lexing :=
  match s.candidates with
  | k :: rest => (KeyCandidate.drop? k).map fun k => { s with candidates := k :: rest }
  | [] => some s

/-- A key outside of brackets lies on one line with its colon, and not far from it. -/
def dropStale? (s : Lexing) : Option Lexing :=
  if s.inFlow then some s
  else
    let isStale (k : KeyCandidate) : Bool :=
      k.line < s.cursor.line || k.index + keyLength < s.cursor.index
    (s.candidates.mapM fun k => if isStale k then KeyCandidate.drop? k else some k).map
      fun left => { s with candidates := left }

/-- The first token held back may yet be a key. -/
def isHeldBack (s : Lexing) : Bool :=
  s.candidates.any fun k => k.possible && k.number == s.taken

/-! ### Blanks -/

/-- Go to the next token.  A tab must not stand in for indentation. -/
def toNext? : Nat → Lexing → Option Lexing
  | 0, s => some s
  | fuel + 1, s =>
      let c := s.cursor
      match c.next? with
      | some x =>
          if x == '\t' && !s.levels.isEmpty && c.atMargin && c.column < s.indent then
            (c.lineRest?).bind fun behind =>
              if behind.atLineStop then toNext? fuel { s with cursor := behind } else none
          else if isGap x then toNext? fuel { s with cursor := c.overBlank }
          else if isLineEnd x then
            toNext? fuel
              { s with cursor := c.overLineEnd, keyAllowed := s.keyAllowed || !s.inFlow }
          else if x = '#' then toNext? fuel { s with cursor := c.overLine }
          else some s
      | none => some s

/-- The blanks behind a question mark: whether there were any, and what follows. -/
def overSpace : Nat → Bool → Lexing → Bool × Lexing
  | 0, found, s => (found, s)
  | fuel + 1, found, s =>
      match s.cursor.next? with
      | some x =>
          if x = ' ' then overSpace fuel true { s with cursor := s.cursor.overBlank }
          else if isLineEnd x then
            overSpace fuel true
              { s with
                cursor := s.cursor.overLineEnd, keyAllowed := s.keyAllowed || !s.inFlow }
          else if x = '#' then overSpace fuel found { s with cursor := s.cursor.overLine }
          else (found, s)
      | none => (found, s)

/-! ### Tokens -/

/-- The end of the text. -/
def finish? (s : Lexing) : Option Lexing :=
  (s.candidates.mapM KeyCandidate.drop?).map fun left =>
    { ({ s with candidates := left }.closeBlocks (-1)).push .streamEnd s.cursor.column with
      keyAllowed := false }

/-- A directive. -/
def directive? (s : Lexing) : Option Lexing :=
  ((s.closeBlocks (-1)).dropCandidate?).bind fun s =>
    (Yaml.directive? s.cursor).map fun (d, behind) =>
      { s.push (.directive d) 0 with cursor := behind, keyAllowed := false }

/-- The mark of the beginning or the end of a document. -/
def documentMark? (s : Lexing) (t : Token) : Option Lexing :=
  ((s.closeBlocks (-1)).dropCandidate?).map fun s =>
    { s.push t 0 with cursor := s.cursor.skip 3, keyAllowed := false }

/-- The mark of the end of a document, behind which the line has to end. -/
def documentEnd? (s : Lexing) : Option Lexing :=
  (s.documentMark? .documentEnd).bind fun s =>
    (s.cursor.lineRest?).bind fun behind =>
      if behind.atLineStop then some { s with cursor := behind } else none

/-- A single pair ends that began where a given number of brackets was open. -/
def endPair (s : Lexing) (level : Nat) : Lexing :=
  match s.pairs with
  | some began :: rest =>
      if began = level then
        { s.push .flowMappingEnd s.cursor.column with
          inFlowMapping := false, pairs := none :: rest }
      else s
  | _ => s

/-- An opening bracket. -/
def openFlow? (s : Lexing) (t : Token) : Option Lexing :=
  if deepestFlow ≤ s.flowLevel then none
  else
    let column := s.cursor.column
    let s := s.saveCandidate.leanIn
    (s.cursor.advance.lineRest?).map fun behind =>
      { s.push t column with
        cursor := behind
        keyAllowed := true
        candidates := {} :: s.candidates
        flowLevel := s.flowLevel + 1
        inFlowMapping := s.inFlowMapping || t = .flowMapping
        pairs := if t = .flowMapping then s.pairs else none :: s.pairs }

/-- A closing bracket. -/
def closeFlow? (s : Lexing) (t : Token) : Option Lexing :=
  if !s.inFlow then none
  else
    let column := s.cursor.column
    let level := s.flowLevel
    (s.dropCandidate?).bind fun s =>
      let s := { s with
        candidates := s.candidates.tail, flowLevel := level - 1, keyAllowed := false }
      let s :=
        if t = .flowSequenceEnd then { s.endPair level with pairs := s.pairs.tail } else s
      (s.cursor.advance.lineRest?).map fun behind =>
        { s.push t column with
          cursor := behind, joinedAt := if s.inFlow then some behind.index else s.joinedAt }

/-- A comma. -/
def comma? (s : Lexing) : Option Lexing :=
  let column := s.cursor.column
  (s.dropCandidate?).bind fun s =>
    (s.cursor.advance.lineRest?).map fun behind =>
      { (s.endPair s.flowLevel).push .comma column with cursor := behind, keyAllowed := true }

/-- An anchor or a tag that opens a line is held back last. -/
def propertyIsLast (s : Lexing) : Bool :=
  match s.queue.getLast? with
  | some (.anchor _, 0) => true
  | some (.tag _ _, 0) => true
  | _ => false

/-- The dash in front of a part of a list. -/
def item? (s : Lexing) : Option Lexing :=
  let column := s.cursor.column
  if s.inFlow || !s.keyAllowed || (column == 0 && -1 < s.indent && s.propertyIsLast) then none
  else
    let c := s.cursor.advance
    let hasTab := (c.overWhile isGap).1.contains '\t'
    let s := s.openBlock column none .blockSequence
    (c.lineRest?).bind fun behind =>
      if hasTab && behind.next? == some '-' && endsWord behind.second? then none
      else
        let s := { s with cursor := behind }
        let s := if behind.next?.any fun x => isLineEnd x || isFlowMark x then s.leanIn else s
        (s.dropCandidate?).map fun s => { s.push .item column with keyAllowed := true }

/-- The question mark in front of a key. -/
def key? (s : Lexing) : Option Lexing :=
  let column := s.cursor.column
  if !s.inFlow && !s.keyAllowed then none
  else
    let s := if s.inFlow then { s with inFlowMapping := true }
      else s.openBlock column none .blockMapping
    (s.dropCandidate?).bind fun s =>
      let s := { s with keyAllowed := !s.inFlow, cursor := s.cursor.advance }
      let (found, s) := overSpace (s.cursor.rest.length + 1) false s
      if !found || s.cursor.next? == some '\t' then none else some (s.push .key column)

/-- Go over the colon in front of a value.  If a tab follows it at once, and no
space, then what comes behind must not look like a name or a dash. -/
def overColon? (c : Cursor) : Option Cursor :=
  let behind := c.advance
  if behind.next? = some '\t' then
    (behind.lineRest?).bind fun last =>
      if !(behind.overWhile isGap).1.contains ' ' && last.next?.any isHandleChar then none
      else some last
  else some behind

/-- The colon behind the innermost candidate, which is a key. -/
def valueOfCandidate? (s : Lexing) (k : KeyCandidate) (isPair : Bool) (line : Nat) :
    Option Lexing :=
  if isPair && k.line < line then none
  else
    let s := s.insert k.number .key k.column
    let s := if isPair then s.insert k.number .flowMapping k.column else s
    let s := (s.openBlock k.column (some k.number) .blockMapping).leanIn
    some { s with
      candidates := { k with possible := false } :: s.candidates.tail, keyAllowed := false }

/-- The colon behind a key that is marked as one or that is not written. -/
def valueOfMarked? (s : Lexing) (isPair : Bool) (column : Nat) : Option Lexing :=
  let s := if isPair then s.push .flowMapping column else s
  if s.inFlow then some { s.leanIn with keyAllowed := false }
  else if !s.keyAllowed then none
  else some { (s.openBlock column none .blockMapping).leanIn with keyAllowed := true }

/-- The colon in front of a value. -/
def value? (s : Lexing) : Option Lexing :=
  let start := s.cursor
  let isPair := !s.pairs.isEmpty && !s.inFlowMapping
  let s := if isPair then { s with pairs := some s.flowLevel :: s.pairs.tail } else s
  (overColon? start).bind fun behind =>
    let s := { s with cursor := behind }
    let k := s.candidates.headD {}
    (if k.possible then s.valueOfCandidate? k isPair start.line
      else s.valueOfMarked? isPair start.column).map fun s => s.push .value start.column

/-- The colon in front of a value in brackets, with no blank behind it. -/
def flowValue? (s : Lexing) : Option Lexing :=
  let opens := s.cursor.second?.any fun x => x == '[' || x == '\x7b'
  if opens && s.joinedAt != some s.cursor.index then none else s.value?

/-- An anchor or an alias. -/
def anchor? (s : Lexing) (t : String → Token) : Option Lexing :=
  let s := s.saveCandidate
  (anchorName? s.cursor).map fun (name, behind) =>
    { s.push (t name) s.cursor.column with cursor := behind, keyAllowed := false }

/-- A tag. -/
def tag? (s : Lexing) : Option Lexing :=
  let s := s.saveCandidate
  (Yaml.tag? s.inFlow s.cursor).map fun (handle, suffix, behind) =>
    { s.push (.tag handle suffix) s.cursor.column with cursor := behind, keyAllowed := false }

/-- A text that is a block. -/
def block? (s : Lexing) (folds : Bool) : Option Lexing :=
  let s := s.saveCandidate.leanOut
  (Yaml.block? folds s.indent s.cursor).map fun (text, behind) =>
    { s.push (.scalar false (String.ofList text)) s.cursor.column with
      cursor := behind, keyAllowed := true }

/-- A quoted text, with the blanks behind it. -/
def quoted? (s : Lexing) (quote : Char) : Option Lexing :=
  let column := s.cursor.column
  let s := { s.saveCandidate with keyAllowed := false }
  (Yaml.quoted? s.inFlow s.indent quote s.cursor).bind fun (text, behind) =>
    (toNext? (behind.rest.length + 1) { s with cursor := behind }).map fun s =>
      { s.push (.scalar false (String.ofList text)) column with
        joinedAt := some s.cursor.index }

/-- A plain text. -/
def plain? (s : Lexing) : Option Lexing :=
  let s := s.saveCandidate.leanOut
  (Yaml.plain? s.inFlow (s.indent + 1) s.cursor).map fun (text, ended, behind) =>
    { s.push (.scalar true (String.ofList text)) s.cursor.column with
      cursor := behind, keyAllowed := ended }

/-- The token that begins with a character. -/
def tokenAt? (s : Lexing) (x : Char) : Option Lexing :=
  let second := s.cursor.second?
  let joined := s.joinedAt == some s.cursor.index
  match x with
  | '[' => s.openFlow? .flowSequence
  | '\x7b' => s.openFlow? .flowMapping
  | ']' => s.closeFlow? .flowSequenceEnd
  | '\x7d' => s.closeFlow? .flowMappingEnd
  | ',' => s.comma?
  | '-' => if endsWord second then s.item? else s.plain?
  | '?' => if endsWord second then s.key? else s.plain?
  | ':' =>
      if endsWord second then s.value?
      else if s.inFlow && (second.any isFlowMark || joined) then s.flowValue?
      else s.plain?
  | '*' => s.anchor? .repetition
  | '&' => s.anchor? .anchor
  | '!' => s.tag?
  | '|' => if s.inFlow then s.plain? else s.block? false
  | '>' => if s.inFlow then s.plain? else s.block? true
  | '\'' => s.quoted? '\''
  | '"' => s.quoted? '"'
  | '%' => none
  | '@' => none
  | '\x60' => none
  | _ => s.plain?

/-- A comma and a closing bracket may stand anywhere; all else is indented. -/
def isIndented (s : Lexing) (x : Char) : Bool :=
  s.indent ≤ s.cursor.column || (s.inFlow && (x == ',' || x == ']' || x == '\x7d'))

/-- Cut off what comes next. -/
def step? (s : Lexing) : Option Lexing := do
  let reached ← toNext? (s.cursor.rest.length + 1) s
  let s := (← reached.dropStale?).closeBlocks reached.cursor.column
  match s.cursor.next? with
  | none => s.finish?
  | some x =>
      if s.cursor.column = 0 ∧ x = '%' then s.directive?
      else if s.cursor.atMark '-' then s.documentMark? .documentStart
      else if s.cursor.atMark '.' then s.documentEnd?
      else if s.isIndented x then s.tokenAt? x
      else none

/-- The first token, if it is not held back any more. -/
def ready? (s : Lexing) : Option (Token × Lexing) :=
  match s.queue with
  | [] => none
  | (t, _) :: rest =>
      if s.isHeldBack then none else some (t, { s with queue := rest, taken := s.taken + 1 })

/-- The tokens from here on. -/
def tokens : Nat → Lexing → List Token
  | 0, _ => [.broken]
  | fuel + 1, s =>
      match s.dropStale? with
      | none => [.broken]
      | some s => match s.ready? with
          | some (.streamEnd, _) => [.streamEnd]
          | some (t, next) => t :: tokens fuel next
          | none => match s.step? with
              | some next => tokens fuel next
              | none => [.broken]

end Lexing

/-- The tokens of a text. -/
def Token.ofText (cs : List Char) : List Token :=
  Lexing.tokens (8 * cs.length + 16) { cursor := { rest := cs } }

end VolumeAttach.Yaml
