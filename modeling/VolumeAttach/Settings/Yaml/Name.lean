/-
Module: VolumeAttach.Settings.Yaml.Name
Purpose: The names in a YAML text: anchors, tags and directives.
Main exports: Yaml.Directive, Yaml.anchorName?, Yaml.tag?, Yaml.directive?
-/
import VolumeAttach.Settings.Yaml.Cursor
import VolumeAttach.Text.Bytes
import VolumeAttach.Text.Hex

namespace VolumeAttach.Yaml

open Text

/-!
A tag is written as a handle and a suffix.  A directive at the head of a document
says which longer text a handle stands for.  Any character of a suffix may be
written by its bytes, each with a percent sign and two hexadecimal digits.
-/

/-- A line at the head of a document. -/
inductive Directive where
  /-- The version of the format. -/
  | version
  /-- What a handle stands for. -/
  | handle (name meaning : String)
  /-- Any other. -/
  | unknown
deriving Repr, DecidableEq

/-- The characters of a handle. -/
def isHandleChar (c : Char) : Bool := c.isAlphanum || c == '-' || c == '_'

/-- The characters of the name of an anchor. -/
def isAnchorChar (c : Char) : Bool :=
  !(isGap c || isLineEnd c || isFlowMark c || c == '\ufeff')

/-- The characters of the long form of a tag. -/
def isUriChar (c : Char) : Bool :=
  c.isAlphanum || "-#;/?:@&=+$,_.!~*'()[]%".toList.contains c

/-- The characters of the suffix of a tag. -/
def isSuffixChar (c : Char) : Bool := isUriChar c && !isFlowMark c && c != '!'

/-- The name of an anchor or an alias behind its first character. -/
def anchorName? (c : Cursor) : Option (String × Cursor) :=
  let (name, behind) := c.advance.overWhile isAnchorChar
  if name.isEmpty then none else some (String.ofList name, { behind with atMargin := false })

/-- A byte that is written with a percent sign. -/
def escapedByte? : List Char → Option (UInt8 × List Char)
  | '%' :: high :: low :: rest =>
      (hexNumber? [high, low]).map fun n => (UInt8.ofNat n, rest)
  | _ => none

/-- How many bytes the character takes that begins with a given one. -/
def byteCount? (lead : UInt8) : Option Nat :=
  if lead < 0x80 then some 1
  else if 0xC0 ≤ lead ∧ lead < 0xE0 then some 2
  else if 0xE0 ≤ lead ∧ lead < 0xF0 then some 3
  else if 0xF0 ≤ lead ∧ lead < 0xF8 then some 4
  else none

/-- The next bytes that are written with percent signs. -/
def escapedBytes? : Nat → List Char → Option Bytes
  | 0, _ => some []
  | count + 1, cs =>
      (escapedByte? cs).bind fun (b, rest) => (escapedBytes? count rest).map fun bs => b :: bs

/-- A character that is written by its bytes. -/
def escapedChar? (c : Cursor) : Option (List Char × Cursor) := do
  let (lead, _) ← escapedByte? c.rest
  let count ← byteCount? lead
  let text ← decode? (← escapedBytes? count c.rest)
  return (text.toList, c.skip (3 * count))

/-- The next characters of a class, some of them perhaps written by their bytes. -/
def uriText? (holds : Char → Bool) : Nat → Cursor → Option (List Char × Cursor)
  | 0, c => some ([], c)
  | fuel + 1, c =>
      match c.next? with
      | some x =>
          if !holds x then some ([], c)
          else
            let first? := if x = '%' then escapedChar? c else some ([x], c.advance)
            first?.bind fun (front, behind) =>
              (uriText? holds fuel behind).map fun (more, last) => (front ++ more, last)
      | none => some ([], c)

/-- A handle at the cursor: an exclamation mark, letters and, if it can be, another
mark. -/
def handle? (c : Cursor) : Option (List Char × Cursor) :=
  if c.next? = some '!' then
    let (name, behind) := c.advance.overWhile isHandleChar
    if behind.next? = some '!' then some ('!' :: name ++ ['!'], behind.advance)
    else some ('!' :: name, behind)
  else none

/-- A handle that is closed by an exclamation mark of its own. -/
def isClosedHandle (handle : List Char) : Bool :=
  2 ≤ handle.length && handle.getLast? == some '!'

/-- A tag in its long form, behind its first two characters. -/
def longTag? (c : Cursor) : Option (String × String × Cursor) :=
  (uriText? isUriChar (c.rest.length + 1) (c.skip 2)).bind fun (text, behind) =>
    if behind.next? = some '>' then some ("", String.ofList text, behind.advance) else none

/-- A tag with a handle. -/
def shortTag? (c : Cursor) : Option (String × String × Cursor) :=
  (handle? c).bind fun (handle, behind) =>
    (uriText? isSuffixChar (c.rest.length + 1) behind).bind fun (suffix, last) =>
      if isClosedHandle handle then
        if suffix.isEmpty then none
        else some (String.ofList handle, String.ofList suffix, last)
      else
        match handle.drop 1 ++ suffix with
        | [] => some ("", "!", last)
        | whole => some ("!", String.ofList whole, last)

/-- A tag: its handle, its suffix and what follows.  A blank ends it, and in a list
or table in brackets so does a character that structures these. -/
def tag? (inFlow : Bool) (c : Cursor) : Option (String × String × Cursor) :=
  (if c.second? = some '<' then longTag? c else shortTag? c).filter fun (_, _, behind) =>
    endsWord behind.next? || (inFlow && behind.next?.any isFlowMark)

/-- A version number has two parts of up to nine digits. -/
def versionPart? (c : Cursor) : Option Cursor :=
  let (digits, behind) := c.overWhile Char.isDigit
  if digits.isEmpty || 9 < digits.length then none else some behind

/-- The value of a version directive. -/
def version? (c : Cursor) : Option Cursor := do
  let behind ← versionPart? (c.overWhile isGap).2
  if behind.next? = some '.' then versionPart? behind.advance else none

/-- The value of a directive that says what a handle stands for. -/
def handleMeaning? (c : Cursor) : Option (Directive × Cursor) := do
  let (handle, behind) ← handle? (c.overWhile isGap).2
  if !isClosedHandle handle && handle ≠ ['!'] then none
  else
    let start := (behind.overWhile isGap).2
    let opens := start.next?.any fun x => x == '!' || isSuffixChar x
    let (meaning, last) ← uriText? isUriChar (start.rest.length + 1) start
    if opens && endsWord last.next? then
      return (.handle (String.ofList handle) (String.ofList meaning), last)
    else none

/-- A directive with the line end behind it. -/
def directive? (c : Cursor) : Option (Directive × Cursor) := do
  let (name, behind) := c.advance.overWhile isHandleChar
  if name.isEmpty || !endsWord behind.next? then none
  else
    let (directive, last) ←
      if name = "YAML".toList then (version? behind).map fun last => (Directive.version, last)
      else if name = "TAG".toList then handleMeaning? behind
      else some (.unknown, behind.overLine)
    let stop ← last.lineRest?
    if stop.atLineStop then return (directive, stop.overLineEnd) else none

end VolumeAttach.Yaml
