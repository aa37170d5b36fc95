/-
Module: VolumeAttach.Settings.EnvironmentValue
Purpose: What the text of an environment variable means as a setting.
Main exports: EnvironmentValue.read
-/
import VolumeAttach.Settings.Value
import VolumeAttach.Text.Blank
import VolumeAttach.Text.Decimal
import VolumeAttach.Text.Hex

namespace VolumeAttach.EnvironmentValue

open Text

/-!
Blanks around the text do not count.  A text with a comma is a list unless a
bracket or a quote opens it.  Otherwise the text is read as a truth value, a
list, a table, a text in double quotes, one character in single quotes or a
number.  Whatever cannot be read that way from its first to its last character
is meant literally.
-/

/-- The blanks between the parts of a list or a table. -/
def isSpace (c : Char) : Bool :=
  c == ' ' || c == '\t' || c == '\n' || c == '\r' || c == '\x0c'

/-- The characters that end an unquoted part. -/
def isMark (c : Char) : Bool :=
  c == ',' || c == '\x7b' || c == '\x7d' || c == '[' || c == ']'

/-- The characters of an unquoted key. -/
def isKeyChar (c : Char) : Bool :=
  c.isAlphanum || c == '_' || c == '-'

/-- Leave out leading gaps. -/
def skipSpaces (cs : List Char) : List Char := cs.dropWhile isSpace

/-- Take one given character. -/
def eat? (c : Char) : List Char → Option (List Char)
  | d :: rest => if c = d then some rest else none
  | [] => none

/-- The characters that a text in double quotes may hold as they are. -/
def isQuotable (c : Char) : Bool := c == '\t' || (0x20 ≤ c.toNat && c.toNat != 0x7F)

/-- The rest of a text in double quotes, from its first escape or its closing
quote on. -/
def quoted? : Nat → List Char → Option (List Char × List Char)
  | 0, _ => none
  | _ + 1, [] => none
  | _ + 1, '"' :: rest => some ([], rest)
  | fuel + 1, '\\' :: c :: rest =>
      let plain? : Option Char := match c with
        | '"' => some '"'
        | '\\' => some '\\'
        | 'b' => some '\x08'
        | 'f' => some '\x0c'
        | 'n' => some '\n'
        | 'r' => some '\r'
        | 't' => some '\t'
        | _ => none
      match plain? with
      | some p => (quoted? fuel rest).map fun (cs, after) => (p :: cs, after)
      | none =>
          let number? : Option (Char × List Char) :=
            if c = 'u' then escaped? 4 rest
            else if c = 'U' then escaped? 8 rest
            else none
          match number? with
          | some (p, after) => (quoted? fuel after).map fun (cs, last) => (p :: cs, last)
          | none => none
  | fuel + 1, c :: rest =>
      if isQuotable c then
        (quoted? fuel rest).map fun (cs, after) => (c :: cs, after)
      else none

/-- As many leading characters as fit in a number of bytes. -/
def fitting : Nat → List Char → List Char
  | _, [] => []
  | room, c :: rest =>
      if c.utf8Size ≤ room then c :: fitting (room - c.utf8Size) rest else []

/-- What is kept of the text in front of the first escape: one byte for each of
its characters, which is all of it when the text is ASCII. -/
def keptBeforeEscape (cs : List Char) : List Char := fitting cs.length cs

/-- The text in double quotes at the front. -/
def quotedText? : List Char → Option (String × List Char)
  | '"' :: rest =>
      let isPlain (c : Char) : Bool := c != '"' && c != '\\' && isQuotable c
      let front := rest.takeWhile isPlain
      match rest.dropWhile isPlain with
      | '"' :: after => some (String.ofList front, after)
      | start => (quoted? (start.length + 1) start).map fun (cs, after) =>
          (String.ofList (keptBeforeEscape front ++ cs), after)
  | _ => none

/-- An exponent after the digits of a number, or nothing. -/
def isExponent : List Char → Bool
  | [] => true
  | c :: rest =>
      (c == 'e' || c == 'E') && !(dropSign rest).isEmpty && (dropSign rest).all Char.isDigit

/-- A decimal number that is written with a point. -/
def isPointed (cs : List Char) : Bool :=
  let whole := (dropSign cs).takeWhile Char.isDigit
  match (dropSign cs).dropWhile Char.isDigit with
  | '.' :: rest =>
      !(whole.isEmpty && (rest.takeWhile Char.isDigit).isEmpty) &&
        isExponent (rest.dropWhile Char.isDigit)
  | _ => false

/-- The integer that a text is, if it fits in sixty-four bits with or without a
sign. -/
def integer? (cs : List Char) : Option Int :=
  match readWord cs with
  | .ok n => some (Int.ofNat n)
  | .error _ => match cs with
      | '-' :: c :: digits => match readDigits 0 (c :: digits) with
          | .ok n => if n ≤ 0x8000000000000000 then some (-(Int.ofNat n)) else none
          | .error _ => none
      | _ => none

/-- What an unquoted part means. -/
def plain (cs : List Char) : Value :=
  let part := trimBlank cs
  if part.contains '.' && isPointed part then .other
  else match integer? part with
    | some n => .integer n
    | none => .text (String.ofList part)

mutual

/-- A value at the front, with the gaps around it. -/
def value? : Nat → List Char → Option (Value × List Char)
  | 0, _ => none
  | fuel + 1, cs =>
      let start := skipSpaces cs
      let found? : Option (Value × List Char) :=
        match ['t', 'r', 'u', 'e'].isPrefixOf? start,
            ['f', 'a', 'l', 's', 'e'].isPrefixOf? start with
        | some rest, _ => some (.other, rest)
        | none, some rest => some (.other, rest)
        | none, none =>
            match start with
            | '\x7b' :: rest => (table? fuel rest).map fun after => (.other, after)
            | '[' :: rest => (list? fuel rest).map fun after => (.other, after)
            | '"' :: _ => (quotedText? start).map fun (s, after) => (.text s, after)
            | '\'' :: c :: '\'' :: rest => some (.character c, rest)
            | '\'' :: _ => none
            | _ =>
                let part := start.takeWhile fun c => !isMark c
                some (plain part, start.dropWhile fun c => !isMark c)
      found?.map fun (v, rest) => (v, skipSpaces rest)

/-- The rest of a list after its opening bracket. -/
def list? : Nat → List Char → Option (List Char)
  | 0, _ => none
  | _ + 1, ']' :: rest => some rest
  | fuel + 1, cs =>
      match value? fuel cs with
      | some (_, ',' :: rest) => list? fuel rest
      | some (_, ']' :: rest) => some rest
      | _ => none

/-- The rest of a table after its opening brace. -/
def table? : Nat → List Char → Option (List Char)
  | 0, _ => none
  | _ + 1, '\x7d' :: rest => some rest
  | fuel + 1, cs =>
      let start := skipSpaces cs
      let afterKey? : Option (List Char) :=
        match start with
        | '"' :: _ => (quotedText? start).map (·.2)
        | c :: _ => if isKeyChar c then some (start.dropWhile isKeyChar) else none
        | [] => none
      match (afterKey?.bind fun rest => eat? '=' (skipSpaces rest)).bind fun rest =>
          value? fuel rest with
      | some (_, ',' :: rest) => table? fuel rest
      | some (_, '\x7d' :: rest) => some rest
      | _ => none

end

/-- A text with a comma is a list, unless a bracket or a quote opens it. -/
def isBareList (cs : List Char) : Bool :=
  cs.contains ',' && match cs.head? with
    | some c => !(c == '[' || c == '\x7b' || c == '"' || c == '\'')
    | none => false

/-- What the text of a variable means. -/
def read (text : String) : Value :=
  let cs := trimBlank text.toList
  if isBareList cs then .other
  else match value? (2 * cs.length + 2) cs with
    | some (v, []) => v
    | _ => .text (String.ofList cs)

end VolumeAttach.EnvironmentValue
