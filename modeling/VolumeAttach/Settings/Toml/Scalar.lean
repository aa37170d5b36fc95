/-
Module: VolumeAttach.Settings.Toml.Scalar
Purpose: Numbers, moments in time and texts as TOML writes them.
Main exports: Toml.token?, Toml.text?, Toml.key?, Toml.depthLimit
-/
import VolumeAttach.Settings.Value
import VolumeAttach.Text.Blank
import VolumeAttach.Text.Decimal
import VolumeAttach.Text.DoubleRange
import VolumeAttach.Text.Hex

namespace VolumeAttach.Toml

open Text

/-!
A number or a moment in time is one unbroken token, except that a blank may
stand between the day and the time of day.  Texts come in four kinds: with or
without escapes, and on one line or on several.
-/

/-- A control character that may stand nowhere but, for the tab, in texts and
comments. -/
def isForbidden (c : Char) : Bool :=
  (c.toNat < 0x20 && c != '\t') || c == '\x7f'

/-- Digits of a base with single underscores between them; the underscores are
left out. -/
def digits? (isDigit : Char → Bool) : List Char → Option (List Char)
  | [] => none
  | [c] => if isDigit c then some [c] else none
  | c :: '_' :: rest => if isDigit c then (digits? isDigit rest).map (c :: ·) else none
  | c :: rest => if isDigit c then (digits? isDigit rest).map (c :: ·) else none

/-- Decimal digits without a needless zero in front. -/
def wholeDigits? (cs : List Char) : Option (List Char) :=
  match digits? Char.isDigit cs with
  | some ['0'] => some ['0']
  | some ('0' :: _) => none
  | found => found

/-- A whole number that fits in sixty-four bits with sign. -/
def integer? : List Char → Option Value
  | '0' :: 'x' :: rest =>
      (digits? (fun c => (hexValue? c).isSome) rest).bind fun ds => Value.ofSigned? (numberIn 16 ds)
  | '0' :: 'o' :: rest =>
      (digits? (fun c => '0' ≤ c && c ≤ '7') rest).bind fun ds => Value.ofSigned? (numberIn 8 ds)
  | '0' :: 'b' :: rest =>
      (digits? (fun c => c == '0' || c == '1') rest).bind fun ds => Value.ofSigned? (numberIn 2 ds)
  | '+' :: rest => (wholeDigits? rest).bind fun ds => Value.ofSigned? (numberIn 10 ds)
  | '-' :: rest =>
      (wholeDigits? rest).bind fun ds => Value.ofSigned? (-(Int.ofNat (numberIn 10 ds)))
  | cs => (wholeDigits? cs).bind fun ds => Value.ofSigned? (numberIn 10 ds)

/-- The mark of an exponent. -/
def isExponentMark (c : Char) : Bool := c == 'e' || c == 'E'

/-- Digits of an exponent, with a sign if need be. -/
def isExponent (cs : List Char) : Bool := (digits? Char.isDigit (dropSign cs)).isSome

/-- The number is too large for double precision; far below zero there is no such
limit. -/
def isTooLarge (cs : List Char) : Bool :=
  cs.head? != some '-' && exceedsDouble (dropSign cs)

/-- A number with a point, with an exponent or with both, or one that is
infinite or none. -/
def isReal (cs : List Char) : Bool :=
  let body := dropSign cs
  if body = ['i', 'n', 'f'] ∨ body = ['n', 'a', 'n'] then true
  else
    let mantissa := body.takeWhile fun c => !isExponentMark c
    let exponent := body.dropWhile fun c => !isExponentMark c
    let whole := mantissa.takeWhile (· != '.')
    let fraction := mantissa.dropWhile (· != '.')
    (wholeDigits? whole).isSome &&
      (match fraction with
        | [] => !exponent.isEmpty
        | _ :: ds => (digits? Char.isDigit ds).isSome) &&
      (match exponent with
        | [] => true
        | _ :: ds => isExponent ds) &&
      !isTooLarge cs

/-- Two decimal digits as a number. -/
def two? (a b : Char) : Option Nat :=
  if a.isDigit && b.isDigit then some (numberIn 10 [a, b]) else none

/-- The number of days in a month. -/
def monthLength (year month : Nat) : Nat :=
  match month with
  | 1 | 3 | 5 | 7 | 8 | 10 | 12 => 31
  | 4 | 6 | 9 | 11 => 30
  | 2 => if year % 4 = 0 ∧ (year % 100 ≠ 0 ∨ year % 400 = 0) then 29 else 28
  | _ => 0

/-- What follows a day of the calendar. -/
def afterDay? : List Char → Option (List Char)
  | y1 :: y2 :: y3 :: y4 :: '-' :: m1 :: m2 :: '-' :: d1 :: d2 :: rest =>
      match two? y1 y2, two? y3 y4, two? m1 m2, two? d1 d2 with
      | some century, some year, some month, some day =>
          if 1 ≤ day ∧ day ≤ monthLength (100 * century + year) month then some rest else none
      | _, _, _, _ => none
  | _ => none

/-- What follows a time of day. -/
def afterTime? : List Char → Option (List Char)
  | h1 :: h2 :: ':' :: m1 :: m2 :: ':' :: s1 :: s2 :: rest =>
      match two? h1 h2, two? m1 m2, two? s1 s2 with
      | some hour, some minute, some second =>
          if hour ≤ 23 ∧ minute ≤ 59 ∧ second ≤ 60 then
            match rest with
            | '.' :: c :: more => if c.isDigit then some (more.dropWhile Char.isDigit) else none
            | '.' :: [] => none
            | _ => some rest
          else none
      | _, _, _ => none
  | _ => none

/-- A distance from universal time, or none. -/
def isOffset : List Char → Bool
  | [] => true
  | ['Z'] => true
  | ['z'] => true
  | [sign, h1, h2, ':', m1, m2] =>
      (sign == '+' || sign == '-') &&
        match two? h1 h2, two? m1 m2 with
        | some hour, some minute => decide (hour ≤ 23 ∧ minute ≤ 59)
        | _, _ => false
  | _ => false

/-- A day, a time of day, or both with or without a distance from universal
time. -/
def isMoment (cs : List Char) : Bool :=
  match afterDay? cs with
  | some [] => true
  | some (mark :: rest) =>
      (mark == 'T' || mark == 't' || mark == ' ') &&
        match afterTime? rest with
        | some after => isOffset after
        | none => false
  | none => match afterTime? cs with
      | some [] => true
      | _ => false

/-- The characters of a token. -/
def isTokenChar (c : Char) : Bool :=
  c.isAlphanum || c == '+' || c == '-' || c == '.' || c == ':' || c == '_'

/-- A token and what follows it.  A day that is followed by one blank and a digit
goes on with a time of day. -/
def tokenParts (cs : List Char) : List Char × List Char :=
  let first := cs.takeWhile isTokenChar
  let rest := cs.dropWhile isTokenChar
  match afterDay? first, rest with
  | some [], ' ' :: c :: more =>
      if c.isDigit then
        (first ++ ' ' :: (c :: more).takeWhile isTokenChar, (c :: more).dropWhile isTokenChar)
      else (first, rest)
  | _, _ => (first, rest)

/-- The value of a token at the front. -/
def token? (cs : List Char) : Option (Value × List Char) :=
  let (token, rest) := tokenParts cs
  if token = ['t', 'r', 'u', 'e'] ∨ token = ['f', 'a', 'l', 's', 'e'] then some (.other, rest)
  else match integer? token with
    | some v => some (v, rest)
    | none => if isReal token || isMoment token then some (.other, rest) else none

/-- An escape after its backslash: the character and what follows. -/
def escape? : List Char → Option (Char × List Char)
  | 'b' :: rest => some ('\x08', rest)
  | 't' :: rest => some ('\t', rest)
  | 'n' :: rest => some ('\n', rest)
  | 'f' :: rest => some ('\x0c', rest)
  | 'r' :: rest => some ('\r', rest)
  | '"' :: rest => some ('"', rest)
  | '\\' :: rest => some ('\\', rest)
  | 'u' :: rest => escaped? 4 rest
  | 'U' :: rest => escaped? 8 rest
  | _ => none

/-- The rest of a text on one line, after the opening quote. -/
def line? (quote : Char) (escapes : Bool) : Nat → List Char → Option (List Char × List Char)
  | 0, _ => none
  | _ + 1, [] => none
  | fuel + 1, c :: rest =>
      if c = quote then some ([], rest)
      else if c = '\\' ∧ escapes then
        (escape? rest).bind fun (p, after) =>
          (line? quote escapes fuel after).map fun (cs, last) => (p :: cs, last)
      else if isForbidden c then none
      else (line? quote escapes fuel rest).map fun (cs, after) => (c :: cs, after)

/-- What follows a backslash at the end of a line: the blank lines and the gaps
behind it do not count. -/
def afterLineEnd? (cs : List Char) : Option (List Char) :=
  let isSpace (c : Char) : Bool := isGap c || c == '\n' || c == '\r'
  match skipGaps cs with
  | '\n' :: rest => some (rest.dropWhile isSpace)
  | '\r' :: '\n' :: rest => some (rest.dropWhile isSpace)
  | _ => none

/-- The rest of a text on several lines, after the opening quotes.  Up to two
quotes may stand in front of the three that close it. -/
def lines? (quote : Char) (escapes : Bool) : Nat → List Char → Option (List Char × List Char)
  | 0, _ => none
  | _ + 1, [] => none
  | fuel + 1, c :: rest =>
      if c = quote then
        let count := ((c :: rest).takeWhile (· == quote)).length
        if 3 ≤ count then
          if count ≤ 5 then
            some (List.replicate (count - 3) quote, (c :: rest).drop count)
          else none
        else (lines? quote escapes fuel rest).map fun (cs, after) => (c :: cs, after)
      else if c = '\\' ∧ escapes then
        match afterLineEnd? rest with
        | some after => lines? quote escapes fuel after
        | none => (escape? rest).bind fun (p, after) =>
            (lines? quote escapes fuel after).map fun (cs, last) => (p :: cs, last)
      else if c = '\r' ∧ rest.head? = some '\n' then lines? quote escapes fuel rest
      else if isForbidden c ∧ c ≠ '\n' then none
      else (lines? quote escapes fuel rest).map fun (cs, after) => (c :: cs, after)

/-- A line end right after the opening quotes does not count. -/
def dropLineEnd : List Char → List Char
  | '\n' :: rest => rest
  | '\r' :: '\n' :: rest => rest
  | cs => cs

/-- A text at the front, in any of the four kinds. -/
def text? (cs : List Char) : Option (List Char × List Char) :=
  match cs with
  | '"' :: '"' :: '"' :: rest => lines? '"' true (rest.length + 1) (dropLineEnd rest)
  | '\'' :: '\'' :: '\'' :: rest => lines? '\'' false (rest.length + 1) (dropLineEnd rest)
  | '"' :: rest => line? '"' true (rest.length + 1) rest
  | '\'' :: rest => line? '\'' false (rest.length + 1) rest
  | _ => none

/-- The characters of a key without quotes. -/
def isBareKeyChar (c : Char) : Bool := c.isAlphanum || c == '_' || c == '-'

/-- One part of a key at the front. -/
def keyPart? (cs : List Char) : Option (String × List Char) :=
  match cs with
  | '"' :: rest => (line? '"' true (rest.length + 1) rest).map fun (k, after) =>
      (String.ofList k, after)
  | '\'' :: rest => (line? '\'' false (rest.length + 1) rest).map fun (k, after) =>
      (String.ofList k, after)
  | _ =>
      let bare := cs.takeWhile isBareKeyChar
      if bare.isEmpty then none
      else some (String.ofList bare, cs.dropWhile isBareKeyChar)

/-- The parts of a key with points between them, and what follows the key and the
gaps behind it. -/
def keyParts? : Nat → List Char → Option (List String × List Char)
  | 0, _ => none
  | fuel + 1, cs =>
      (keyPart? (skipGaps cs)).bind fun (part, after) =>
        match skipGaps after with
        | '.' :: rest => (keyParts? fuel rest).map fun (parts, last) => (part :: parts, last)
        | rest => some ([part], rest)

/-- Fewer values than this may lie within each other, and a key has fewer parts. -/
def depthLimit : Nat := 80

/-- A key, and what follows it and the gaps behind it. -/
def key? (cs : List Char) : Option (List String × List Char) :=
  (keyParts? (cs.length + 1) cs).filter fun (parts, _) => parts.length < depthLimit

end VolumeAttach.Toml
