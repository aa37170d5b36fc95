/-
Module: VolumeAttach.Settings.Json5
Purpose: Settings files in JSON5, of which JSON is a part.
Main exports: Json5.value?, Json5.read?
-/
import VolumeAttach.Settings.Value
import VolumeAttach.Text.Blank
import VolumeAttach.Text.DoubleRange
import VolumeAttach.Text.Hex
import VolumeAttach.Text.Word

namespace VolumeAttach.Json5

open Text

/-!
JSON5 adds to JSON what people write by hand: comments, keys without quotes,
single quotes, commas after the last part, hexadecimal numbers, signs and
points without digits on both sides.

A whole number has to fit in sixty-four bits with sign, a hexadecimal one in
thirty-two bits without a sign in front, and any other in double precision.
-/

/-- The characters that end a line. -/
def isLineEnd (c : Char) : Bool :=
  c == '\n' || c == '\r' || c == '\u2028' || c == '\u2029'

/-- Blanks between tokens. -/
def isSpace (c : Char) : Bool := (isBlank c && c != '\u0085') || c == '\ufeff'

/-- What follows a comment in front of whose end the text stands. -/
def afterComment? : List Char → Option (List Char)
  | '*' :: '/' :: rest => some rest
  | _ :: rest => afterComment? rest
  | [] => none

/-- Leave out blanks and comments. -/
def skip : Nat → List Char → List Char
  | 0, cs => cs
  | fuel + 1, cs =>
      match cs.dropWhile isSpace with
      | '/' :: '/' :: rest => skip fuel (rest.dropWhile fun c => !isLineEnd c)
      | '/' :: '*' :: rest => match afterComment? rest with
          | some after => skip fuel after
          | none => '/' :: '*' :: rest
      | start => start

/-- Leave out blanks and comments of any length. -/
def skipAll (cs : List Char) : List Char := skip (cs.length + 1) cs

/-- The number of a UTF-16 unit at the front. -/
def unit? (cs : List Char) : Option (Nat × List Char) :=
  if (cs.take 4).length = 4 then (hexNumber? (cs.take 4)).map fun n => (n, cs.drop 4) else none

/-- Leave out backslashes at the ends of lines, with those line ends. -/
def skipContinuations (cs : List Char) : List Char :=
  match cs with
  | '\\' :: '\r' :: '\n' :: rest => skipContinuations rest
  | '\\' :: c :: rest => if isLineEnd c then skipContinuations rest else cs
  | _ => cs

/-- The number of the character that two units make.  The second unit's share
carries the step past the first plane, and the shares are joined bit by bit: that
step shows only where the first unit's share does not hold it already. -/
def joined (high low : Nat) : Nat :=
  ((high - 0xD800) <<< 10) ||| ((low - 0xDC00) + 0x10000)

/-- The character of a numeric escape.  A character past the first plane takes
two of them; what may stand between the two is left out first. -/
def unicode? (leaveOut : List Char → List Char) (cs : List Char) :
    Option (Char × List Char) :=
  (unit? cs).bind fun (high, rest) =>
    if 0xD800 ≤ high ∧ high < 0xDC00 then
      match leaveOut rest with
      | '\\' :: 'u' :: more =>
          (unit? more).bind fun (low, after) =>
            if 0xDC00 ≤ low ∧ low < 0xE000 then
              (scalar? (joined high low)).map fun c => (c, after)
            else none
      | _ => none
    else (scalar? high).map fun c => (c, rest)

/-- The meaning of an escaped character that stands for another one. -/
def simpleEscape? : Char → Option Char
  | 'b' => some '\x08'
  | 'f' => some '\x0c'
  | 'n' => some '\n'
  | 'r' => some '\r'
  | 't' => some '\t'
  | 'v' => some '\x0b'
  | '0' => some '\x00'
  | _ => none

/-- The rest of a text after its opening quote. -/
def quoted? (quote : Char) : Nat → List Char → Option (List Char × List Char)
  | 0, _ => none
  | _ + 1, [] => none
  | fuel + 1, '\\' :: rest =>
      let keep (c : Char) (after : List Char) : Option (List Char × List Char) :=
        (quoted? quote fuel after).map fun (cs, last) => (c :: cs, last)
      match rest with
      | [] => none
      | '\r' :: '\n' :: after => quoted? quote fuel after
      | 'x' :: after => (escaped? 2 after).bind fun (c, last) => keep c last
      | 'u' :: after => (unicode? skipContinuations after).bind fun (c, last) => keep c last
      | c :: after =>
          if isLineEnd c then quoted? quote fuel after
          else match simpleEscape? c with
            | some p => keep p after
            | none => if c.isDigit then none else keep c after
  | fuel + 1, c :: rest =>
      if c = quote then some ([], rest)
      else if isLineEnd c then none
      else (quoted? quote fuel rest).map fun (cs, after) => (c :: cs, after)

/-- A text at the front. -/
def text? : List Char → Option (String × List Char)
  | '"' :: rest => (quoted? '"' (rest.length + 1) rest).map fun (cs, after) =>
      (String.ofList cs, after)
  | '\'' :: rest => (quoted? '\'' (rest.length + 1) rest).map fun (cs, after) =>
      (String.ofList cs, after)
  | _ => none

/-- The characters that open a key without quotes. -/
def isKeyStart (c : Char) : Bool := isLetter c || c == '$' || c == '_'

/-- The characters of a key without quotes; two of them join letters without being
seen. -/
def isKeyChar (c : Char) : Bool :=
  isKeyStart c || isExtender c || c == '\u200c' || c == '\u200d'

/-- The characters of a key without quotes, of which some may be escaped. -/
def bareKey : Nat → List Char → List Char × List Char
  | 0, cs => ([], cs)
  | fuel + 1, cs =>
      match cs with
      | '\\' :: 'u' :: rest => match unicode? id rest with
          | some (c, after) =>
              let (more, last) := bareKey fuel after
              (c :: more, last)
          | none => ([], cs)
      | c :: rest =>
          if isKeyChar c then
            let (more, last) := bareKey fuel rest
            (c :: more, last)
          else ([], cs)
      | [] => ([], [])

/-- A key at the front. -/
def key? (cs : List Char) : Option (String × List Char) :=
  match cs with
  | '"' :: _ => text? cs
  | '\'' :: _ => text? cs
  | c :: _ =>
      if isKeyStart c || c == '\\' then
        match bareKey (cs.length + 1) cs with
        | ([], _) => none
        | (name, rest) => some (String.ofList name, rest)
      else none
  | [] => none

/-- Digits without a needless zero in front, and what follows. -/
def whole (cs : List Char) : List Char × List Char :=
  match cs with
  | '0' :: rest => (['0'], rest)
  | _ => (cs.takeWhile Char.isDigit, cs.dropWhile Char.isDigit)

/-- An exponent at the front: whether there is one, and what follows. -/
def exponent (cs : List Char) : Bool × List Char :=
  match cs with
  | c :: rest =>
      if c == 'e' || c == 'E' then
        let digits := match rest with
          | '+' :: more => more
          | '-' :: more => more
          | _ => rest
        if (digits.takeWhile Char.isDigit).isEmpty then (false, cs)
        else (true, digits.dropWhile Char.isDigit)
      else (false, cs)
  | [] => (false, [])

/-- A number with a point or an exponent, from what stands in front of it and
behind it; it has to be one of double precision. -/
def real? (cs rest : List Char) : Option (Value × List Char) :=
  if exceedsDouble (cs.take (cs.length - rest.length)) then none else some (.other, rest)

/-- A decimal number at the front, after its sign. -/
def number? (negative : Bool) (cs : List Char) : Option (Value × List Char) :=
  let (digits, rest) := whole cs
  match rest with
  | '.' :: more =>
      if digits.isEmpty && (more.takeWhile Char.isDigit).isEmpty then none
      else real? cs (exponent (more.dropWhile Char.isDigit)).2
  | _ =>
      if digits.isEmpty then none
      else match exponent rest with
        | (true, after) => real? cs after
        | (false, after) =>
            let n := Int.ofNat (decimalValue digits)
            (Value.ofSigned? (if negative then -n else n)).map fun v => (v, after)

/-- A number without a plus sign, or one of the two that have no digits. -/
def unsigned? (negative : Bool) (cs : List Char) : Option (Value × List Char) :=
  match ['I', 'n', 'f', 'i', 'n', 'i', 't', 'y'].isPrefixOf? cs, ['N', 'a', 'N'].isPrefixOf? cs with
  | some rest, _ => some (.other, rest)
  | none, some rest => some (.other, rest)
  | none, none => number? negative cs

/-- The value of hexadecimal digits that fit in thirty-two bits. -/
def hex? (cs : List Char) : Option (Value × List Char) :=
  let digits := cs.takeWhile fun c => (hexValue? c).isSome
  match hexNumber? digits with
  | some n => if n < UInt32.size then some (.integer n, cs.drop digits.length) else none
  | none => none

mutual

/-- A value at the front. -/
def value? : Nat → List Char → Option (Value × List Char)
  | 0, _ => none
  | fuel + 1, cs =>
      match cs with
      | '\x7b' :: rest => (object? fuel (skipAll rest)).map fun (_, after) => (.other, after)
      | '[' :: rest => (list? fuel (skipAll rest)).map fun after => (.other, after)
      | '"' :: _ => (text? cs).map fun (s, after) => (.text s, after)
      | '\'' :: _ => (text? cs).map fun (s, after) => (.text s, after)
      | 'n' :: 'u' :: 'l' :: 'l' :: rest => some (.null, rest)
      | 't' :: 'r' :: 'u' :: 'e' :: rest => some (.other, rest)
      | 'f' :: 'a' :: 'l' :: 's' :: 'e' :: rest => some (.other, rest)
      | '0' :: 'x' :: rest => hex? rest
      | '0' :: 'X' :: rest => hex? rest
      | '+' :: rest => number? false rest
      | '-' :: rest => unsigned? true rest
      | _ => unsigned? false cs

/-- The rest of a list after its opening bracket or a comma. -/
def list? : Nat → List Char → Option (List Char)
  | 0, _ => none
  | _ + 1, ']' :: rest => some rest
  | fuel + 1, cs =>
      (value? fuel cs).bind fun (_, after) =>
        match skipAll after with
        | ',' :: rest => list? fuel (skipAll rest)
        | ']' :: rest => some rest
        | _ => none

/-- The rest of an object after its opening brace or a comma: its entries in
order, and what follows it. -/
def object? : Nat → List Char → Option (Layer × List Char)
  | 0, _ => none
  | _ + 1, '\x7d' :: rest => some ([], rest)
  | fuel + 1, cs =>
      (key? cs).bind fun (key, after) =>
        match skipAll after with
        | ':' :: rest =>
            (value? fuel (skipAll rest)).bind fun (v, behind) =>
              match skipAll behind with
              | ',' :: next =>
                  (object? fuel (skipAll next)).map fun (entries, last) =>
                    ((key, v) :: entries, last)
              | '\x7d' :: last => some ([(key, v)], last)
              | _ => none
        | _ => none

end

/-- The entries of a document, which has to be one object.  Of several values for
one key the last counts. -/
def read? (text : String) : Option Layer :=
  match skipAll text.toList with
  | '\x7b' :: rest =>
      (object? (2 * rest.length + 2) (skipAll rest)).bind fun (entries, after) =>
        if (skipAll after).isEmpty then some entries.reverse else none
  | _ => none

end VolumeAttach.Json5
