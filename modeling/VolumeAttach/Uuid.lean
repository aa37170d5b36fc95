/-
Module: VolumeAttach.Uuid
Purpose: Universally unique identifiers, their spellings and what is wrong
  with a text that is none of them.
Main exports: Uuid, Uuid.text, Uuid.parse, UuidError, UuidError.message
-/
import VolumeAttach.Text.Hex
import VolumeAttach.Text.Pieces

namespace VolumeAttach

open Text

/-!
An identifier is thirty-two hexadecimal digits.  It is written in lower case
in five groups with hyphens between them.  It is read in four spellings, each
in any case: the digits alone, the five groups, the groups in braces, and the
groups behind `urn:uuid:`.  Nothing is trimmed.

Lengths and positions in messages count bytes.  Every accepted spelling is
plain ASCII, where a character is one byte.
-/

/-- An identifier as its thirty-two hexadecimal digits. -/
structure Uuid where
  digits : List (Fin 16)
  length_digits : digits.length = 32
deriving DecidableEq

instance : Repr Uuid where
  reprPrec u n := reprPrec (u.digits.map (·.val)) n

namespace Uuid

/-- The lower-case character of a hexadecimal digit. -/
def hexChar (d : Fin 16) : Char := Nat.digitChar d.val

/-- The value of a hexadecimal digit in either case. -/
def hexDigit? (c : Char) : Option (Fin 16) :=
  (hexValue? c).map (Fin.ofNat 16)

/-- Writing a digit and reading it gives the digit. -/
@[simp] theorem hexDigit?_hexChar (d : Fin 16) : hexDigit? (hexChar d) = some d := by
  revert d
  decide

/-- The lengths of the five groups. -/
def groupLengths : List Nat := [8, 4, 4, 4, 12]

/-- Five groups of lower-case digits with hyphens between them. -/
def chars (u : Uuid) : List Char :=
  let cs := u.digits.map hexChar
  cs.take 8 ++ '-' :: (cs.drop 8).take 4 ++ '-' :: (cs.drop 12).take 4 ++
    '-' :: (cs.drop 16).take 4 ++ '-' :: cs.drop 20

/-- The written form of an identifier. -/
def text (u : Uuid) : String := String.ofList u.chars

/-- Thirty-two hexadecimal digits and nothing else. -/
def ofDigits? (cs : List Char) : Option Uuid :=
  match cs.mapM hexDigit? with
  | none => none
  | some digits => if h : digits.length = 32 then some ⟨digits, h⟩ else none

/-- Digits in groups of the right lengths. -/
def ofGroups? (cs : List Char) : Option Uuid :=
  if (pieces '-' cs).map List.length = groupLengths then ofDigits? (pieces '-' cs).flatten else none

end Uuid

/-- What is wrong with a text that should be an identifier. -/
inductive UuidError where
  | length (found : Nat)
  | character (found : Char) (index : Nat)
  | groupCount (found : Nat)
  | groupLength (group expected found : Nat)
deriving Repr, DecidableEq

/-- The wording of a fault. -/
def UuidError.message : UuidError → String
  | .length found => "invalid length: found " ++ toString found
  | .character found index =>
      "invalid character: found `" ++ String.singleton found ++ "` at " ++ toString index
  | .groupCount found => "invalid group count: expected 5, found " ++ toString found
  | .groupLength group expected found =>
      "invalid group length in group " ++ toString group ++ ": expected " ++
        toString expected ++ ", found " ++ toString found

namespace Uuid

/-- How many bytes a character list takes up. -/
def byteLength : List Char → Nat
  | [] => 0
  | c :: rest => c.utf8Size + byteLength rest

/-- The first of the four expected hyphens that stands elsewhere, as its group,
the group's length and the length found. -/
def misplaced? : List Nat → Option (Nat × Nat × Nat)
  | [a, b, c, d] =>
      if a ≠ 8 then some (0, 8, a)
      else if b ≠ 13 then some (1, 4, b - 9)
      else if c ≠ 18 then some (2, 4, c - 14)
      else if d ≠ 23 then some (3, 4, d - 19)
      else none
  | _ => none

/-- The positions of the hyphens among hexadecimal digits, counted from the
start of the list; `before` characters of the text precede the list. -/
def hyphens (before position : Nat) : List Char → Except UuidError (List Nat)
  | [] => .ok []
  | c :: rest =>
      if c = '-' then (hyphens before (position + 1) rest).map (position :: ·)
      else if (hexDigit? c).isSome then hyphens before (position + 1) rest
      else .error (.character c (before + position))

/-- How the digits of a text are wrapped. -/
inductive Wrapping where
  | unknown
  | grouped
  | braced
  | urn
deriving Repr, DecidableEq

/-- The scheme and namespace in front of an identifier that is a URN. -/
def urnMark : List Char := ['u', 'r', 'n', ':', 'u', 'u', 'i', 'd', ':']

/-- What follows the URN mark, in any case of its letters. -/
def afterUrnMark? (cs : List Char) : Option (List Char) :=
  if (cs.take 9).map Char.toLower = urnMark then some (cs.drop 9) else none

/-- What stands between two braces. -/
def insideBraces? : List Char → Option (List Char)
  | '\x7b' :: rest => if rest.getLast? = some '\x7d' then some rest.dropLast else none
  | _ => none

/-- The fault of a text that is no identifier. -/
def fault (grouped : Bool) (cs : List Char) : UuidError :=
  let size := byteLength cs
  if size = 0 ∨ 45 < size then .length size
  else
    let (wrapping, before, part) : Wrapping × Nat × List Char :=
      if grouped then (.grouped, 0, cs)
      else match insideBraces? cs with
        | some part => (.braced, 1, part)
        | none =>
            match afterUrnMark? cs with
            | some part => (.urn, 9, part)
            | none => (.unknown, 0, cs)
    match hyphens before 0 part with
    | .error e => e
    | .ok found =>
        if wrapping = .unknown ∧ found = [] then .length size
        else if found.length ≠ 4 then .groupCount (found.length + 1)
        else match misplaced? found with
          | some (group, expected, length) => .groupLength group expected length
          | none => .groupLength 4 12 (size - 24)

/-- The five groups inside a text of one of the three grouped spellings, told
by its length alone. -/
def groupedPart? (cs : List Char) : Option (List Char) :=
  match byteLength cs with
  | 36 => some cs
  | 38 => insideBraces? cs
  | 45 => afterUrnMark? cs
  | _ => none

/-- Read an identifier in any of its spellings. -/
def parseChars (cs : List Char) : Except UuidError Uuid :=
  match groupedPart? cs with
  | some part => match ofGroups? part with
      | some u => .ok u
      | none => .error (fault true part)
  | none => match ofDigits? cs with
      | some u => .ok u
      | none => .error (fault false cs)

/-- Read an identifier from a text. -/
def parse (s : String) : Except UuidError Uuid := parseChars s.toList

end Uuid
end VolumeAttach
