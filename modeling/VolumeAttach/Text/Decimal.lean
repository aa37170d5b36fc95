/-
Module: VolumeAttach.Text.Decimal
Purpose: Reading a decimal number that has to fit in sixty-four bits.
Main exports: DecimalError, digit?, dropSign, readDigits, readWord
-/

namespace VolumeAttach.Text

/-!
A number is an optional plus sign and one or more ASCII digits.  It is read
from the left, and the first position at which reading cannot go on decides
the cause: a character that is no digit, or a digit that takes the value past
the largest word.
-/

/-- Why a text is not a decimal word. -/
inductive DecimalError where
  | empty
  | invalidDigit
  | tooLarge
deriving Repr, DecidableEq

/-- The wording of a cause. -/
def DecimalError.message : DecimalError → String
  | .empty => "cannot parse integer from empty string"
  | .invalidDigit => "invalid digit found in string"
  | .tooLarge => "number too large to fit in target type"

/-- The value of an ASCII digit. -/
def digit? (c : Char) : Option Nat :=
  if c.isDigit then some (c.toNat - '0'.toNat) else none

/-- What follows a sign, if there is one. -/
def dropSign : List Char → List Char
  | '+' :: rest => rest
  | '-' :: rest => rest
  | cs => cs

/-- The value of a digit string continued from `value`, as long as it stays
below `UInt64.size`. -/
def readDigits (value : Nat) : List Char → Except DecimalError Nat
  | [] => .ok value
  | c :: rest =>
      match digit? c with
      | none => .error .invalidDigit
      | some d =>
          if 10 * value + d < UInt64.size then readDigits (10 * value + d) rest
          else .error .tooLarge

/-- Read an optional plus sign and digits as one word.  A sign alone is no
number, and a minus sign is no digit. -/
def readWord (cs : List Char) : Except DecimalError Nat :=
  match cs with
  | [] => .error .empty
  | ['+'] => .error .invalidDigit
  | '+' :: digits => readDigits 0 digits
  | digits => readDigits 0 digits

end VolumeAttach.Text
