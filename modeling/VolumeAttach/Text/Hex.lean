/-
Module: VolumeAttach.Text.Hex
Purpose: Hexadecimal digits and the characters that they number.
Main exports: hexValue?, hexNumber?, numberIn, scalar?, escaped?
-/

namespace VolumeAttach.Text

/-- The value of a hexadecimal digit in either case. -/
def hexValue? (c : Char) : Option Nat :=
  if '0' ≤ c ∧ c ≤ '9' then some (c.toNat - '0'.toNat)
  else if 'a' ≤ c ∧ c ≤ 'f' then some (c.toNat - 'a'.toNat + 10)
  else if 'A' ≤ c ∧ c ≤ 'F' then some (c.toNat - 'A'.toNat + 10)
  else none

/-- The value of one or more hexadecimal digits. -/
def hexNumber? (cs : List Char) : Option Nat :=
  if cs = [] then none
  else cs.foldlM (fun n c => (hexValue? c).map fun d => 16 * n + d) 0

/-- The number that digits of a base up to sixteen stand for. -/
def numberIn (base : Nat) (digits : List Char) : Nat :=
  digits.foldl (fun n c => base * n + (hexValue? c).getD 0) 0

/-- The character with a given number.  Surrogates and numbers past the last
plane have none. -/
def scalar? (n : Nat) : Option Char :=
  if h : n.isValidChar then some (Char.ofNatAux n h) else none

/-- The character that the next `width` hexadecimal digits number, and what
follows them. -/
def escaped? (width : Nat) (cs : List Char) : Option (Char × List Char) :=
  if (cs.take width).length = width then
    ((hexNumber? (cs.take width)).bind scalar?).map fun c => (c, cs.drop width)
  else none

end VolumeAttach.Text
