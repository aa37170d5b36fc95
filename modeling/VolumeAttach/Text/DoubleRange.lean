/-
Module: VolumeAttach.Text.DoubleRange
Purpose: Whether a decimal number is too large for double precision.
Main exports: decimalValue, PlainNumber, PlainNumber.ofText, exceedsDouble
-/

namespace VolumeAttach.Text

/-!
A decimal number is rounded to the nearest number of double precision.  From
halfway between the largest of these and the next power of two on there is none,
and the number counts as infinite.  The comparison is made in whole numbers.  It
first looks at how many digits the number has in front of its point, so that an
exponent of any size costs nothing.
-/

/-- The value of decimal digits. -/
def decimalValue (cs : List Char) : Nat :=
  cs.foldl (fun n c => 10 * n + (c.toNat - '0'.toNat)) 0

/-- A number without sign as whole digits and a power of ten. -/
structure PlainNumber where
  /-- Digits, the first of which is not zero. -/
  digits : List Char
  exponent : Int

/-- The whole number that a text with or without sign stands for. -/
def signedValue (cs : List Char) : Int :=
  match cs with
  | '-' :: rest => -(Int.ofNat (decimalValue rest))
  | '+' :: rest => Int.ofNat (decimalValue rest)
  | _ => Int.ofNat (decimalValue cs)

/-- The number that digits, a point among them and an exponent behind them stand
for.  Underscores between the digits do not count. -/
def PlainNumber.ofText (cs : List Char) : PlainNumber :=
  let isMark (c : Char) : Bool := c == 'e' || c == 'E'
  let mantissa := (cs.takeWhile fun c => !isMark c).filter (· != '_')
  let exponent := ((cs.dropWhile fun c => !isMark c).drop 1).filter (· != '_')
  let whole := mantissa.takeWhile (· != '.')
  let fraction := (mantissa.dropWhile (· != '.')).drop 1
  ⟨(whole ++ fraction).dropWhile (· == '0'), signedValue exponent - Int.ofNat fraction.length⟩

/-- The least number that is too large for double precision. -/
def doubleBound : Nat := Nat.pow 2 1024 - Nat.pow 2 970

/-- A number that has no neighbour in double precision. -/
def PlainNumber.exceedsDouble (n : PlainNumber) : Bool :=
  let places := Int.ofNat n.digits.length + n.exponent
  if n.digits.isEmpty || places ≤ 308 then false
  else if 309 < places then true
  else if 0 ≤ n.exponent then
    decide (doubleBound ≤ decimalValue n.digits * Nat.pow 10 n.exponent.toNat)
  else decide (doubleBound * Nat.pow 10 (-n.exponent).toNat ≤ decimalValue n.digits)

/-- A decimal number without sign that is too large for double precision. -/
def exceedsDouble (cs : List Char) : Bool := (PlainNumber.ofText cs).exceedsDouble

end VolumeAttach.Text
