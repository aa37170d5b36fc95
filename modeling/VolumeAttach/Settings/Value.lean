/-
Module: VolumeAttach.Settings.Value
Purpose: The values that a source of settings gives.
Main exports: Value, Value.ofSigned?, Value.ofWord?, Layer, Layer.over
-/

namespace VolumeAttach

/-- A value as a source gives it, before it is known which setting it is for. -/
inductive Value where
  | text (s : String)
  /-- One character, which only environment variables can give. -/
  | character (c : Char)
  | integer (n : Int)
  | null
  /-- A value that no setting takes: a truth value, a number with a point or an
  exponent, a moment in time, a list or a table. -/
  | other
deriving Repr, DecidableEq

/-- A whole number, if sixty-four bits with a sign hold it. -/
def Value.ofSigned? (n : Int) : Option Value :=
  if -0x8000000000000000 ≤ n ∧ n < 0x8000000000000000 then some (.integer n) else none

/-- A whole number, if sixty-four bits with or without a sign hold it. -/
def Value.ofWord? (n : Int) : Option Value :=
  if -0x8000000000000000 ≤ n ∧ n < UInt64.size then some (.integer n) else none

/-- The values of one source by key; of several values for one key the first
counts. -/
abbrev Layer := List (String × Value)

/-- The values of a layer laid over another. -/
def Layer.over (upper lower : Layer) : Layer := upper ++ lower

end VolumeAttach
