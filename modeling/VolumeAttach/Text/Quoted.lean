/-
Module: VolumeAttach.Text.Quoted
Purpose: Texts, sets of names and time spans as a diagnostic writes them.
Main exports: quoteChar, quote, braced, span
-/
import VolumeAttach.Text.Unprintable

namespace VolumeAttach.Text

/-!
Diagnostics carry every value as text.  A name inside a set is quoted, so that
the boundaries between names stay visible whatever the names hold: the double
quote and the backslash are escaped, five controls have a letter of their own,
and every other character without a shape is given by its number.
-/

/-- Lower-case hexadecimal digits of a number, without leading zeros. -/
def hexDigits (n : Nat) : List Char := Nat.toDigits 16 n

/-- One character inside double quotes. -/
def quoteChar (c : Char) : List Char :=
  match c with
  | '"' => ['\\', '"']
  | '\\' => ['\\', '\\']
  | '\n' => ['\\', 'n']
  | '\r' => ['\\', 'r']
  | '\t' => ['\\', 't']
  | '\x00' => ['\\', '0']
  | _ => if isUnprintable c then '\\' :: 'u' :: '\x7b' :: (hexDigits c.toNat ++ ['\x7d']) else [c]

/-- A text in double quotes. -/
def quote (s : String) : String :=
  String.ofList ('"' :: (s.toList.flatMap quoteChar ++ ['"']))

/-- A list of texts in braces, each quoted. -/
def braced (names : List String) : String :=
  "\x7b" ++ ", ".intercalate (names.map quote) ++ "\x7d"

/-- Leave out the zeros at the end of a run of digits. -/
def dropTrailingZeros (digits : List Char) : List Char :=
  (digits.reverse.dropWhile (· == '0')).reverse

/-- Three digits of a number below one thousand. -/
def threeDigits (n : Nat) : List Char :=
  [Nat.digitChar (n / 100 % 10), Nat.digitChar (n / 10 % 10), Nat.digitChar (n % 10)]

/-- A span of whole milliseconds.  Below one second it is written in
milliseconds, from there on in seconds with as many decimal places as the span
needs; no time at all is written in the finest unit. -/
def span (milliseconds : Nat) : String :=
  if milliseconds = 0 then "0ns"
  else if milliseconds < 1000 then toString milliseconds ++ "ms"
  else
    let fraction := dropTrailingZeros (threeDigits (milliseconds % 1000))
    let decimals := if fraction.isEmpty then "" else "." ++ String.ofList fraction
    toString (milliseconds / 1000) ++ decimals ++ "s"

end VolumeAttach.Text
