/-
Module: VolumeAttach.Command.Listing
Purpose: A list of devices as lines and as JSON.
Main exports: DeviceEntry, Listing.lines, Listing.json
-/

namespace VolumeAttach

/-- A device with its size in bytes. -/
structure DeviceEntry where
  name : String
  size : UInt64
deriving Repr, DecidableEq

namespace Listing

/-- One hexadecimal digit. -/
def hexDigit (n : Nat) : Char := Nat.digitChar (n % 16)

/-- One character of a JSON text. -/
def escapeChar (c : Char) : List Char :=
  match c with
  | '"' => ['\\', '"']
  | '\\' => ['\\', '\\']
  | '\x08' => ['\\', 'b']
  | '\x0c' => ['\\', 'f']
  | '\n' => ['\\', 'n']
  | '\r' => ['\\', 'r']
  | '\t' => ['\\', 't']
  | _ =>
      if c.toNat < 0x20 then ['\\', 'u', '0', '0', hexDigit (c.toNat / 16), hexDigit c.toNat]
      else [c]

/-- A JSON text. -/
def jsonText (s : String) : String :=
  String.ofList ('"' :: (s.toList.flatMap escapeChar ++ ['"']))

/-- A device as a JSON object. -/
def jsonEntry (e : DeviceEntry) : String :=
  "  \x7b\n    \"name\": " ++ jsonText e.name ++ ",\n    \"size\": " ++
    toString e.size.toNat ++ "\n  \x7d"

/-- A JSON array with one object for each device, two blanks to a level. -/
def json (entries : List DeviceEntry) : String :=
  if entries.isEmpty then "[]\n"
  else "[\n" ++ ",\n".intercalate (entries.map jsonEntry) ++ "\n]\n"

/-- A device as a line, with a tab between name and size. -/
def line (e : DeviceEntry) : String := e.name ++ "\t" ++ toString e.size.toNat ++ "\n"

/-- One line for each device. -/
def lines (entries : List DeviceEntry) : String := String.join (entries.map line)

end Listing
end VolumeAttach
