/-
Module: VolumeAttach.Settings.Yaml
Purpose: Settings files in YAML.
Main exports: Yaml.plainValue, Yaml.value?, Yaml.read?
-/
import VolumeAttach.Settings.Value
import VolumeAttach.Settings.Yaml.Node
import VolumeAttach.Text.Decimal
import VolumeAttach.Text.DoubleRange

namespace VolumeAttach.Yaml

open Text

/-!
A plain text is a truth value or a number where it looks like one, and a text
otherwise; what means nothing in YAML, such as a tilde, is a text too.  Texts in
quotes and in blocks are texts always.  A tag changes nothing, except that the
tag for nothing makes any text nothing, and that a text in quotes or in a block
must not carry the tag of a value of another kind.

The key `<<` lays a table under the one that it stands in: what that table says
itself holds before all that is merged into it.
-/

/-! ### Plain texts -/

/-- A text in lower case. -/
def lowered (cs : List Char) : List Char := cs.map Char.toLower

/-- Digits of a base without the underscores among them. -/
def digits? (base : Nat) (cs : List Char) : Option Nat :=
  let bare := cs.filter (· != '_')
  let isDigit (c : Char) : Bool := (hexValue? c).any (· < base)
  if bare.isEmpty || !bare.all isDigit then none else some (numberIn base bare)

/-- A whole number without sign, in one of four bases. -/
def natural? (cs : List Char) : Option Nat :=
  match cs with
  | '0' :: mark :: digits =>
      if mark == 'x' || mark == 'X' then digits? 16 digits
      else if mark == 'o' || mark == 'O' then digits? 8 digits
      else if mark == 'b' || mark == 'B' then digits? 2 digits
      else digits? 10 cs
  | _ => digits? 10 cs

/-- A whole number that fits in sixty-four bits. -/
def integer? (cs : List Char) : Option Value :=
  (natural? (dropSign cs)).bind fun n =>
    if cs.head? = some '-' then Value.ofSigned? (-(Int.ofNat n))
    else Value.ofWord? (Int.ofNat n)

/-- An exponent after the digits of a number, or nothing. -/
def isExponent : List Char → Bool
  | [] => true
  | c :: rest =>
      (c == 'e' || c == 'E') && !(dropSign rest).isEmpty && (dropSign rest).all Char.isDigit

/-- A decimal number without sign, with digits in front of its point or behind it. -/
def isDecimal (cs : List Char) : Bool :=
  let whole := cs.takeWhile Char.isDigit
  match cs.dropWhile Char.isDigit with
  | '.' :: rest =>
      !(whole.isEmpty && (rest.takeWhile Char.isDigit).isEmpty) &&
        isExponent (rest.dropWhile Char.isDigit)
  | rest => !whole.isEmpty && isExponent rest

/-- A name of what is larger than all numbers. -/
def isInfinity (cs : List Char) : Bool :=
  [".inf", "inf", "infinity"].any fun name => lowered cs = name.toList

/-- A name of what is no number. -/
def isUndefined (cs : List Char) : Bool :=
  [".nan", "nan"].any fun name => lowered cs = name.toList

/-- A number that is not whole, or too large.  What double precision has no number
for is a text with a fixed spelling. -/
def real? (cs : List Char) : Option Value :=
  let body := dropSign cs
  if isUndefined body then some (.text ".nan")
  else if isInfinity body || (isDecimal body && exceedsDouble body) then
    some (.text (if cs.head? = some '-' then "-.inf" else ".inf"))
  else if isDecimal body then some .other
  else none

/-- What a plain text means.  Blanks of any script around a number do not count. -/
def plainValue (text : String) : Value :=
  let cs := trimBlank text.toList
  if lowered cs = "true".toList || lowered cs = "false".toList then .other
  else ((integer? cs).or (real? cs)).getD (.text text)

/-! ### Tables -/

/-- The long form of a tag of YAML itself. -/
def standardTag (name : String) : String := "tag:yaml.org,2002:" ++ name

/-- The tags of values that are no texts. -/
def valueTags : List String :=
  ["int", "float", "bool", "seq", "map", "binary", "timestamp"].map standardTag

/-- A plain text that stands for nothing. -/
def isNothing (isPlain : Bool) (text : String) : Bool :=
  isPlain && (text == "" || text == "~" || lowered text.toList == "null".toList)

/-- The key that lays a table under another. -/
def isMergeKey : Node → Bool
  | .scalar true _ "<<" => true
  | _ => false

/-- A key has to be a text. -/
def keyText? : Node → Option String
  | .scalar isPlain tag text =>
      if isNothing isPlain text || tag == some (standardTag "null") then none else some text
  | _ => none

/-- The entries of a table that are its own, and the nodes that are merged into it. -/
def parts (entries : List (Node × Node)) : List (Node × Node) × List Node :=
  (entries.filter fun e => !isMergeKey e.1, (entries.filter fun e => isMergeKey e.1).map (·.2))

/-- The entries that merging a node brings: those of a table, or of the tables of a
list.  What comes later holds before what comes earlier. -/
def merged? : Nat → Node → Option (List (Node × Node))
  | 0, _ => none
  | fuel + 1, n =>
      match n with
      | .scalar isPlain _ text => if isNothing isPlain text then some [] else none
      | .sequence items => (items.reverse.mapM (merged? fuel)).map List.flatten
      | .mapping entries =>
          let (own, lower) := parts entries
          (lower.reverse.mapM (merged? fuel)).map fun more => own ++ more.flatten

/-- The first entry of each key, but none of those that are seen already. -/
def firsts (seen : List String) : List (String × Node) → List (String × Node)
  | [] => []
  | (key, n) :: rest =>
      if seen.contains key then firsts seen rest else (key, n) :: firsts (key :: seen) rest

/-- Entries with their keys as texts. -/
def keyed? (entries : List (Node × Node)) : Option (List (String × Node)) :=
  entries.mapM fun (k, v) => (keyText? k).map fun key => (key, v)

/-- No key comes twice. -/
def areDistinct : List String → Bool
  | [] => true
  | key :: rest => !rest.contains key && areDistinct rest

/-- The entries of a table with what is merged into it. -/
def table? (depth : Nat) (entries : List (Node × Node)) : Option (List (String × Node)) := do
  let (own, lower) := parts entries
  let upper ← keyed? own
  let more ← keyed? (← lower.reverse.mapM (merged? depth)).flatten
  if areDistinct (upper.map (·.1)) then return upper ++ firsts (upper.map (·.1)) more else none

/-- What a node means.  Everything within it has to mean something too. -/
def value? : Nat → Node → Option Value
  | 0, _ => none
  | fuel + 1, n =>
      match n with
      | .scalar isPlain tag text =>
          if tag = some (standardTag "null") then some .null
          else if isPlain then some (plainValue text)
          else if tag.any valueTags.contains then none
          else some (.text text)
      | .sequence items => (items.mapM (value? fuel)).map fun _ => .other
      | .mapping entries => do
          let _ ← (← table? fuel entries).mapM fun (_, v) => value? fuel v
          return .other

/-- The values of a table by their keys. -/
def layer? (depth : Nat) : Node → Option Layer
  | .mapping entries => do
      (← table? depth entries).mapM fun (key, v) => (value? depth v).map fun found => (key, found)
  | _ => none

/-- The characters of a text, without the mark of byte order in front and without
what follows a zero. -/
def characters (text : String) : List Char :=
  let cs := match text.toList with
    | '\ufeff' :: rest => rest
    | cs => cs
  cs.takeWhile (· != '\x00')

/-- The values of a document by their keys. -/
def read? (text : String) : Option Layer := do
  let tokens := Token.ofText (characters text)
  layer? (tokens.length + 2) (← Node.ofTokens? tokens)

end VolumeAttach.Yaml
