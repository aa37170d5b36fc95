/-
Module: VolumeAttach.Settings.Toml
Purpose: Settings files in TOML.
Main exports: Toml.Item, Toml.document?, Toml.read?
-/
import VolumeAttach.Settings.Toml.Scalar

namespace VolumeAttach.Toml

open Text

/-!
A document is a sequence of lines: headers, which say to which table the lines
below them belong, and assignments.  No key may be given twice, and a table may
be opened by a header only once.  How a table came into being decides what may
be added to it later: a table that is only on the way to another may still be
opened by a header, a table that dotted keys made may not, and a table or list
written out as a value is closed at once.
-/

/-- How a table came into being. -/
inductive Origin where
  /-- By a header of its own. -/
  | opened
  /-- On the way to a table with a header. -/
  | passed
  /-- By a dotted key. -/
  | dotted
deriving Repr, DecidableEq

/-- What a key stands for. -/
inductive Item where
  | value (v : Value)
  | table (origin : Origin) (items : List (String × Item))
  /-- A list of tables with headers; only the last of them can still grow. -/
  | tables (last : List (String × Item))

/-- The contents of a table. -/
abbrev Items := List (String × Item)

/-- Put an item in the place of the one that a key has. -/
def replaceItem (items : Items) (key : String) (item : Item) : Items :=
  items.map fun entry => if entry.1 = key then (key, item) else entry

/-- Change the table to which a header's path leads, making the tables on the
way. -/
def within (change : Items → Option Items) : List String → Items → Option Items
  | [], items => change items
  | key :: path, items =>
      match items.lookup key with
      | none => (within change path []).map fun made => items ++ [(key, .table .passed made)]
      | some (.table origin inner) =>
          (within change path inner).map fun made =>
            replaceItem items key (.table origin made)
      | some (.tables last) =>
          (within change path last).map fun made => replaceItem items key (.tables made)
      | some (.value _) => none

/-- Give a key its value, making the tables that its dots ask for. -/
def assign (v : Value) : List String → Items → Option Items
  | [], _ => none
  | [key], items =>
      match items.lookup key with
      | none => some (items ++ [(key, .value v)])
      | some _ => none
  | key :: path, items =>
      match items.lookup key with
      | none => (assign v path []).map fun made => items ++ [(key, .table .dotted made)]
      | some (.table .dotted inner) =>
          (assign v path inner).map fun made => replaceItem items key (.table .dotted made)
      | some (.table .passed inner) =>
          if path.length = 1 then none
          else (assign v path inner).map fun made =>
            replaceItem items key (.table .passed made)
      | _ => none

/-- Open a table by a header. -/
def openTable (key : String) (items : Items) : Option Items :=
  match items.lookup key with
  | none => some (items ++ [(key, .table .opened [])])
  | some (.table .passed inner) => some (replaceItem items key (.table .opened inner))
  | _ => none

/-- Open one more table of a list by a header. -/
def openNext (key : String) (items : Items) : Option Items :=
  match items.lookup key with
  | none => some (items ++ [(key, .tables [])])
  | some (.tables _) => some (replaceItem items key (.tables []))
  | _ => none

/-- What follows a line end. -/
def afterLineBreak? : List Char → Option (List Char)
  | '\n' :: rest => some rest
  | '\r' :: '\n' :: rest => some rest
  | _ => none

/-- The gaps and a comment at the front are left out; a comment must not hold a
control character. -/
def skipComment? (cs : List Char) : Option (List Char) :=
  match skipGaps cs with
  | '#' :: rest =>
      let isEnd (c : Char) : Bool := c == '\n' || c == '\r'
      if (rest.takeWhile fun c => !isEnd c).any isForbidden then none
      else some (rest.dropWhile fun c => !isEnd c)
  | start => some start

/-- Leave out gaps, comments and line ends, as between the parts of a list. -/
def skipLines? : Nat → List Char → Option (List Char)
  | 0, _ => none
  | fuel + 1, cs =>
      (skipComment? cs).bind fun start =>
        match afterLineBreak? start with
        | some rest => skipLines? fuel rest
        | none => some start

mutual

/-- A value at the front, within `depth` others. -/
def value? : Nat → Nat → List Char → Option (Value × List Char)
  | 0, _, _ => none
  | fuel + 1, depth, cs =>
      match cs with
      | '[' :: rest =>
          if depth + 1 < depthLimit then
            (list? fuel (depth + 1) rest).map fun after => (.other, after)
          else none
      | '\x7b' :: rest =>
          if depth + 1 < depthLimit then
            match skipGaps rest with
            | '\x7d' :: after => some (.other, after)
            | start => (inline? fuel (depth + 1) [] start).map fun after => (.other, after)
          else none
      | '"' :: _ => (text? cs).map fun (s, after) => (.text (String.ofList s), after)
      | '\'' :: _ => (text? cs).map fun (s, after) => (.text (String.ofList s), after)
      | _ => token? cs

/-- The rest of a list after its opening bracket or a comma. -/
def list? : Nat → Nat → List Char → Option (List Char)
  | 0, _, _ => none
  | fuel + 1, depth, cs =>
      (skipLines? (cs.length + 1) cs).bind fun start =>
        match start with
        | ']' :: rest => some rest
        | _ => (value? fuel depth start).bind fun (_, after) =>
            (skipLines? (after.length + 1) after).bind fun next =>
              match next with
              | ',' :: rest => list? fuel depth rest
              | ']' :: rest => some rest
              | _ => none

/-- The rest of a table on one line, after its opening brace or a comma. -/
def inline? : Nat → Nat → Items → List Char → Option (List Char)
  | 0, _, _, _ => none
  | fuel + 1, depth, items, cs =>
      (key? cs).bind fun (path, after) =>
        match after with
        | '=' :: rest =>
            (value? fuel depth (skipGaps rest)).bind fun (v, behind) =>
              (assign v path items).bind fun made =>
                match skipGaps behind with
                | ',' :: next => inline? fuel depth made next
                | '\x7d' :: next => some next
                | _ => none
        | _ => none

end

/-- A document as far as it has been read. -/
structure Document where
  items : Items := []
  /-- The table to which the next assignments belong. -/
  scope : List String := []

/-- A header at the front, after its first bracket. -/
def header? (d : Document) (cs : List Char) : Option (Document × List Char) :=
  match cs with
  | '[' :: rest =>
      (key? rest).bind fun (path, after) =>
        match after with
        | ']' :: ']' :: last =>
            (within (openNext (path.getLastD "")) path.dropLast d.items).map fun items =>
              (⟨items, path⟩, last)
        | _ => none
  | _ =>
      (key? cs).bind fun (path, after) =>
        match after with
        | ']' :: last =>
            (within (openTable (path.getLastD "")) path.dropLast d.items).map fun items =>
              (⟨items, path⟩, last)
        | _ => none

/-- An assignment at the front. -/
def assignment? (d : Document) (cs : List Char) : Option (Document × List Char) :=
  (key? cs).bind fun (path, after) =>
    match after with
    | '=' :: rest =>
        (value? (2 * rest.length + 2) 0 (skipGaps rest)).bind fun (v, behind) =>
          (within (assign v path) d.scope d.items).map fun items =>
            ({ d with items := items }, behind)
    | _ => none

/-- Read lines up to the end of the text. -/
def lines : Nat → Document → List Char → Option Document
  | 0, _, _ => none
  | fuel + 1, d, cs =>
      let statement? : Option (Document × List Char) :=
        match skipGaps cs with
        | [] => some (d, [])
        | '#' :: rest => some (d, '#' :: rest)
        | '\n' :: rest => some (d, '\n' :: rest)
        | '\r' :: rest => some (d, '\r' :: rest)
        | '[' :: rest => header? d rest
        | start => assignment? d start
      statement?.bind fun (next, behind) =>
        (skipComment? behind).bind fun finish =>
          match finish with
          | [] => some next
          | _ => (afterLineBreak? finish).bind fun rest => lines fuel next rest

/-- A document from its text; a byte order mark in front does not count. -/
def document? (cs : List Char) : Option Items :=
  let body := match cs with
    | '\ufeff' :: rest => rest
    | _ => cs
  (lines (body.length + 1) {} body).map Document.items

/-- The value of an item, as far as a setting can take it. -/
def Item.toValue : Item → Value
  | .value v => v
  | .table _ _ => .other
  | .tables _ => .other

/-- The values of a document by their keys outside all tables. -/
def read? (text : String) : Option Layer :=
  (document? text.toList).map fun items => items.map fun (key, item) => (key, item.toValue)

end VolumeAttach.Toml
