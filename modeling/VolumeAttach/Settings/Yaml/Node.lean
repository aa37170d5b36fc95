/-
Module: VolumeAttach.Settings.Yaml.Node
Purpose: The tree that the tokens of a YAML document describe.
Main exports: Yaml.Node, Yaml.Node.ofTokens?
-/
import VolumeAttach.Settings.Yaml.Token

namespace VolumeAttach.Yaml

/-!
A document holds one node.  An anchor gives a node a name by which aliases
further on repeat it; a node cannot repeat itself from within.  Where a value or
a key is left out, a plain tilde stands for it.

A stream may hold several documents, but only the first of them is read.  What
follows must not be a second one.  If nothing can be made of what follows, it
does not count, as long as the first document has ended before it.
-/

/-- A node of a document. -/
inductive Node where
  /-- A text, whether it is plain, and the long form of its tag. -/
  | scalar (isPlain : Bool) (tag : Option String) (text : String)
  | sequence (items : List Node)
  | mapping (entries : List (Node × Node))
deriving Repr, Inhabited

/-- What stands for a node that is left out. -/
def Node.leftOut : Node := .scalar true none "~"

mutual

/-- The number of nodes in a tree, lists and tables counting twice. -/
def Node.size : Node → Nat
  | .scalar _ _ _ => 1
  | .sequence items => 2 + sizeOfItems items
  | .mapping entries => 2 + sizeOfEntries entries

/-- The number of nodes in the parts of a list. -/
def sizeOfItems : List Node → Nat
  | [] => 0
  | n :: rest => n.size + sizeOfItems rest

/-- The number of nodes in the keys and values of a table. -/
def sizeOfEntries : List (Node × Node) → Nat
  | [] => 0
  | (k, v) :: rest => k.size + v.size + sizeOfEntries rest

end

/-- A document that is being read. -/
structure Reading where
  tokens : List Token
  /-- The nodes with anchors, the latest first.  A node that is still being read has
  none yet. -/
  anchors : List (String × Option Node) := []
  /-- What the handles of tags stand for. -/
  handles : List (String × String) := []
  /-- How many more nodes aliases may repeat. -/
  repeats : Nat := 1000000

namespace Reading

/-- Go over the next token. -/
def skip (r : Reading) : Reading := { r with tokens := r.tokens.tail }

/-- The long form of a tag.  A handle between exclamation marks has to be declared,
but for the one that stands for the tags of YAML itself. -/
def longTag? (r : Reading) (handle suffix : String) : Option String :=
  match r.handles.lookup handle with
  | some meaning => some (meaning ++ suffix)
  | none =>
      if handle = "!!" then some ("tag:yaml.org,2002:" ++ suffix)
      else if isClosedHandle handle.toList then none
      else some (handle ++ suffix)

/-- A tag at the front. -/
def tag? (r : Reading) : Option (Option String × Reading) :=
  match r.tokens with
  | .tag handle suffix :: _ => (r.longTag? handle suffix).map fun t => (some t, r.skip)
  | _ => some (none, r)

/-- An anchor at the front. -/
def anchor (r : Reading) : Option String × Reading :=
  match r.tokens with
  | .anchor name :: _ => (some name, { r.skip with anchors := (name, none) :: r.anchors })
  | _ => (none, r)

/-- An anchor and a tag at the front, in either order. -/
def properties? (r : Reading) : Option (Option String × Option String × Reading) :=
  match r.anchor with
  | (some name, behind) => (behind.tag?).map fun (tag, last) => (some name, tag, last)
  | (none, _) => (r.tag?).map fun (tag, behind) => match tag with
      | none => (none, none, behind)
      | some long =>
          let (name, last) := behind.anchor
          (name, some long, last)

/-- Give a node the name of its anchor. -/
def named (r : Reading) (anchor : Option String) (n : Node) : Reading :=
  match anchor with
  | some name => { r with anchors := (name, some n) :: r.anchors }
  | none => r

/-- The node that an alias repeats. -/
def repeated? (r : Reading) (name : String) : Option (Node × Reading) :=
  match r.anchors.lookup name with
  | some (some n) =>
      if n.size ≤ r.repeats then some (n, { r.skip with repeats := r.repeats - n.size })
      else none
  | _ => none

end Reading

/-- A token that ends a key of a table made by indentation. -/
def endsBlockKey : Option Token → Bool
  | some .key => true
  | some .value => true
  | some .blockEnd => true
  | _ => false

/-- A token that ends a part of a list made by indentation. -/
def endsItem (indentless : Bool) : Option Token → Bool
  | some .item => true
  | some .blockEnd => true
  | some .key => indentless
  | some .value => indentless
  | _ => false

mutual

/-- The node at the front.  Lists and tables made by indentation need `inBlock`, and
a list that is not indented further than the table around it `indentless`. -/
def node? (inBlock indentless : Bool) : Nat → Reading → Option (Node × Reading)
  | 0, _ => none
  | fuel + 1, r =>
      match r.tokens with
      | .repetition name :: _ => r.repeated? name
      | _ => do
          let (anchor, tag, start) ← r.properties?
          let (n, last) ← content? inBlock indentless (anchor.isSome || tag.isSome) tag fuel start
          return (n, last.named anchor n)

/-- The node at the front behind its anchor and its tag. -/
def content? (inBlock indentless hasProperties : Bool) (tag : Option String) :
    Nat → Reading → Option (Node × Reading)
  | 0, _ => none
  | fuel + 1, r =>
      let empty? : Option (Node × Reading) :=
        if hasProperties then some (.scalar true tag "", r) else none
      let list (found : List Node × Reading) : Node × Reading := (.sequence found.1, found.2)
      let table (found : List (Node × Node) × Reading) : Node × Reading :=
        (.mapping found.1, found.2)
      match r.tokens with
      | .scalar isPlain text :: _ => some (.scalar isPlain tag text, r.skip)
      | .flowSequence :: _ => (flowItems? true fuel r.skip).map list
      | .flowMapping :: _ => (flowEntries? true fuel r.skip).map table
      | .item :: _ => if indentless then (items? true fuel r).map list else empty?
      | .blockSequence :: _ =>
          if inBlock then (items? false fuel r.skip).map list else empty?
      | .blockMapping :: _ =>
          if inBlock then (entries? fuel r.skip).map table else empty?
      | .broken :: _ => none
      | _ => empty?

/-- The parts of a list made by indentation. -/
def items? (indentless : Bool) : Nat → Reading → Option (List Node × Reading)
  | 0, _ => none
  | fuel + 1, r =>
      match r.tokens with
      | .item :: _ =>
          let start := r.skip
          let part? := if endsItem indentless start.tokens.head? then some (.leftOut, start)
            else node? true false fuel start
          part?.bind fun (n, behind) =>
            (items? indentless fuel behind).map fun (more, last) => (n :: more, last)
      | .broken :: _ => none
      | .blockEnd :: _ => some ([], if indentless then r else r.skip)
      | _ => if indentless then some ([], r) else none

/-- A key or a value of a table made by indentation, which may be left out. -/
def blockPart? : Nat → Reading → Option (Node × Reading)
  | 0, _ => none
  | fuel + 1, r =>
      if endsBlockKey r.tokens.head? then some (.leftOut, r) else node? true true fuel r

/-- The keys and values of a table made by indentation. -/
def entries? : Nat → Reading → Option (List (Node × Node) × Reading)
  | 0, _ => none
  | fuel + 1, r => do
      let more (k : Node) (r : Reading) : Option (List (Node × Node) × Reading) := do
        let (v, behind) ← match r.tokens with
          | .value :: _ => blockPart? fuel r.skip
          | .broken :: _ => none
          | _ => some (.leftOut, r)
        let (rest, last) ← entries? fuel behind
        return ((k, v) :: rest, last)
      match r.tokens with
      | .blockEnd :: _ => some ([], r.skip)
      | .key :: _ =>
          let (k, behind) ← blockPart? fuel r.skip
          more k behind
      | .value :: _ => more .leftOut r
      | _ => none

/-- The parts of a list in brackets; in front of all but the first stands a comma. -/
def flowItems? (isFirst : Bool) : Nat → Reading → Option (List Node × Reading)
  | 0, _ => none
  | fuel + 1, r =>
      let part? (r : Reading) : Option (List Node × Reading) := do
        let (n, behind) ← match r.tokens with
          | .key :: _ => pair? fuel r.skip
          | _ => node? false false fuel r
        let (more, last) ← flowItems? false fuel behind
        return (n :: more, last)
      match r.tokens with
      | .flowSequenceEnd :: _ => some ([], r.skip)
      | .comma :: .flowSequenceEnd :: _ => if isFirst then none else some ([], r.skip.skip)
      | .comma :: _ => if isFirst then none else part? r.skip
      | _ => if isFirst then part? r else none

/-- A single pair in a list in brackets, as a table of its own. -/
def pair? : Nat → Reading → Option (Node × Reading)
  | 0, _ => none
  | fuel + 1, r => do
      let (k, behind) ← match r.tokens with
        | .value :: _ => some (.leftOut, r.skip)
        | .comma :: _ => some (.leftOut, r.skip)
        | .flowSequenceEnd :: _ => some (.leftOut, r.skip)
        | _ => node? false false fuel r
      let (v, last) ← match behind.tokens with
        | .value :: .comma :: _ => some (.leftOut, behind.skip)
        | .value :: .flowSequenceEnd :: _ => some (.leftOut, behind.skip)
        | .value :: _ => node? false false fuel behind.skip
        | .broken :: _ => none
        | _ => some (.leftOut, behind)
      return (.mapping [(k, v)], last)

/-- The keys and values of a table in braces; in front of all but the first stands a
comma. -/
def flowEntries? (isFirst : Bool) : Nat → Reading → Option (List (Node × Node) × Reading)
  | 0, _ => none
  | fuel + 1, r =>
      let more (k v : Node) (r : Reading) : Option (List (Node × Node) × Reading) := do
        let (rest, last) ← flowEntries? false fuel r
        return ((k, v) :: rest, last)
      let valueOf (k : Node) (r : Reading) : Option (List (Node × Node) × Reading) := do
        let (v, behind) ← match r.tokens with
          | .value :: .comma :: _ => some (.leftOut, r.skip)
          | .value :: .flowMappingEnd :: _ => some (.leftOut, r.skip)
          | .value :: _ => node? false false fuel r.skip
          | .broken :: _ => none
          | _ => some (.leftOut, r)
        more k v behind
      let entry? (r : Reading) : Option (List (Node × Node) × Reading) := do
        match r.tokens with
        | .key :: .value :: _ => valueOf .leftOut r.skip
        | .key :: .comma :: _ => valueOf .leftOut r.skip
        | .key :: .flowMappingEnd :: _ => valueOf .leftOut r.skip
        | .key :: _ =>
            let (k, behind) ← node? false false fuel r.skip
            valueOf k behind
        | .value :: _ => valueOf .leftOut r
        | _ =>
            let (k, behind) ← node? false false fuel r
            more k .leftOut behind
      match r.tokens with
      | .flowMappingEnd :: _ => some ([], r.skip)
      | .comma :: .flowMappingEnd :: _ => if isFirst then none else some ([], r.skip.skip)
      | .comma :: _ => if isFirst then none else entry? r.skip
      | _ => if isFirst then entry? r else none

end

/-- Marks of the end of a document are left out. -/
def dropEnds : List Token → List Token
  | .documentEnd :: rest => dropEnds rest
  | ts => ts

/-- The directives at the head of a document: what they say about handles, and what
follows.  The version is given at most once and no handle twice. -/
def directives? (handles : List (String × String)) (hasVersion : Bool) :
    List Token → Option (List (String × String) × List Token)
  | .directive .version :: rest => if hasVersion then none else directives? handles true rest
  | .directive (.handle name meaning) :: rest =>
      if (handles.lookup name).isSome then none
      else directives? ((name, meaning) :: handles) hasVersion rest
  | .directive .unknown :: rest => directives? handles hasVersion rest
  | ts => some (handles, ts)

/-- A token that cannot begin the node of a document. -/
def endsDocument : Option Token → Bool
  | some (.directive _) => true
  | some .documentStart => true
  | some .documentEnd => true
  | some .streamEnd => true
  | _ => false

/-- A node begins here: nothing needs to be known of what lies within it. -/
def beginsNode (r : Reading) : Bool :=
  match r.tokens with
  | .repetition name :: _ => (r.anchors.lookup name).isSome
  | _ => match r.properties? with
      | none => false
      | some (anchor, tag, start) => match start.tokens with
          | .scalar _ _ :: _ => true
          | .flowSequence :: _ => true
          | .flowMapping :: _ => true
          | .blockSequence :: _ => true
          | .blockMapping :: _ => true
          | .broken :: _ => false
          | _ => anchor.isSome || tag.isSome

/-- A document begins here.  Without a mark of its beginning it does only if the one
before it has a mark of its end. -/
def beginsDocument (marked : Bool) (r : Reading) : Bool :=
  let ts := if marked then r.tokens else dropEnds r.tokens
  match ts with
  | .streamEnd :: _ => false
  | .broken :: _ => false
  | _ => match directives? [] false ts with
      | some (handles, .documentStart :: rest) =>
          endsDocument rest.head? || beginsNode { r with tokens := rest, handles := handles }
      | some (handles, rest) =>
          marked && rest.length == ts.length &&
            beginsNode { r with tokens := rest, handles := handles }
      | none => false

/-- The stream may end behind the node of its first document. -/
def mayEnd (r : Reading) : Bool :=
  match r.tokens with
  | .broken :: _ => false
  | .directive _ :: _ => false
  | .documentEnd :: rest => !beginsDocument true { r with tokens := dropEnds rest }
  | _ => !beginsDocument false r

/-- The node of the first document. -/
def Node.ofTokens? (tokens : List Token) : Option Node := do
  let (handles, start) ← directives? [] false (dropEnds tokens)
  let fuel := 4 * tokens.length + 8
  let (n, last) ← match start with
    | .documentStart :: rest =>
        if endsDocument rest.head? then some (.leftOut, { tokens := rest })
        else node? true false fuel { tokens := rest, handles := handles }
    | .streamEnd :: _ => none
    | _ =>
        if start.length = (dropEnds tokens).length then
          node? true false fuel { tokens := start, handles := handles }
        else none
  if mayEnd last then return n else none

end VolumeAttach.Yaml
