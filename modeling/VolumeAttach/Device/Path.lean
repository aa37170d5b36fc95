/-
Module: VolumeAttach.Device.Path
Purpose: Paths of device files: their text, their components, joining and
  splitting.
Main exports: Component, DevicePath, DevicePath.components, DevicePath.under,
  DevicePath.fileName?, DevicePath.parent?, DevicePath.before
-/
import VolumeAttach.Text.Pieces

namespace VolumeAttach

open Text

/-!
A path keeps its text as it was given, but it means the sequence of its
components.  Repeated and trailing slashes say nothing, and neither does a
single dot, except where it opens a relative path.  Two dots stay: whether they
cancel the name before them depends on links that no text shows.

Two paths are the same device file when they have the same components, whatever
their texts.  That relation is written `p ≈ q`, and `=` on paths compares texts.
-/

/-- One step of a path. -/
inductive Component where
  /-- The slash that opens an absolute path. -/
  | root
  /-- The dot that opens a relative path. -/
  | here
  /-- Two dots. -/
  | up
  /-- The name of an entry. -/
  | name (text : String)
deriving Repr, DecidableEq

namespace Component

/-- The place of a kind of component in the order of paths. -/
def rank : Component → Nat
  | .root => 0
  | .here => 1
  | .up => 2
  | .name _ => 3

/-- The order of components: by kind, and names by their characters. -/
def before : Component → Component → Bool
  | .name a, .name b => decide (a < b)
  | a, b => decide (a.rank < b.rank)

/-- What a piece between slashes means after the opening of a path. -/
def ofPiece? : List Char → Option Component
  | [] => none
  | ['.'] => none
  | ['.', '.'] => some .up
  | piece => some (.name (String.ofList piece))

end Component

/-- How a path opens. -/
inductive Opening where
  | root
  | here
  | plain
deriving Repr, DecidableEq

namespace Opening

/-- The characters of an opening. -/
def chars : Opening → List Char
  | .root => ['/']
  | .here => ['.']
  | .plain => []

/-- The component of an opening. -/
def components : Opening → List Component
  | .root => [.root]
  | .here => [.here]
  | .plain => []

end Opening

/-- The opening of a path text and the text after it.  A dot opens a path only
when it is a piece of its own. -/
def opening : List Char → Opening × List Char
  | '/' :: body => (.root, body)
  | ['.'] => (.here, [])
  | '.' :: '/' :: body => (.here, '/' :: body)
  | cs => (.plain, cs)

/-- A piece that adds no component. -/
def isIdle (piece : List Char) : Bool := piece.isEmpty || piece == ['.']

/-- Leave out the pieces at the end that add no component. -/
def dropIdle (parts : List (List Char)) : List (List Char) :=
  (parts.reverse.dropWhile isIdle).reverse

/-- The components of a path text. -/
def componentsOf (cs : List Char) : List Component :=
  (opening cs).1.components ++ (pieces '/' (opening cs).2).filterMap Component.ofPiece?

/-- The text before the last component, without the slashes and dots at its
end.  The root and the empty path have none. -/
def parentOf? (cs : List Char) : Option (List Char) :=
  match dropIdle (pieces '/' (opening cs).2) with
  | [] => if (opening cs).1 = .here then some [] else none
  | parts => some ((opening cs).1.chars ++ joinPieces '/' (dropIdle parts.dropLast))

/-- One path text below another.  An absolute second text replaces the first. -/
def joinOf (base name : List Char) : List Char :=
  if name.head? = some '/' then name
  else if base = [] ∨ base.getLast? = some '/' then base ++ name
  else base ++ '/' :: name

/-- The order of component sequences: the first difference decides, and a
proper beginning comes first. -/
def componentsBefore : List Component → List Component → Bool
  | _, [] => false
  | [], _ :: _ => true
  | a :: as, b :: bs => if a = b then componentsBefore as bs else a.before b

/-- The path of a device file. -/
structure DevicePath where
  text : String
deriving Repr, DecidableEq, Inhabited

namespace DevicePath

/-- The steps that a path consists of. -/
def components (p : DevicePath) : List Component := componentsOf p.text.toList

/-- Two paths name one device file when their components are equal. -/
instance : Setoid DevicePath where
  r p q := p.components = q.components
  iseqv := ⟨fun _ => rfl, Eq.symm, Eq.trans⟩

theorem equiv_iff {p q : DevicePath} : p ≈ q ↔ p.components = q.components := Iff.rfl

instance (p q : DevicePath) : Decidable (p ≈ q) :=
  inferInstanceAs (Decidable (p.components = q.components))

/-- The path of an entry below a directory. -/
def under (root : DevicePath) (name : String) : DevicePath :=
  ⟨String.ofList (joinOf root.text.toList name.toList)⟩

/-- The last component, if it is a name. -/
def fileName? (p : DevicePath) : Option String :=
  match p.components.getLast? with
  | some (.name text) => some text
  | _ => none

/-- The directory that holds the entry. -/
def parent? (p : DevicePath) : Option DevicePath :=
  (parentOf? p.text.toList).map fun cs => ⟨String.ofList cs⟩

/-- A path that does not depend on a working directory. -/
def isAbsolute (p : DevicePath) : Bool := p.text.toList.head? = some '/'

/-- The order of paths, which is the order of their components. -/
def before (p q : DevicePath) : Bool := componentsBefore p.components q.components

/-- Paths in order; of two that name one device file the earlier stays in front. -/
def sort (paths : List DevicePath) : List DevicePath :=
  paths.mergeSort fun p q => !q.before p

/-- One path for each device file, the first that names it. -/
def distinct (paths : List DevicePath) : List DevicePath :=
  paths.eraseDupsBy fun p q => decide (p ≈ q)

instance : ToString DevicePath := ⟨text⟩

end DevicePath
end VolumeAttach
