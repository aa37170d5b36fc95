/-
Module: VolumeAttach.Host.TreeChange
Purpose: Changes to a tree of files.
Main exports: TreeChange, FileTree.changed?, FileTree.apply, FileTree.applyAll
-/
import VolumeAttach.Host.FileTree

namespace VolumeAttach

/-!
Changes make what they need: the directories on the way to an entry come into
being with it.  A change that does not fit the tree, such as a file in the place
of a directory, leaves the tree as it is.
-/

/-- A change to a tree.  A path that is not absolute is seen from some directory. -/
inductive TreeChange where
  | makeDirectory (path : Text.Bytes)
  | writeFile (path content : Text.Bytes)
  | makeLink (path target : Text.Bytes)
  | remove (path : Text.Bytes)
deriving Repr, DecidableEq

namespace FileTree

/-- Make the directories that steps lead through, and say where they lead. -/
def makeDirectories (t : FileTree) (l : Location) : List Step → Option (FileTree × Location)
  | [] => if t.at? l = some .directory then some (t, l) else none
  | .enter name :: rest =>
      match t.at? (l ++ [name]) with
      | none => makeDirectories (t.put (l ++ [name]) .directory) (l ++ [name]) rest
      | some _ => match t.walk none linkLimit l [.enter name] with
          | .ok next => makeDirectories t next rest
          | .error _ => none
  | step :: rest =>
      match t.walk none linkLimit l [step] with
      | .ok next => makeDirectories t next rest
      | .error _ => none

/-- The directory of a path's last name, made if need be, together with that
name. -/
def makeParent (t : FileTree) (base : Location) (path : Text.Bytes) :
    Option (FileTree × Location × FileName) :=
  match (Step.ofPath path).getLast? with
  | some (.enter name) =>
      (t.makeDirectories (origin base path) (Step.ofPath path).dropLast).map fun (made, l) =>
        (made, l, name)
  | _ => none

/-- Write a file under a name in a directory.  Behind a link the file is written
where the link leads, which has to be in a directory that is there. -/
def write (t : FileTree) (content : Text.Bytes) (links : Nat) (l : Location)
    (name : FileName) : Option FileTree :=
  match t.at? (l ++ [name]) with
  | none => some (t.put (l ++ [name]) (.file content))
  | some (.file _) => some (t.put (l ++ [name]) (.file content))
  | some .directory => none
  | some (.link target) =>
      match links, (Step.ofPath target).getLast? with
      | fewer + 1, some (.enter last) =>
          match t.walk none fewer (origin l target) (Step.ofPath target).dropLast with
          | .ok place => write t content fewer place last
          | .error _ => none
      | _, _ => none

/-- Carry out a change; there is no result if it does not fit the tree. -/
def changed? (t : FileTree) (base : Location) : TreeChange → Option FileTree
  | .makeDirectory path => (t.makeDirectories (origin base path) (Step.ofPath path)).map (·.1)
  | .writeFile path content => do
      let (made, l, name) ← t.makeParent base path
      made.write content linkLimit l name
  | .makeLink path target => do
      let (made, l, name) ← t.makeParent base path
      match made.at? (l ++ [name]) with
      | none => some (made.put (l ++ [name]) (.link target))
      | some _ => none
  | .remove path =>
      match (Step.ofPath path).getLast? with
      | some (.enter name) =>
          match t.walk none linkLimit (origin base path) (Step.ofPath path).dropLast with
          | .ok l => some (t.cut (l ++ [name]))
          | .error _ => none
      | _ => none

/-- Carry out a change if it fits. -/
def apply (t : FileTree) (base : Location) (change : TreeChange) : FileTree :=
  (t.changed? base change).getD t

/-- Carry out changes in order. -/
def applyAll (t : FileTree) (base : Location) (changes : List TreeChange) : FileTree :=
  changes.foldl (fun t change => t.apply base change) t

end FileTree
end VolumeAttach
