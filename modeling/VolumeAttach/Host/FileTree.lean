/-
Module: VolumeAttach.Host.FileTree
Purpose: A tree of directories, files and symbolic links, and finding one's way
  in it.
Main exports: FileTree, FileError, Location.path, Step, FileTree.walk, FileTree.resolve,
  FileTree.openDirectory, FileTree.contentAt, FileTree.readBelow
-/
import VolumeAttach.Text.Bytes
import VolumeAttach.Text.Pieces

namespace VolumeAttach

open Text

/-!
File names are byte strings.  A location is the sequence of names that leads to
an entry from the top of the tree without passing a link; the empty location is
the top itself and always a directory.

A path is followed step by step.  A link in the way is replaced by its target,
at most forty times in one path.  A walk may be fenced: then it starts in some
directory and must neither climb above it nor follow an absolute link, whether
or not the way would lead back inside.
-/

/-- The name of an entry. -/
abbrev FileName := Bytes

/-- The names on the way from the top of the tree to an entry. -/
abbrev Location := List FileName

/-- What stands at a location. -/
inductive Entry where
  | directory
  | file (content : Bytes)
  | link (target : Bytes)
deriving Repr, DecidableEq

/-- Why a path leads nowhere or what it leads to cannot be used. -/
inductive FileError where
  | notFound
  | notDirectory
  | isDirectory
  | nameTooLong
  | tooManyLinks
  | nameNotText
  | contentNotText
  | nulInPath
  | leadsOutside
deriving Repr, DecidableEq

/-- The wording of a cause. -/
def FileError.message : FileError → String
  | .notFound => "No such file or directory (os error 2)"
  | .notDirectory => "Not a directory (os error 20)"
  | .isDirectory => "Is a directory (os error 21)"
  | .nameTooLong => "File name too long (os error 36)"
  | .tooManyLinks => "Too many levels of symbolic links (os error 40)"
  | .nameNotText => "Invalid or incomplete multibyte or wide character (os error 84)"
  | .contentNotText => "stream did not contain valid UTF-8"
  | .nulInPath => "file name contained an unexpected NUL byte"
  | .leadsOutside => "a path led outside of the filesystem"

/-- The entries of a tree by location. -/
structure FileTree where
  entries : List (Location × Entry) := []
deriving Repr

/-- One step of a path. -/
inductive Step where
  /-- A dot, or the slash at the end of a path. -/
  | stay
  /-- Two dots. -/
  | up
  /-- A name. -/
  | enter (name : FileName)
deriving Repr, DecidableEq

/-- The byte of a slash. -/
def slash : UInt8 := 47

/-- The absolute path of a location; that of the top is empty. -/
def Location.path (l : Location) : Bytes := l.flatMap (slash :: ·)

/-- What a piece between slashes asks for. -/
def Step.ofPiece? : Bytes → Option Step
  | [] => none
  | [46] => some .stay
  | [46, 46] => some .up
  | name => some (.enter name)

/-- The steps of a path.  A slash at the end asks for a directory, as a dot
behind it would. -/
def Step.ofPath (path : Bytes) : List Step :=
  (pieces slash path).filterMap ofPiece? ++
    if path.getLast? = some slash then [.stay] else []

/-- The longest name that an entry can have, in bytes. -/
def longestName : Nat := 255

/-- The length from which on a path is refused, in bytes. -/
def pathLimit : Nat := 4096

/-- How many links one path may pass. -/
def linkLimit : Nat := 40

namespace FileTree

/-- What stands at a location. -/
def at? (t : FileTree) (l : Location) : Option Entry :=
  if l = [] then some .directory else t.entries.lookup l

/-- The names directly below a location. -/
def names (t : FileTree) (l : Location) : List FileName :=
  t.entries.filterMap fun (place, _) =>
    match place.getLast? with
    | some name => if place.dropLast = l then some name else none
    | none => none

/-- Put an entry at a location in place of what stood there. -/
def put (t : FileTree) (l : Location) (e : Entry) : FileTree :=
  ⟨(l, e) :: t.entries.filter fun (place, _) => place ≠ l⟩

/-- Take out a location with all that is below it. -/
def cut (t : FileTree) (l : Location) : FileTree :=
  ⟨t.entries.filter fun (place, _) => !l.isPrefixOf place⟩

/-- A directory lists exactly the names under which something stands in it. -/
theorem mem_names {t : FileTree} {l : Location} {name : FileName} :
    name ∈ t.names l ↔ t.at? (l ++ [name]) ≠ none := by
  have below : l ++ [name] ≠ [] := by simp
  rw [names, at?, if_neg below, ne_eq, List.lookup_eq_none_iff, List.mem_filterMap]
  constructor
  · rintro ⟨⟨place, entry⟩, held, shown⟩ absent
    cases last : place.getLast? with
    | none => simp [last] at shown
    | some found =>
        simp only [last, Option.ite_none_right_eq_some, Option.some.injEq] at shown
        obtain ⟨rfl, rfl⟩ := shown
        obtain ⟨rest, rfl⟩ := List.getLast?_eq_some_iff.mp last
        simpa using absent _ held
  · intro present
    obtain ⟨⟨place, entry⟩, held, same⟩ : ∃ p ∈ t.entries, (l ++ [name] == p.1) = true := by
      simpa using present
    obtain rfl : l ++ [name] = place := by simpa using same
    exact ⟨_, held, by simp⟩

/-- What is put at a location stands there. -/
@[simp] theorem at?_put_self {t : FileTree} {l : Location} {e : Entry} (below : l ≠ []) :
    (t.put l e).at? l = some e := by
  simp [put, at?, below]

/-- What is put at a location changes nothing elsewhere. -/
theorem at?_put_of_ne {t : FileTree} {l place : Location} {e : Entry} (ne : place ≠ l) :
    (t.put l e).at? place = t.at? place := by
  have skip : (place == l) = false := by simpa using ne
  simp only [at?, put, List.lookup_cons, skip]
  congr 1
  induction t.entries with
  | nil => rfl
  | cons entry rest ih =>
      obtain ⟨stands, what⟩ := entry
      by_cases same : stands = l
      · subst same
        rw [List.filter_cons_of_neg (by simp), ih, List.lookup_cons, skip]
      · rw [List.filter_cons_of_pos (by simpa using same), List.lookup_cons, List.lookup_cons, ih]

/-- Follow steps from a location, passing at most `links` links.  The fence, if
there is one, is a location that the walk must not climb above. -/
def walk (t : FileTree) (fence : Option Location) (links : Nat) (l : Location) :
    List Step → Except FileError Location
  | [] => .ok l
  | step :: rest =>
      if t.at? l ≠ some .directory then .error .notDirectory
      else match step with
        | .stay => walk t fence links l rest
        | .up =>
            if fence = some l then .error .leadsOutside
            else walk t fence links l.dropLast rest
        | .enter name =>
            if longestName < name.length then .error .nameTooLong
            else match t.at? (l ++ [name]) with
              | none => .error .notFound
              | some (.link target) =>
                  match links with
                  | 0 => .error .tooManyLinks
                  | fewer + 1 =>
                      if target.head? = some slash then
                        if fence.isSome then .error .leadsOutside
                        else walk t fence fewer [] (Step.ofPath target ++ rest)
                      else walk t fence fewer l (Step.ofPath target ++ rest)
              | some _ => walk t fence links (l ++ [name]) rest
termination_by steps => (links, steps.length)

/-- Where a path begins: an absolute one at the top, any other in the working
directory. -/
def origin (work : Location) (path : Bytes) : Location :=
  if path.head? = some slash then [] else work

/-- Where a path leads, seen from a working directory. -/
def resolve (t : FileTree) (work : Location) (path : Bytes) : Except FileError Location :=
  if 0 ∈ path then .error .nulInPath
  else if path = [] then .error .notFound
  else if pathLimit ≤ path.length then .error .nameTooLong
  else t.walk none linkLimit (origin work path) (Step.ofPath path)

/-- The directory to which a path leads. -/
def openDirectory (t : FileTree) (work : Location) (path : Bytes) :
    Except FileError Location :=
  match t.resolve work path with
  | .error e => .error e
  | .ok l => if t.at? l = some .directory then .ok l else .error .notDirectory

/-- The content of the file at a location. -/
def contentAt (t : FileTree) (l : Location) : Except FileError Bytes :=
  match t.at? l with
  | some (.file content) => .ok content
  | some .directory => .error .isDirectory
  | _ => .error .notFound

/-- The content of the entry with a given name in a directory.  If the entry is
a link, the way to its target must not leave the directory. -/
def readBelow (t : FileTree) (directory : Location) (name : FileName) :
    Except FileError Bytes :=
  match t.walk (some directory) linkLimit directory [.enter name] with
  | .error e => .error e
  | .ok l => t.contentAt l

end FileTree
end VolumeAttach
