/-
Module: VolumeAttach.Main
Purpose: The command line program: it reads what a command needs from the
  machine, carries the command out and writes what it says.
Main exports: main
-/
import VolumeAttach.Command.Run

/-!
Everything that a command decides is decided on a tree of files.  The program
copies into such a tree the settings files that may count and the directory of
block devices, each under the path by which the command will ask for it, with
the links in the way already followed.
-/

namespace VolumeAttach.Machine

/-- What a path leads to, if it leads anywhere. -/
def kindOf (path : String) : IO (Option IO.FS.FileType) := do
  try
    let real ← IO.FS.realPath path
    return some (← real.metadata).type
  catch _ => return none

/-- The variables of this process. -/
def environment : IO Environment := do
  let block ← IO.FS.readBinFile "/proc/self/environ"
  return (Text.pieces 0 block.toList).filterMap fun entry =>
    (Text.decode? entry).bind fun text =>
      match Text.pieces '=' text.toList with
      | name :: value => some (String.ofList name, String.ofList (Text.joinPieces '=' value))
      | [] => none

/-- The surroundings with one more change to their tree. -/
def add (s : Surroundings) (change : TreeChange) : Surroundings :=
  { s with tree := s.tree.apply s.work change }

/-- Copy a file under its path. -/
def copyFile (s : Surroundings) (path : String) : IO Surroundings := do
  try
    let content ← IO.FS.readBinFile path
    return add s (.writeFile (Text.encode path) content.toList)
  catch _ => return s

/-- Copy a settings file and those that it extends.  A file is copied under its
real path, to which a link leads from any other.  The first argument bounds the
number of files. -/
def copySettings : Nat → Surroundings → String → IO Surroundings
  | 0, s, _ => return s
  | files + 1, s, path => do
      if (← kindOf path) matches some .file then
        let real := (← IO.FS.realPath path).toString
        let copied ← copyFile s real
        let linked := match copied.regular? (Text.encode path) with
          | some _ => copied
          | none => add copied (.makeLink (Text.encode path) (Text.encode real))
        match (linked.regular? (Text.encode path)).bind linked.extended? with
        | some base => match Text.decode? base with
            | some name => copySettings files linked name
            | none => return linked
        | none => return linked
      else return s

/-- Copy a device: its directory and its size.  A size file outside the directory
becomes a link that leads outside. -/
def copyDevice (s : Surroundings) (path : DevicePath) : IO Surroundings := do
  match ← kindOf path.text with
  | some .file => return add s (.writeFile (Text.encode path.text) [])
  | _ =>
      let made := add s (.makeDirectory (Text.encode path.text))
      let size := path.under sizeName
      match ← kindOf size.text with
      | some .file => do
          let directory := (DevicePath.mk (← IO.FS.realPath path.text).toString).components
          let file := (DevicePath.mk (← IO.FS.realPath size.text).toString).components
          if directory.isPrefixOf file then copyFile made size.text
          else return add made (.makeLink (Text.encode size.text) (Text.encode "/"))
      | some .dir => return add made (.makeDirectory (Text.encode size.text))
      | _ => return made

/-- Copy the directory of block devices. -/
def copyDevices (s : Surroundings) (root : DevicePath) : IO Surroundings := do
  match ← kindOf root.text with
  | some .dir => do
      let real ← IO.FS.realPath root.text
      let entries ← real.readDir
      entries.foldlM (fun s entry => copyDevice s (root.under entry.fileName))
        (add s (.makeDirectory (Text.encode root.text)))
  | some _ => return add s (.writeFile (Text.encode root.text) [])
  | none => return s

/-- The surroundings of this process, as far as a command looks at them. -/
def surroundings : IO Surroundings := do
  let work : DevicePath := ⟨(← IO.currentDir).toString⟩
  let names := (Text.pieces slash (Text.encode work.text)).filter (· ≠ [])
  let tree := FileTree.apply {} [] (.makeDirectory (Text.encode work.text))
  let bare : Surroundings := ⟨tree, names, ← environment⟩
  let s ← bare.candidates.foldlM (fun s path => copySettings 64 s path.text) bare
  match s.load with
  | .ok settings => copyDevices s ⟨settings.blockRoot⟩
  | .error _ => return s

end VolumeAttach.Machine

/-- Carry out the command line of this process. -/
def main (arguments : List String) : IO UInt32 := do
  let result := VolumeAttach.runCommandLine (← VolumeAttach.Machine.surroundings) arguments
  IO.print result.output
  IO.eprint result.errors
  return UInt32.ofNat result.code
