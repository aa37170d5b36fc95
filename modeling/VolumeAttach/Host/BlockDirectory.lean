/-
Module: VolumeAttach.Host.BlockDirectory
Purpose: The directory in which the kernel lists block devices.
Main exports: sectorSize, BlockDirectory, BlockDirectory.list,
  BlockDirectory.size, BlockDirectory.sight, ChangingTree
-/
import VolumeAttach.Device.Path
import VolumeAttach.Host.Sight
import VolumeAttach.Host.TreeChange
import VolumeAttach.Text.Blank
import VolumeAttach.Text.Decimal

namespace VolumeAttach

open Text

/-!
The kernel lists its block devices in one directory with an entry for each.  An
entry leads, mostly through a link, to the device's own directory, where a file
named `size` gives the size in sectors of 512 bytes.

The listing shows every entry.  A size is looked up by name alone: a name that
is no single entry name is no device, whatever the tree holds, so no lookup
reaches anything but an entry of the listing.  A device that is not there, or
that has no size to read, is not found; anything else that stands in the way is
told as it is.
-/

/-- The unit in which the kernel gives sizes, in bytes. -/
def sectorSize : Nat := 512

/-- The name of the file that holds a size. -/
def sizeName : String := "size"

/-- The directory of block devices, seen from a working directory. -/
structure BlockDirectory where
  work : Location
  root : DevicePath

/-- A name that an entry of a directory can have. -/
def isPlainName (name : String) : Bool :=
  name ≠ "" && name ≠ "." && name ≠ ".." && !name.toList.contains '/'

/-- The size in bytes that the content of a size file gives. -/
def readSize (content : String) : Except String UInt64 :=
  match readWord (trimBlank content.toList) with
  | .error e => .error e.message
  | .ok sectors =>
      if sectors * sectorSize < UInt64.size then .ok (UInt64.ofNat (sectors * sectorSize))
      else .error (toString sectors ++ " sectors overflow a byte count")

namespace BlockDirectory

/-- The names of all block devices. -/
def list (d : BlockDirectory) (t : FileTree) : Except InventoryError NameSet :=
  match t.openDirectory d.work (encode d.root.text) with
  | .error e => .error (.io d.root.text e.message)
  | .ok l => match (t.names l).mapM decode? with
      | some names => .ok (NameSet.ofList names)
      | none => .error (.io d.root.text FileError.nameNotText.message)

/-- The path of a device's size file. -/
def sizePath (d : BlockDirectory) (name : String) : DevicePath :=
  (DevicePath.under d.root name).under sizeName

/-- How a failure on the way to a size is told. -/
def lookupError (d : BlockDirectory) (name : String) : FileError → InventoryError
  | .notFound => .deviceNotFound name
  | e => .io (d.sizePath name).text e.message

/-- The size of the named device in bytes. -/
def size (d : BlockDirectory) (t : FileTree) (name : String) : Except InventoryError UInt64 :=
  if isPlainName name then
    match t.openDirectory d.work (encode (DevicePath.under d.root name).text) with
    | .error e => .error (d.lookupError name e)
    | .ok l => match t.readBelow l (encode sizeName) with
        | .error e => .error (d.lookupError name e)
        | .ok bytes => match decode? bytes with
            | none => .error (d.lookupError name .contentNotText)
            | some content => match readSize content with
                | .error message => .error (.malformed (d.sizePath name).text message)
                | .ok bytes => .ok bytes
  else .error (.deviceNotFound name)

/-- What a look at the directory shows. -/
def sight (d : BlockDirectory) (t : FileTree) : Sight where
  listing := d.list t
  size := d.size t

end BlockDirectory

/-- A tree that changes each time before it is looked at. -/
structure ChangingTree where
  tree : FileTree
  /-- The changes before each of the next looks. -/
  upcoming : List (List TreeChange) := []
  looks : Nat := 0

/-- The host of a changing tree; the changes are seen from the directory
`base`. -/
def ChangingTree.host (d : BlockDirectory) (base : Location) : Host ChangingTree where
  look s :=
    let tree := s.tree.applyAll base (s.upcoming.headD [])
    (d.sight tree, ⟨tree, s.upcoming.tail, s.looks + 1⟩)
  horizon s := s.upcoming.length

end VolumeAttach
