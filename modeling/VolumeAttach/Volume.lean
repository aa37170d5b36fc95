/-
Module: VolumeAttach.Volume
Purpose: The record of a block storage volume.
Main exports: Volume, VolumeError, Volume.create, Volume.attached
-/
import VolumeAttach.Text.Blank
import VolumeAttach.Uuid

namespace VolumeAttach

/-- A block storage volume as its provider knows it. -/
structure Volume where
  /-- The dataset that the volume backs; it outlives the volume. -/
  dataset : Uuid
  /-- The provider's name for the volume. -/
  id : String
  /-- The declared size in bytes. -/
  size : UInt64
  /-- The compute instance that holds the volume, if one does. -/
  attachedTo : Option String
deriving Repr, DecidableEq

/-- Why a record cannot be made. -/
inductive VolumeError where
  | missingId
  | zeroSize (id : String)
deriving Repr, DecidableEq

/-- The wording of a cause. -/
def VolumeError.message : VolumeError → String
  | .missingId => "blockdevice_id must not be empty"
  | .zeroSize id => "volume " ++ id ++ " must have a positive size"

namespace Volume

/-- Make the record of a volume that nothing holds.  Blanks around the name do
not belong to it; a name that is blank throughout is checked before the size. -/
def create (dataset : Uuid) (id : String) (size : UInt64) : Except VolumeError Volume :=
  let name := Text.trim id
  if name = "" then .error .missingId
  else if size = 0 then .error (.zeroSize name)
  else .ok { dataset := dataset, id := name, size := size, attachedTo := none }

/-- The record of the same volume, held by a compute instance. -/
def attached (v : Volume) (compute : String) : Volume :=
  { v with attachedTo := some compute }

end Volume
end VolumeAttach
