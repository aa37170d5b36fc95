/-
Module: VolumeAttach.Volume.Ownership
Purpose: Which of a provider's volumes belong to a cluster, told by their tags.
Main exports: CloudVolume, OwnershipError, CloudVolume.toVolume,
  CloudVolume.belongsTo, clusterVolumes, clusterTags, fetchClusterVolume
-/
import VolumeAttach.Cloud.Scripted
import VolumeAttach.Diagnostic
import VolumeAttach.Volume

namespace VolumeAttach

/-!
A volume that was provisioned for a cluster carries two tags, the identifier of
the cluster and the identifier of the dataset.  Volumes of other tenants carry
neither or other values.  A cluster tag that is no identifier at all points at
damage, so it is told; the volume is left alone all the same.
-/

/-- The key of the tag with the owning cluster. -/
def clusterKey : String := "flocker-cluster-id"

/-- The key of the tag with the dataset. -/
def datasetKey : String := "flocker-dataset-id"

/-- A volume as the provider lists it. -/
structure CloudVolume where
  id : String
  size : UInt64
  attachedTo : Option String
  tags : Tags
deriving Repr, DecidableEq

/-- Why a provider's volume is no volume record. -/
inductive OwnershipError where
  | missingDataset (volume : String)
  | invalidDataset (volume value : String)
  | invalidRecord (cause : VolumeError)
deriving Repr, DecidableEq

/-- The wording of a cause. -/
def OwnershipError.message : OwnershipError → String
  | .missingDataset volume => "volume " ++ volume ++ " has no flocker-dataset-id tag"
  | .invalidDataset volume value =>
      "volume " ++ volume ++ " has invalid flocker-dataset-id '" ++ value ++ "'"
  | .invalidRecord cause => cause.message

namespace CloudVolume

/-- The volume record of a provider's volume, from its dataset tag. -/
def toVolume (v : CloudVolume) : Except OwnershipError Volume :=
  match v.tags.lookup datasetKey with
  | none => .error (.missingDataset v.id)
  | some value => match Uuid.parse value with
      | .error _ => .error (.invalidDataset v.id value)
      | .ok dataset => match Volume.create dataset v.id v.size with
          | .error cause => .error (.invalidRecord cause)
          | .ok record => .ok { record with attachedTo := v.attachedTo }

/-- Whether the cluster tag names the cluster. -/
def belongsTo (v : CloudVolume) (cluster : Uuid) : Reported Bool :=
  match v.tags.lookup clusterKey with
  | none => ⟨false, []⟩
  | some value => match Uuid.parse value with
      | .ok tagged => ⟨decide (tagged = cluster), []⟩
      | .error cause => ⟨false, [.invalidClusterTag v.id value cause]⟩

end CloudVolume

/-- The volumes of a cluster in the order in which they are listed. -/
def clusterVolumes (cluster : Uuid) : List CloudVolume → Reported (List CloudVolume)
  | [] => ⟨[], []⟩
  | v :: rest =>
      let mine := v.belongsTo cluster
      let others := clusterVolumes cluster rest
      ⟨if mine.value then v :: others.value else others.value,
        mine.diagnostics ++ others.diagnostics⟩

/-- The tags of a volume that is provisioned for a dataset of a cluster. -/
def clusterTags (cluster dataset : Uuid) : Tags :=
  [(clusterKey, cluster.text), (datasetKey, dataset.text)]

/-- Look up a volume's tags once and keep the volume if it is the cluster's. -/
def fetchClusterVolume (s : ScriptedCloud) (cluster : Uuid) (id : String) (size : UInt64)
    (attachedTo : Option String) :
    Except Refusal (Reported (Option CloudVolume)) × ScriptedCloud :=
  let (found, next) := s.lookUpTags id
  match found with
  | .error e => (.error e, next)
  | .ok tags =>
      let v : CloudVolume := ⟨id, size, attachedTo, tags⟩
      let mine := v.belongsTo cluster
      (.ok ⟨if mine.value then some v else none, mine.diagnostics⟩, next)

end VolumeAttach
