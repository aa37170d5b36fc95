/-
Module: VolumeAttach.Proofs.Provisioning
Purpose: The tags that a volume is given when it is provisioned are the ones by which it is
  recognised and rebuilt.
Main exports: Volume.provisioned, CloudVolume.belongsTo_of_spelling,
  CloudVolume.toVolume_eq_ok_iff, CloudVolume.provisioned_recognised
-/
import VolumeAttach.Proofs.SettingChecks
import VolumeAttach.Volume.Ownership

namespace VolumeAttach

open Text

/-!
Three places handle an identifier's text, each in its own way: the settings take the blanks
around it away, the tags are read as they stand, and the tags are written in one spelling
only.  What one place writes the other reads, because each of them reads spellings and the
written form is one.
-/

namespace Volume

variable {dataset : Uuid} {id : String} {size : UInt64} {record : Volume}

/-- A record is made exactly of a name that is not blank and of a size, and holds the name
without the blanks around it. -/
theorem create_eq_ok_iff :
    create dataset id size = .ok record ↔
      ¬ IsAllBlank id.toList ∧ 0 < size ∧ record = ⟨dataset, trim id, size, none⟩ := by
  unfold create
  by_cases blank : IsAllBlank id.toList
  · simp [trim_eq_empty_iff, blank]
  · by_cases zero : size = 0
    · simp [trim_eq_empty_iff, blank, zero]
    · have named : trim id ≠ "" := fun empty => blank (trim_eq_empty_iff.mp empty)
      have sized : 0 < size := UInt64.pos_iff_ne_zero.mpr zero
      simp only [if_neg named, if_neg zero, Except.ok.injEq]
      constructor
      · intro same
        exact ⟨blank, sized, same.symm⟩
      · intro h
        exact h.2.2.symm

/-- The provider's view of a record whose volume was provisioned for a cluster. -/
def provisioned (record : Volume) (cluster : Uuid) : CloudVolume :=
  ⟨record.id, record.size, record.attachedTo, clusterTags cluster record.dataset⟩

end Volume

namespace CloudVolume

variable {v : CloudVolume} {cluster dataset : Uuid} {value : String} {record : Volume}

/-- A volume whose cluster tag spells an identifier belongs to that cluster and to no other,
and nothing is told of it. -/
theorem belongsTo_of_spelling (tagged : v.tags.lookup clusterKey = some value)
    (spells : cluster.IsSpelling value.toList) (other : Uuid) :
    v.belongsTo other = ⟨decide (cluster = other), []⟩ := by
  have read : Uuid.parse value = .ok cluster := Uuid.parse_eq_ok_iff.mpr spells
  simp only [belongsTo, tagged, read]

/-- A volume is rebuilt exactly if its dataset tag spells an identifier, its name is not
blank and it has a size. -/
theorem toVolume_eq_ok_iff :
    v.toVolume = .ok record ↔
      (∃ value, v.tags.lookup datasetKey = some value ∧
        record.dataset.IsSpelling value.toList) ∧
      ¬ IsAllBlank v.id.toList ∧ 0 < v.size ∧
      record = ⟨record.dataset, trim v.id, v.size, v.attachedTo⟩ := by
  constructor
  · intro rebuilt
    unfold toVolume at rebuilt
    split at rebuilt
    · cases rebuilt
    · rename_i value tagged
      split at rebuilt
      · cases rebuilt
      · rename_i dataset read
        split at rebuilt
        · cases rebuilt
        · rename_i plain made
          obtain ⟨named, sized, rfl⟩ := Volume.create_eq_ok_iff.mp made
          cases rebuilt
          exact ⟨⟨value, tagged, Uuid.parse_eq_ok_iff.mp read⟩, named, sized, rfl⟩
  · intro h
    obtain ⟨⟨value, tagged, spells⟩, named, sized, same⟩ := h
    have read := Uuid.parse_eq_ok_iff.mpr spells
    have made : Volume.create record.dataset v.id v.size =
        .ok ⟨record.dataset, trim v.id, v.size, none⟩ :=
      Volume.create_eq_ok_iff.mpr ⟨named, sized, rfl⟩
    simp only [toVolume, tagged, read, made]
    exact congrArg Except.ok same.symm

/-- A volume that carries a dataset's tag is rebuilt for that dataset. -/
theorem toVolume_of_tagged (tagged : v.tags.lookup datasetKey = some dataset.text)
    (named : ¬ IsAllBlank v.id.toList) (sized : 0 < v.size) :
    v.toVolume = .ok ⟨dataset, trim v.id, v.size, v.attachedTo⟩ :=
  toVolume_eq_ok_iff.mpr ⟨⟨_, tagged, dataset.isSpelling_text⟩, named, sized, rfl⟩

/-- What was rebuilt is rebuilt again from the tags that it would be given. -/
theorem toVolume_provisioned (rebuilt : v.toVolume = .ok record) (cluster : Uuid) :
    (record.provisioned cluster).toVolume = .ok record := by
  obtain ⟨-, named, sized, same⟩ := toVolume_eq_ok_iff.mp rebuilt
  have trimmed : trim record.id = record.id := by
    rw [congrArg Volume.id same]
    exact trim_trim v.id
  have visible : ¬ IsAllBlank record.id.toList := by
    rw [← trim_eq_empty_iff, trimmed, congrArg Volume.id same, trim_eq_empty_iff]
    exact named
  have positive : 0 < record.size := by
    rw [congrArg Volume.size same]
    exact sized
  refine toVolume_eq_ok_iff.mpr ⟨⟨_, rfl, record.dataset.isSpelling_text⟩, visible, positive, ?_⟩
  simp only [Volume.provisioned, trimmed]

/-! ### The whole way -/

/-- A volume that was provisioned for a dataset of a cluster belongs to that cluster and to
no other, nothing is told of it, and it is rebuilt with its dataset, whatever other tags it
carries.  The settings name a cluster exactly by its spellings, with any blanks around them.
Whatever is rebuilt is rebuilt again once it is provisioned anew. -/
theorem provisioned_recognised :
    (∀ (cluster dataset : Uuid) (v : CloudVolume),
      (∀ tag ∈ clusterTags cluster dataset, v.tags.lookup tag.1 = some tag.2) →
      ¬ IsAllBlank v.id.toList → 0 < v.size →
      (∀ other, ((v.belongsTo other).value = true ↔ other = cluster) ∧
        (v.belongsTo other).diagnostics = []) ∧
      v.toVolume = .ok ⟨dataset, trim v.id, v.size, v.attachedTo⟩) ∧
    (∀ (settings : AgentSettings) (cluster : Uuid), settings.requireCluster = .ok cluster ↔
      ∃ front spelled back, IsAllBlank front ∧ IsAllBlank back ∧ cluster.IsSpelling spelled ∧
        settings.clusterId = some (String.ofList (front ++ spelled ++ back))) ∧
    (∀ (v : CloudVolume) (record : Volume) (cluster : Uuid), v.toVolume = .ok record →
      (record.provisioned cluster).toVolume = .ok record) := by
  refine ⟨?_, ?_, ?_⟩
  · intro cluster dataset v tagged named sized
    have clusterTag : v.tags.lookup clusterKey = some cluster.text :=
      tagged (clusterKey, cluster.text) (by simp [clusterTags])
    have datasetTag : v.tags.lookup datasetKey = some dataset.text :=
      tagged (datasetKey, dataset.text) (by simp [clusterTags])
    refine ⟨?_, toVolume_of_tagged datasetTag named sized⟩
    intro other
    rw [belongsTo_of_spelling clusterTag cluster.isSpelling_text]
    simp [eq_comm]
  · intro settings cluster
    constructor
    · intro required
      obtain ⟨raw, configured, spells⟩ := AgentSettings.requireCluster_eq_ok_iff.mp required
      obtain ⟨front, back, before, behind, whole⟩ := exists_padding raw.toList
      refine ⟨front, _, back, before, behind, spells, ?_⟩
      rw [← whole, String.ofList_toList, configured]
    · intro h
      obtain ⟨front, spelled, back, before, behind, spells, configured⟩ := h
      exact AgentSettings.requireCluster_of_padded before behind spells configured
  · intro v record cluster rebuilt
    exact toVolume_provisioned rebuilt cluster

/-- A volume with a third tag and blanks around its name, for a cluster that is configured
as a URN in upper case with blanks around it. -/
theorem provisioned_recognised_of_upper_case :
    let cluster : Uuid := ⟨List.replicate 32 10, rfl⟩
    let dataset : Uuid := ⟨List.replicate 32 3, rfl⟩
    let v : CloudVolume :=
      ⟨" vol-1\n", 7, some "i-1", ("Name", "data") :: clusterTags cluster dataset⟩
    let record : Volume := ⟨dataset, "vol-1", 7, some "i-1"⟩
    let settings : AgentSettings :=
      { clusterId := some "  URN:UUID:AAAAAAAA-AAAA-AAAA-AAAA-AAAAAAAAAAAA\t" }
    ((v.belongsTo cluster).value = true ∧ (v.belongsTo dataset).value = false) ∧
    settings.requireCluster = .ok cluster ∧
    v.toVolume = .ok record ∧ (record.provisioned cluster).toVolume = .ok record := by
  intro cluster dataset v record settings
  obtain ⟨recognised, configured, again⟩ := provisioned_recognised
  have tagged : ∀ tag ∈ clusterTags cluster dataset, v.tags.lookup tag.1 = some tag.2 := by
    decide +kernel
  obtain ⟨belongs, rebuilt⟩ := recognised cluster dataset v tagged (by decide +kernel) (by decide)
  have others : dataset ≠ cluster := by decide
  have foreign : ¬ (v.belongsTo dataset).value = true := fun h => others ((belongs dataset).1.mp h)
  have trimmed : trim v.id = "vol-1" := by decide +kernel
  rw [trimmed] at rebuilt
  refine ⟨⟨(belongs cluster).1.mpr rfl, by simpa using foreign⟩, ?_, rebuilt,
    again v record cluster rebuilt⟩
  apply (configured settings cluster).mpr
  refine ⟨"  ".toList, "URN:UUID:AAAAAAAA-AAAA-AAAA-AAAA-AAAAAAAAAAAA".toList, "\t".toList, ?_, ?_,
    ?_, ?_⟩ <;> decide +kernel

end CloudVolume
end VolumeAttach
