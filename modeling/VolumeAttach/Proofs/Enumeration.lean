/-
Module: VolumeAttach.Proofs.Enumeration
Purpose: Which volumes of a listing belong to a cluster and what is told of the others, and
  that looking a single volume up decides as the listing does.
Main exports: CloudVolume.IsTaggedFor, CloudVolume.IsDamaged, TagWarning, TagStep,
  ScriptedCloud.after, latestTags, clusterVolumes_value, clusterVolumes_diagnostics,
  fetchClusterVolume_after, clusterVolumes_and_fetch_agree
-/
import Mathlib.Data.List.Forall2
import Mathlib.Data.List.Induction
import VolumeAttach.Proofs.Spellings
import VolumeAttach.Volume.Ownership

namespace VolumeAttach

/-!
A volume is kept, left out in silence, or left out with a warning, and its own cluster tag
alone decides which: the tag spells the cluster, it spells another or there is none, or it
is there and spells nothing.  A listing goes through its volumes with that decision, and a
single look-up makes it of the tags that the cloud recorded last.
-/

namespace CloudVolume

variable {v : CloudVolume} {cluster : Uuid}

/-- The cluster tag of a volume spells the cluster. -/
def IsTaggedFor (v : CloudVolume) (cluster : Uuid) : Prop :=
  ∃ value, v.tags.lookup clusterKey = some value ∧ cluster.IsSpelling value.toList

/-- A volume has a cluster tag that spells no cluster at all. -/
def IsDamaged (v : CloudVolume) : Prop :=
  ∃ value, v.tags.lookup clusterKey = some value ∧ ∀ u : Uuid, ¬ u.IsSpelling value.toList

theorem belongsTo_value_iff : (v.belongsTo cluster).value = true ↔ v.IsTaggedFor cluster := by
  unfold belongsTo IsTaggedFor
  cases v.tags.lookup clusterKey with
  | none => simp
  | some value =>
      simp only [Option.some.injEq, exists_eq_left']
      rw [← Uuid.parse_eq_ok_iff]
      cases Uuid.parse value <;> simp

instance (v : CloudVolume) (cluster : Uuid) : Decidable (v.IsTaggedFor cluster) :=
  decidable_of_iff _ belongsTo_value_iff

end CloudVolume

/-- The warning that a volume's cluster tag spells no identifier, with the volume and the tag
in it. -/
def TagWarning (v : CloudVolume) (d : Diagnostic) : Prop :=
  d.level = .warn ∧ ∃ value cause, v.tags.lookup clusterKey = some value ∧
    Uuid.parse value = .error cause ∧ d = .invalidClusterTag v.id value cause

namespace CloudVolume

/-- A damaged volume is told of once, and of no other volume anything is told. -/
theorem belongsTo_diagnostics (v : CloudVolume) (cluster : Uuid) :
    (v.IsDamaged ∧ ∃ d, TagWarning v d ∧ (v.belongsTo cluster).diagnostics = [d]) ∨
      (¬ v.IsDamaged ∧ (v.belongsTo cluster).diagnostics = []) := by
  unfold IsDamaged belongsTo
  cases tagged : v.tags.lookup clusterKey with
  | none => exact .inr ⟨by simp, rfl⟩
  | some value =>
      cases read : Uuid.parse value with
      | ok u =>
          refine .inr ⟨?_, by simp [read]⟩
          intro damaged
          obtain ⟨found, same, none⟩ := damaged
          obtain rfl := Option.some.inj same
          exact none u (Uuid.parse_eq_ok_iff.mp read)
      | error cause =>
          have none := Uuid.exists_parse_error_iff.mp ⟨cause, read⟩
          refine .inl ⟨⟨value, rfl, none⟩, .invalidClusterTag v.id value cause, ?_, by simp [read]⟩
          exact ⟨rfl, value, cause, tagged, read, rfl⟩

instance (v : CloudVolume) : Decidable v.IsDamaged :=
  decidable_of_iff ((v.tags.lookup clusterKey).any fun value => !(Uuid.parse value).isOk) (by
    unfold IsDamaged
    cases v.tags.lookup clusterKey with
    | none => simp
    | some value =>
        simp only [Option.some.injEq, exists_eq_left', Option.any_some]
        rw [← Uuid.exists_parse_error_iff]
        cases Uuid.parse value <;> simp [Except.isOk, Except.toBool])

end CloudVolume

/-! ### Listings -/

/-- A listing keeps the cluster's volumes as they are and in their order. -/
theorem clusterVolumes_value (cluster : Uuid) (volumes : List CloudVolume) :
    (clusterVolumes cluster volumes).value =
      volumes.filter fun v => decide (v.IsTaggedFor cluster) := by
  induction volumes with
  | nil => rfl
  | cons v rest ih =>
      have same : (v.belongsTo cluster).value = decide (v.IsTaggedFor cluster) := by
        rw [Bool.eq_iff_iff, CloudVolume.belongsTo_value_iff, decide_eq_true_iff]
      rw [clusterVolumes, List.filter_cons]
      simp only [ih, same]

/-- It tells of its damaged volumes, of each once and in their order. -/
theorem clusterVolumes_diagnostics (cluster : Uuid) (volumes : List CloudVolume) :
    List.Forall₂ TagWarning (volumes.filter fun v => decide v.IsDamaged)
      (clusterVolumes cluster volumes).diagnostics := by
  induction volumes with
  | nil => exact .nil
  | cons v rest ih =>
      rw [clusterVolumes, List.filter_cons]
      rcases v.belongsTo_diagnostics cluster with ⟨damaged, d, warns, told⟩ | ⟨sound, silent⟩
      · simp only [damaged, decide_true, if_true, told]
        exact .cons warns ih
      · simp only [sound, decide_false, Bool.false_eq_true, if_false, silent]
        exact ih

/-- No part of a listing plays a part in how another is treated. -/
theorem clusterVolumes_append (cluster : Uuid) (earlier later : List CloudVolume) :
    (clusterVolumes cluster (earlier ++ later)).value =
        (clusterVolumes cluster earlier).value ++ (clusterVolumes cluster later).value ∧
      (clusterVolumes cluster (earlier ++ later)).diagnostics =
        (clusterVolumes cluster earlier).diagnostics ++
          (clusterVolumes cluster later).diagnostics := by
  constructor
  · rw [clusterVolumes_value, clusterVolumes_value, clusterVolumes_value, List.filter_append]
  · induction earlier with
    | nil => rfl
    | cons v rest ih => simp only [List.cons_append, clusterVolumes, ih, List.append_assoc]

/-! ### Histories of the cloud's tags -/

/-- A step of a history: the tags of a volume are recorded, the cloud refuses to look tags up
from now on, or a volume is looked up. -/
inductive TagStep where
  | record (volume : String) (tags : Tags)
  | refuse
  | fetch (cluster : Uuid) (volume : String) (size : UInt64) (attachedTo : Option String)
deriving DecidableEq

namespace TagStep

/-- The cloud after a step. -/
def apply (s : ScriptedCloud) : TagStep → ScriptedCloud
  | record volume tags => s.setTags volume tags
  | refuse => { s with refusesTags := true }
  | fetch cluster volume size attachedTo =>
      (fetchClusterVolume s cluster volume size attachedTo).2

/-- The tags that a step records of a volume. -/
def tagsOf? (volume : String) : TagStep → Option Tags
  | record other tags => if other = volume then some tags else none
  | refuse => none
  | fetch .. => none

/-- A step that looks a volume up. -/
def isFetch : TagStep → Bool
  | record .. => false
  | refuse => false
  | fetch .. => true

end TagStep

/-- The cloud after the steps of a history. -/
def ScriptedCloud.after (history : List TagStep) : ScriptedCloud :=
  history.foldl TagStep.apply {}

/-- The tags that a history recorded of a volume last; a volume without any has no tags. -/
def latestTags (volume : String) (history : List TagStep) : Tags :=
  (history.reverse.findSome? (TagStep.tagsOf? volume)).getD []

section Histories

variable {s : ScriptedCloud} {cluster : Uuid} {volume : String} {size : UInt64}
  {attachedTo : Option String} {history : List TagStep}

/-- A look-up is counted and changes nothing else. -/
theorem fetchClusterVolume_snd :
    (fetchClusterVolume s cluster volume size attachedTo).2 =
      { s with tagLookups := s.tagLookups + 1 } := by
  unfold fetchClusterVolume ScriptedCloud.lookUpTags
  cases s.refusesTags <;> rfl

/-- A cloud that looks tags up decides of a single volume as of a listing of it alone. -/
theorem fetchClusterVolume_of_answers (answers : s.refusesTags = false) :
    (fetchClusterVolume s cluster volume size attachedTo).1 =
      let v : CloudVolume := ⟨volume, size, attachedTo, (s.tags.lookup volume).getD []⟩
      .ok ⟨(clusterVolumes cluster [v]).value.head?,
        (clusterVolumes cluster [v]).diagnostics⟩ := by
  simp only [fetchClusterVolume, ScriptedCloud.lookUpTags, answers, Bool.false_eq_true, if_false,
    clusterVolumes, List.append_nil]
  split <;> rfl

theorem fetchClusterVolume_of_refuses (refuses : s.refusesTags = true) :
    (fetchClusterVolume s cluster volume size attachedTo).1 = .error (.tags volume) := by
  simp only [fetchClusterVolume, ScriptedCloud.lookUpTags, refuses, if_true]

theorem after_concat (history : List TagStep) (step : TagStep) :
    ScriptedCloud.after (history ++ [step]) = step.apply (ScriptedCloud.after history) :=
  List.foldl_concat ..

theorem latestTags_concat (volume : String) (history : List TagStep) (step : TagStep) :
    latestTags volume (history ++ [step]) =
      (step.tagsOf? volume).getD (latestTags volume history) := by
  rw [latestTags, List.reverse_concat, List.findSome?_cons]
  cases step.tagsOf? volume <;> rfl

/-- A cloud refuses to look tags up once it was told to. -/
theorem refusesTags_after (history : List TagStep) :
    (ScriptedCloud.after history).refusesTags = decide (TagStep.refuse ∈ history) := by
  induction history using List.reverseRecOn with
  | nil => rfl
  | append_singleton earlier step ih =>
      rw [after_concat]
      cases step with
      | record other tags => simpa [TagStep.apply, ScriptedCloud.setTags] using ih
      | refuse => simp [TagStep.apply]
      | fetch => simpa [TagStep.apply, fetchClusterVolume_snd] using ih

/-- The tags that a cloud finds are those that were recorded last. -/
theorem lookup_tags_after (volume : String) (history : List TagStep) :
    ((ScriptedCloud.after history).tags.lookup volume).getD [] = latestTags volume history := by
  induction history using List.reverseRecOn with
  | nil => rfl
  | append_singleton earlier step ih =>
      rw [after_concat, latestTags_concat, ← ih]
      cases step with
      | record other tags =>
          by_cases same : other = volume
          · subst same
            simp [TagStep.apply, TagStep.tagsOf?, ScriptedCloud.setTags]
          · have skip : (volume == other) = false := beq_eq_false_iff_ne.mpr (Ne.symm same)
            simp [TagStep.apply, TagStep.tagsOf?, ScriptedCloud.setTags, same, List.lookup_cons,
              skip]
      | refuse => rfl
      | fetch => simp [TagStep.apply, TagStep.tagsOf?, fetchClusterVolume_snd]

/-- As many look-ups are counted as volumes were looked up. -/
theorem tagLookups_after (history : List TagStep) :
    (ScriptedCloud.after history).tagLookups = history.countP TagStep.isFetch := by
  induction history using List.reverseRecOn with
  | nil => rfl
  | append_singleton earlier step ih =>
      rw [after_concat, List.countP_append]
      cases step with
      | record other tags => simpa [TagStep.apply, TagStep.isFetch, ScriptedCloud.setTags] using ih
      | refuse => simpa [TagStep.apply, TagStep.isFetch] using ih
      | fetch => simp [TagStep.apply, TagStep.isFetch, fetchClusterVolume_snd, ih]

/-- Whatever was recorded before, a volume is looked up once.  The cloud refuses if it was told
to; otherwise the answer is that of a listing of the one volume with its latest tags. -/
theorem fetchClusterVolume_after (history : List TagStep) (cluster : Uuid) (volume : String)
    (size : UInt64) (attachedTo : Option String) :
    fetchClusterVolume (ScriptedCloud.after history) cluster volume size attachedTo =
      (if TagStep.refuse ∈ history then .error (.tags volume)
        else
          let v : CloudVolume := ⟨volume, size, attachedTo, latestTags volume history⟩
          .ok ⟨(clusterVolumes cluster [v]).value.head?, (clusterVolumes cluster [v]).diagnostics⟩,
        { ScriptedCloud.after history with tagLookups := history.countP TagStep.isFetch + 1 }) := by
  refine Prod.ext ?_ ?_
  · by_cases refused : TagStep.refuse ∈ history
    · have refuses : (ScriptedCloud.after history).refusesTags = true := by
        simp [refusesTags_after, refused]
      rw [fetchClusterVolume_of_refuses refuses, if_pos refused]
    · have answers : (ScriptedCloud.after history).refusesTags = false := by
        simp [refusesTags_after, refused]
      rw [fetchClusterVolume_of_answers answers, if_neg refused, lookup_tags_after]
  · rw [fetchClusterVolume_snd, tagLookups_after]

end Histories

/-! ### Both entry points -/

/-- A listing keeps exactly the volumes whose cluster tag spells the cluster, unchanged and in
order, and tells of exactly those whose tag spells nothing, of each once and in order; parts
of a listing do not affect each other.  A single look-up asks the cloud once, fails exactly if
the cloud was told to refuse, and otherwise keeps the volume and tells of it as a listing
would, with the tags that were recorded of it last. -/
theorem clusterVolumes_and_fetch_agree :
    (∀ (cluster : Uuid) (volumes : List CloudVolume),
      (clusterVolumes cluster volumes).value =
        (volumes.filter fun v => decide (v.IsTaggedFor cluster)) ∧
      List.Forall₂ TagWarning (volumes.filter fun v => decide v.IsDamaged)
        (clusterVolumes cluster volumes).diagnostics) ∧
    (∀ (cluster : Uuid) (earlier later : List CloudVolume),
      (clusterVolumes cluster (earlier ++ later)).value =
        (clusterVolumes cluster earlier).value ++ (clusterVolumes cluster later).value ∧
      (clusterVolumes cluster (earlier ++ later)).diagnostics =
        (clusterVolumes cluster earlier).diagnostics ++
          (clusterVolumes cluster later).diagnostics) ∧
    (∀ (history : List TagStep) (cluster : Uuid) (volume : String) (size : UInt64)
        (attachedTo : Option String),
      (ScriptedCloud.after history).tagLookups = history.countP TagStep.isFetch ∧
      fetchClusterVolume (ScriptedCloud.after history) cluster volume size attachedTo =
        (if TagStep.refuse ∈ history then .error (.tags volume)
          else
            let v : CloudVolume := ⟨volume, size, attachedTo, latestTags volume history⟩
            .ok ⟨(clusterVolumes cluster [v]).value.head?,
              (clusterVolumes cluster [v]).diagnostics⟩,
          { ScriptedCloud.after history with
            tagLookups := history.countP TagStep.isFetch + 1 })) := by
  refine ⟨?_, clusterVolumes_append, ?_⟩
  · intro cluster volumes
    exact ⟨clusterVolumes_value cluster volumes, clusterVolumes_diagnostics cluster volumes⟩
  · intro history cluster volume size attachedTo
    exact ⟨tagLookups_after history,
      fetchClusterVolume_after history cluster volume size attachedTo⟩

end VolumeAttach
