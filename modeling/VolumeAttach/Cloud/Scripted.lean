/-
Module: VolumeAttach.Cloud.Scripted
Purpose: A cloud whose refusals are set in advance and that records its calls.
Main exports: Refusal, ScriptedCloud, ScriptedCloud.cloud, ScriptedCloud.lookUpTags
-/
import VolumeAttach.Cloud

namespace VolumeAttach

/-- The tags of a volume, a value for each key.  Of several values for one key
the first counts. -/
abbrev Tags := List (String × String)

/-- How the scripted cloud words a refusal. -/
inductive Refusal where
  | attach (volume : String)
  | detach (volume : String)
  | tags (volume : String)
deriving Repr, DecidableEq

/-- The wording of a refusal. -/
def Refusal.message : Refusal → String
  | .attach volume => "simulated attach failure for " ++ volume
  | .detach volume => "simulated detach failure for " ++ volume
  | .tags volume => "simulated tag lookup failure for " ++ volume

instance : ToString Refusal := ⟨Refusal.message⟩

/-- The state of the scripted cloud.  It accepts everything until it is told to
refuse one kind of call, and from then on refuses every call of that kind. -/
structure ScriptedCloud where
  /-- The calls so far in order, refused ones included. -/
  calls : List CloudCall := []
  tagLookups : Nat := 0
  /-- The tags of each volume; the latest entry of a volume counts. -/
  tags : List (String × Tags) := []
  refusesAttach : Bool := false
  refusesDetach : Bool := false
  refusesTags : Bool := false

namespace ScriptedCloud

/-- Answer a call.  It is recorded before it is refused. -/
def answer (s : ScriptedCloud) (call : CloudCall) : Except Refusal Unit × ScriptedCloud :=
  let recorded := { s with calls := s.calls ++ [call] }
  match call with
  | .attach volume _ _ =>
      (if s.refusesAttach then .error (.attach volume) else .ok (), recorded)
  | .detach volume =>
      (if s.refusesDetach then .error (.detach volume) else .ok (), recorded)

/-- The scripted cloud as a source of answers. -/
def cloud : Cloud ScriptedCloud Refusal := ⟨answer⟩

/-- Record the tags of a volume in place of any earlier ones. -/
def setTags (s : ScriptedCloud) (volume : String) (tags : Tags) : ScriptedCloud :=
  { s with tags := (volume, tags) :: s.tags }

/-- Look up the tags of a volume.  A volume without recorded tags has none; the
lookup is counted before it is refused. -/
def lookUpTags (s : ScriptedCloud) (volume : String) : Except Refusal Tags × ScriptedCloud :=
  let counted := { s with tagLookups := s.tagLookups + 1 }
  if s.refusesTags then (.error (.tags volume), counted)
  else (.ok ((s.tags.lookup volume).getD []), counted)

/-- The attach calls so far as volume, instance and slot. -/
def attachCalls (s : ScriptedCloud) : List (String × String × DevicePath) :=
  s.calls.filterMap fun
    | .attach volume compute slot => some (volume, compute, slot)
    | .detach _ => none

/-- The volumes of the detach calls so far. -/
def detachCalls (s : ScriptedCloud) : List String :=
  s.calls.filterMap fun
    | .attach .. => none
    | .detach volume => some volume

end ScriptedCloud
end VolumeAttach
