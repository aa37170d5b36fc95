/-
Module: VolumeAttach.Attach.Call
Purpose: One attach as a machine that stops wherever it has to wait.
Main exports: Order, Agent, Plan, Suspension, Suspension.question?, Status, Turn, Agent.begin,
  Agent.attachAnswered, Agent.woken, Agent.detachAnswered
-/
import VolumeAttach.Attach.Failure
import VolumeAttach.Cloud
import VolumeAttach.Volume
import VolumeAttach.Watch

namespace VolumeAttach

/-!
An attach waits in three places: for the cloud's answer to the attach, for the
end of a sleep between two looks at the host, and for the cloud's answer to a
detach.  Between two waits it runs without interruption.  A `Suspension` says
where it waits and holds all that it needs in order to go on, so that any
number of attaches can be carried on side by side and each may be dropped
wherever it waits.

The functions below are the uninterrupted stretches.  Each gives what was told
and how the attach stands afterwards.
-/

/-- Where a volume is to be attached. -/
inductive Place where
  /-- In the lowest slot that a fresh listing shows to be free. -/
  | anyFree
  /-- In a given slot, judged by the names that were listed before. -/
  | slot (requested : DevicePath) (baseline : NameSet)
deriving DecidableEq

/-- What a caller asks for. -/
structure Order where
  volume : Volume
  compute : String
  place : Place
deriving DecidableEq

/-- What every attach on one host has in common. -/
structure Agent (ν : Type := Naming) where
  naming : ν := by exact default
  settings : WatchSettings := {}
deriving Repr, DecidableEq

/-- An order that passed every check and may be sent to the cloud. -/
structure Plan where
  volume : Volume
  compute : String
  requested : DevicePath
  expected : DevicePath
  baseline : NameSet
deriving DecidableEq

/-- Where an attach waits. -/
inductive Suspension where
  /-- For the cloud's answer to the attach. -/
  | attaching (plan : Plan)
  /-- For the time at which the watch wants to look again. -/
  | watching (plan : Plan) (watch : Watch) (wake : Nat)
  /-- For the cloud's answer to the detach. -/
  | detaching (plan : Plan) (discovered : Option DevicePath)
deriving DecidableEq

namespace Suspension

/-- The plan that is being carried out. -/
def plan : Suspension → Plan
  | .attaching plan => plan
  | .watching plan _ _ => plan
  | .detaching plan _ => plan

/-- The volume that is being attached. -/
def volumeId (s : Suspension) : String := s.plan.volume.id

/-- The stage in which an attach waits. -/
def stage : Suspension → Stage
  | .attaching _ => .attaching
  | .watching .. => .awaitingDevice
  | .detaching .. => .verifying

/-- What the cloud is asked before an attach can go on. -/
def question? : Suspension → Option CloudCall
  | .attaching plan => some (.attach plan.volume.id plan.compute plan.requested)
  | .watching .. => none
  | .detaching plan _ => some (.detach plan.volume.id)

/-- The earliest time at which an attach can go on, as far as it depends on the
clock. -/
def wake : Suspension → Nat
  | .attaching _ => 0
  | .watching _ _ wake => wake
  | .detaching .. => 0

end Suspension

/-- A volume that is attached, with the device file under which it is seen. -/
structure AttachedVolume where
  volume : Volume
  device : DevicePath
deriving Repr, DecidableEq

/-- How an attach ends. -/
abbrev Outcome (ε : Type) := Except (AttachError ε) AttachedVolume

/-- How an attach stands after an uninterrupted stretch. -/
inductive Status (ε : Type) where
  | running (suspension : Suspension)
  | ended (outcome : Outcome ε)

/-- An uninterrupted stretch of an attach. -/
structure Turn (σ ε : Type) where
  host : σ
  diagnostics : List Diagnostic
  status : Status ε

/-- Whether the name of a device file is in a set. -/
def isListed (names : NameSet) (file : DevicePath) : Bool :=
  match file.fileName? with
  | some name => decide (name ∈ names)
  | none => false

namespace Agent

variable {σ ε ν : Type} [DeviceNaming ν]

/-- The checks before the cloud is asked: no attach of the same volume may be
running, the slot must have a name that the kernel shows, and neither name of it
may be in the baseline. -/
def plan (a : Agent ν) (busy : Bool) (volume : Volume) (compute : String)
    (requested : DevicePath) (baseline : NameSet) : Reported (Except (AttachError ε) Plan) :=
  if busy then
    ⟨.error (.alreadyInFlight volume.id), [.alreadyInFlight volume.id]⟩
  else match DeviceNaming.expected a.naming requested with
    | .error cause => ⟨.error (.invalidName cause), []⟩
    | .ok expected =>
        if isListed baseline requested || isListed baseline expected then
          ⟨.error (.slotInUse requested expected), []⟩
        else ⟨.ok ⟨volume, compute, requested, expected, baseline⟩, []⟩

/-- Set out with a slot and a baseline. -/
def setOut (a : Agent ν) (busy : Bool) (volume : Volume) (compute : String)
    (requested : DevicePath) (baseline : NameSet) (s : σ) : Turn σ ε :=
  let checked := a.plan (ε := ε) busy volume compute requested baseline
  match checked.value with
  | .error failure => ⟨s, checked.diagnostics, .ended (.error failure)⟩
  | .ok plan =>
      ⟨s, checked.diagnostics ++ [.transition volume.id .idle .attaching],
        .running (.attaching plan)⟩

/-- The first stretch.  It ends with the question to the cloud, unless a check
fails before it. -/
def begin (a : Agent ν) (host : Host σ) (busy : Bool) (order : Order) (s : σ) : Turn σ ε :=
  match order.place with
  | .slot requested baseline =>
      a.setOut busy order.volume order.compute requested baseline s
  | .anyFree =>
      let (sight, next) := host.look s
      match sight.listing with
      | .error cause => ⟨next, [], .ended (.error (.inventory cause))⟩
      | .ok baseline =>
          let choice := DeviceNaming.selectFreeReported a.naming baseline
          match choice.value with
          | .error cause => ⟨next, choice.diagnostics, .ended (.error (.noFreeSlot cause))⟩
          | .ok requested =>
              let t := a.setOut busy order.volume order.compute requested baseline next
              { t with
                diagnostics := choice.diagnostics ++
                  .slotSelected order.volume.id requested :: t.diagnostics }

/-- Judge what the watch found.  Only the expected device is accepted; any
other, and an ambiguous finding, leads to a detach. -/
def conclude (a : Agent ν) (plan : Plan) (finding : Finding) : Reported (Status ε) :=
  let verify (discovered : Option DevicePath) : Reported (Status ε) :=
    let verifying := Diagnostic.transition plan.volume.id .awaitingDevice .verifying
    let isExpected := match discovered with
      | some path => decide (path ≈ plan.expected)
      | none => false
    if isExpected then
      ⟨.ended (.ok ⟨plan.volume.attached plan.compute, plan.expected⟩),
        [verifying, .transition plan.volume.id .verifying .attached,
          .attached plan.volume.id plan.compute plan.expected]⟩
    else
      ⟨.running (.detaching plan discovered),
        [verifying, .unexpectedDevice plan.volume.id plan.requested plan.expected discovered]⟩
  match finding with
  | .found name => verify (some (DevicePath.under (DeviceNaming.root a.naming) name))
  | .ambiguous _ => verify none
  | .notFound =>
      ⟨.ended (.error (.neverAppeared plan.volume.id plan.requested plan.expected)),
        [.transition plan.volume.id .awaitingDevice .failed,
          .neverAppeared plan.volume.id plan.requested plan.expected a.settings.limit]⟩

/-- Go on after a turn of the watch. -/
def afterWatch (a : Agent ν) (plan : Plan) (t : Watch.Turn σ) : Turn σ ε :=
  match t.next with
  | .asleep watch wake => ⟨t.host, t.diagnostics, .running (.watching plan watch wake)⟩
  | .ended finding =>
      let judged := a.conclude plan finding
      ⟨t.host, t.diagnostics ++ judged.diagnostics, judged.value⟩

/-- Go on with the cloud's answer to the attach. -/
def attachAnswered (a : Agent ν) (host : Host σ) (plan : Plan) (now : Nat)
    (answer : Except ε Unit) (s : σ) : Turn σ ε :=
  match answer with
  | .error cause =>
      ⟨s, [.transition plan.volume.id .attaching .failed], .ended (.error (.cloud cause))⟩
  | .ok () =>
      let watch := Watch.start a.settings plan.baseline plan.volume.size now
      let t := a.afterWatch plan (watch.turn host now s)
      { t with
        diagnostics :=
          .transition plan.volume.id .attaching .awaitingDevice :: t.diagnostics }

/-- Go on after a sleep. -/
def woken (a : Agent ν) (host : Host σ) (plan : Plan) (watch : Watch) (now : Nat) (s : σ) :
    Turn σ ε :=
  a.afterWatch plan (watch.turn host now s)

/-- Go on with the cloud's answer to the detach. -/
def detachAnswered [ToString ε] (plan : Plan) (discovered : Option DevicePath)
    (answer : Except ε Unit) : Reported (Status ε) :=
  match answer with
  | .ok () =>
      ⟨.ended (.error (.unexpectedDevice plan.requested discovered)),
        [.transition plan.volume.id .verifying .rolledBack]⟩
  | .error cause =>
      ⟨.ended (.error (.rollbackFailed plan.requested discovered cause)),
        [.transition plan.volume.id .verifying .failed,
          .detachFailed plan.volume.id plan.requested discovered (toString cause)]⟩

end Agent
end VolumeAttach
