/-
Module: VolumeAttach.Slot.Selection
Purpose: Choosing the lowest free slot, and runs of reservations.
Main exports: slotLetters, NoFreeSlot, DeviceNaming.selectFree, Reservation,
  Reservation.apply
-/
import VolumeAttach.Diagnostic
import VolumeAttach.Slot.Naming

namespace VolumeAttach

/-!
There are twenty-six slots, one for each lower-case letter.  A letter is taken
when some name in use carries exactly that letter in the requested family or in
the kernel's; names with more letters, with digits or of another family take
nothing.
-/

/-- The letters of the slots in the order in which they are tried. -/
def slotLetters : List Char :=
  ['a', 'b', 'c', 'd', 'e', 'f', 'g', 'h', 'i', 'j', 'k', 'l', 'm',
   'n', 'o', 'p', 'q', 'r', 's', 't', 'u', 'v', 'w', 'x', 'y', 'z']

/-- Every slot is taken. -/
inductive NoFreeSlot where
  | allTaken
deriving Repr, DecidableEq

/-- The wording when every slot is taken. -/
def NoFreeSlot.message (_ : NoFreeSlot) : String :=
  "no available device slot: all letters a-z are allocated"

namespace DeviceNaming

variable {ν : Type} [DeviceNaming ν]

/-- The letters that the names in use take. -/
def takenLetters (n : ν) (inUse : NameSet) : List String :=
  inUse.toList.filterMap (slotLetters? n)

/-- The slot of a letter. -/
def slot (n : ν) (letter : Char) : DevicePath :=
  DevicePath.under (root n) (requestedFamily ++ String.singleton letter)

/-- The first slot in letter order that nothing takes. -/
def selectFree (n : ν) (inUse : NameSet) : Except NoFreeSlot DevicePath :=
  match slotLetters.find? fun c => !(takenLetters n inUse).contains (String.singleton c) with
  | some letter => .ok (slot n letter)
  | none => .error .allTaken

/-- Choosing a slot tells which names are in use. -/
def selectFreeReported (n : ν) (inUse : NameSet) :
    Reported (Except NoFreeSlot DevicePath) where
  value := selectFree n inUse
  diagnostics := [.selectingSlot inUse]

end DeviceNaming

namespace Naming

/-- The first slot in letter order that nothing takes, in either family. -/
abbrev selectFree (n : Naming) (inUse : NameSet) : Except NoFreeSlot DevicePath :=
  DeviceNaming.selectFree n inUse

/-- Choosing a slot tells which names are in use. -/
abbrev selectFreeReported (n : Naming) (inUse : NameSet) :
    Reported (Except NoFreeSlot DevicePath) :=
  DeviceNaming.selectFreeReported n inUse

end Naming

/-!
A reservation run works on a set of names.  Taking a slot chooses one and puts
the kernel's name of it into the set, so that the next choice finds it taken.
-/

/-- One step of a reservation run. -/
inductive Reservation where
  | add (name : String)
  | remove (name : String)
  | select
  | take
deriving Repr, DecidableEq

/-- The answer of one step. -/
inductive Reservation.Answer where
  /-- Whether adding or removing changed the set. -/
  | changed (yes : Bool)
  | selected (slot : Except NoFreeSlot DevicePath)
  /-- A slot together with the kernel's name of it. -/
  | taken (slot : DevicePath) (kernel : Except NameError DevicePath)

namespace Reservation

/-- The set after the kernel's name of a taken slot was put into it. -/
def reserve (inUse : NameSet) : Except NameError DevicePath → NameSet
  | .ok device => match device.fileName? with
      | some name => inUse.insert name
      | none => inUse
  | .error _ => inUse

/-- Carry out one step. -/
def apply (n : Naming) (inUse : NameSet) : Reservation → Answer × NameSet
  | add name => (.changed (decide (name ∉ inUse)), inUse.insert name)
  | remove name => (.changed (decide (name ∈ inUse)), inUse.erase name)
  | select => (.selected (n.selectFree inUse), inUse)
  | take => match n.selectFree inUse with
      | .error e => (.selected (.error e), inUse)
      | .ok slot => (.taken slot (n.expected slot), reserve inUse (n.expected slot))

/-- Carry out steps in order. -/
def applyAll (n : Naming) (inUse : NameSet) : List Reservation → List Answer × NameSet
  | [] => ([], inUse)
  | step :: rest =>
      let (answer, next) := apply n inUse step
      let (answers, final) := applyAll n next rest
      (answer :: answers, final)

end Reservation
end VolumeAttach
