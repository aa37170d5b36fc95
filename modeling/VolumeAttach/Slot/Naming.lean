/-
Module: VolumeAttach.Slot.Naming
Purpose: The slots that the cloud accepts, and the names under which the kernel
  shows a device there.
Main exports: Scheme, Naming, NameError, Naming.expected, Naming.requested,
  Naming.slotLetters?, DeviceNaming
-/
import VolumeAttach.Device.Path
import VolumeAttach.Text.Blank

namespace VolumeAttach

/-!
A slot is requested under a name of the family `sd`.  Guests of a Xen
hypervisor show it in the family `xvd` with the same letters; other hosts keep
the requested name.  Renaming swaps the family and keeps the letters, so it can
be undone.
-/

/-- How a hypervisor renames requested slots. -/
inductive Scheme where
  | xen
  | identity
deriving Repr, DecidableEq, Inhabited

/-- The family of the names that the cloud's attach call accepts. -/
def requestedFamily : String := "sd"

namespace Scheme

/-- The family of the names that the kernel shows. -/
def kernelFamily : Scheme → String
  | .xen => "xvd"
  | .identity => requestedFamily

/-- The scheme of a name in lower case without blanks around it. -/
def ofName? : String → Option Scheme
  | "xen" => some .xen
  | "identity" => some .identity
  | _ => none

/-- The form in which a scheme's name is compared: without blanks around it and
with ASCII letters in lower case. -/
def normalName (text : String) : String :=
  String.ofList ((Text.trimBlank text.toList).map Char.toLower)

/-- Read the name of a scheme; a failure gives the name that is unknown. -/
def parse (text : String) : Except String Scheme :=
  match ofName? (normalName text) with
  | some scheme => .ok scheme
  | none => .error (normalName text)

/-- The wording for an unknown scheme. -/
def unknownMessage (name : String) : String :=
  "unknown naming scheme '" ++ name ++ "' (expected xen or identity)"

end Scheme

/-- Why a path has no counterpart under the other names. -/
inductive NameFault where
  /-- The path is not directly below the directory of device files. -/
  | outsideRoot (root : DevicePath)
  /-- The name is not the family followed by lower-case letters. -/
  | unrecognisedFamily (family : String)
deriving Repr, DecidableEq

/-- A path without a counterpart, with the reason. -/
structure NameError where
  path : DevicePath
  fault : NameFault
deriving Repr, DecidableEq

/-- The wording of a reason. -/
def NameFault.message : NameFault → String
  | .outsideRoot root => "not located under " ++ root.text
  | .unrecognisedFamily family => "not a " ++ family ++ "<letters> device"

/-- The wording of a rejection. -/
def NameError.message (e : NameError) : String :=
  "invalid device name " ++ e.path.text ++ ": " ++ e.fault.message

/-- What follows the family's characters in a name, if it is one or more ASCII
lower-case letters and nothing else. -/
def lettersAfter? (family name : List Char) : Option (List Char) :=
  match family.isPrefixOf? name with
  | some letters =>
      if letters ≠ [] ∧ letters.all Char.isLower = true then some letters else none
  | none => none

/-- The letters of a name in a family. -/
def familyLetters? (family name : String) : Option String :=
  (lettersAfter? family.toList name.toList).map String.ofList

/-- The directory of device files together with the hypervisor's scheme. -/
structure Naming where
  scheme : Scheme := .xen
  root : DevicePath := ⟨"/dev"⟩
deriving Repr, DecidableEq, Inhabited

namespace Naming

/-- The letters of a device file directly below the root in one family. -/
def lettersOf (n : Naming) (family : String) (path : DevicePath) : Except NameError String :=
  match path.parent? with
  | none => .error ⟨path, .outsideRoot n.root⟩
  | some parent =>
      if parent ≈ n.root then
        match path.fileName?.bind (familyLetters? family) with
        | some letters => .ok letters
        | none => .error ⟨path, .unrecognisedFamily family⟩
      else .error ⟨path, .outsideRoot n.root⟩

/-- The device file in one family with given letters. -/
def device (n : Naming) (family letters : String) : DevicePath :=
  DevicePath.under n.root (family ++ letters)

/-- The device file under which the kernel shows a requested slot. -/
def expected (n : Naming) (slot : DevicePath) : Except NameError DevicePath :=
  (n.lettersOf requestedFamily slot).map (n.device n.scheme.kernelFamily)

/-- The slot whose device the kernel shows as the given file. -/
def requested (n : Naming) (file : DevicePath) : Except NameError DevicePath :=
  (n.lettersOf n.scheme.kernelFamily file).map (n.device requestedFamily)

/-- The letters of a kernel name in either family; the kernel's own family is
tried first. -/
def slotLetters? (n : Naming) (name : String) : Option String :=
  (familyLetters? n.scheme.kernelFamily name).or (familyLetters? requestedFamily name)

end Naming

/-!
Other hosts follow conventions of their own, so whatever needs names asks a strategy
for them.  Nothing is assumed of how the answers of a strategy fit together.
-/

/-- A strategy that says under which names slots are requested and seen. -/
class DeviceNaming (ν : Type) where
  /-- The directory of device files. -/
  root : ν → DevicePath
  /-- The device file under which the kernel shows a requested slot. -/
  expected : ν → DevicePath → Except NameError DevicePath
  /-- The slot whose device the kernel shows as the given file. -/
  requested : ν → DevicePath → Except NameError DevicePath
  /-- The letters of a kernel name that belongs to some slot. -/
  slotLetters? : ν → String → Option String

@[default_instance]
instance : DeviceNaming Naming where
  root := Naming.root
  expected := Naming.expected
  requested := Naming.requested
  slotLetters? := Naming.slotLetters?

end VolumeAttach
