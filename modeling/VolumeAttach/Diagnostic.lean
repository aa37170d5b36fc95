/-
Module: VolumeAttach.Diagnostic
Purpose: The diagnostics of the library: what is told, how grave it is and how
  it is worded.
Main exports: Level, Diagnostic, Diagnostic.level, Diagnostic.message,
  Diagnostic.fields, Journal
-/
import VolumeAttach.Attach.Stage
import VolumeAttach.Device.Path
import VolumeAttach.Host.Sight
import VolumeAttach.Text.Quoted
import VolumeAttach.Uuid

namespace VolumeAttach

open Text

/-!
A diagnostic is a value that says what happened.  Its level, its message and
its fields follow from it, so that two diagnostics are the same event exactly
when they are equal as values.
-/

/-- How grave a diagnostic is. -/
inductive Level where
  | trace
  | debug
  | info
  | warn
  | error
deriving Repr, DecidableEq

namespace Level

/-- The written name of a level. -/
def label : Level → String
  | .trace => "TRACE"
  | .debug => "DEBUG"
  | .info => "INFO"
  | .warn => "WARN"
  | .error => "ERROR"

/-- The level of a written name. -/
def ofLabel? : String → Option Level
  | "TRACE" => some .trace
  | "DEBUG" => some .debug
  | "INFO" => some .info
  | "WARN" => some .warn
  | "ERROR" => some .error
  | _ => none

end Level

/-- Something that the library tells its operator. -/
inductive Diagnostic where
  | selectingSlot (inUse : NameSet)
  | slotSelected (volume : String) (requested : DevicePath)
  | alreadyInFlight (volume : String)
  | transition (volume : String) (source target : Stage)
  | attached (volume compute : String) (device : DevicePath)
  | neverAppeared (volume : String) (requested expected : DevicePath) (limit : Nat)
  | unexpectedDevice (volume : String) (requested expected : DevicePath)
      (discovered : Option DevicePath)
  | detachFailed (volume : String) (requested : DevicePath)
      (discovered : Option DevicePath) (cause : String)
  | listingFailed (cause : InventoryError)
  | deviceVanished (device : String)
  | sizeUnreadable (device : String) (cause : InventoryError)
  | severalCandidates (size : UInt64) (candidates : NameSet) (limit : Nat)
  | nothingAppeared (size : UInt64) (baseline : NameSet) (limit : Nat)
  | invalidClusterTag (volume value : String) (cause : UuidError)
deriving DecidableEq

namespace Diagnostic

/-- How a diagnostic names the discovered device. -/
def discoveredLabel : Option DevicePath → String
  | some path => path.text
  | none => "<ambiguous>"

/-- How grave each diagnostic is. -/
def level : Diagnostic → Level
  | selectingSlot .. => .debug
  | slotSelected .. => .debug
  | alreadyInFlight .. => .warn
  | transition .. => .debug
  | attached .. => .info
  | neverAppeared .. => .warn
  | unexpectedDevice .. => .warn
  | detachFailed .. => .error
  | listingFailed .. => .warn
  | deviceVanished .. => .debug
  | sizeUnreadable .. => .warn
  | severalCandidates .. => .warn
  | nothingAppeared .. => .warn
  | invalidClusterTag .. => .warn

/-- The wording of each diagnostic. -/
def message : Diagnostic → String
  | selectingSlot .. => "selecting free device slot"
  | slotSelected .. => "selected device slot"
  | alreadyInFlight .. => "attach already in progress for volume"
  | transition .. => "attach state transition"
  | attached .. => "volume attached"
  | neverAppeared .. => "attached volume never appeared on the host"
  | unexpectedDevice .. => "volume surfaced as an unexpected device; detaching"
  | detachFailed .. => "failed to detach volume after unexpected attachment"
  | listingFailed .. => "failed to list block devices; retrying"
  | deviceVanished .. => "new device vanished before its size was read"
  | sizeUnreadable .. => "failed to read device size; retrying"
  | severalCandidates .. => "several new devices match the expected size"
  | nothingAppeared .. => "no new device appeared in the OS"
  | invalidClusterTag .. => "invalid flocker-cluster-id tag on volume"

/-- The named values of each diagnostic, as text. -/
def fields : Diagnostic → List (String × String)
  | selectingSlot inUse => [("in_use", braced inUse.toList)]
  | slotSelected volume requested =>
      [("blockdevice_id", volume), ("requested", requested.text)]
  | alreadyInFlight volume => [("blockdevice_id", volume)]
  | transition volume source target =>
      [("blockdevice_id", volume), ("from", source.label), ("to", target.label)]
  | attached volume compute device =>
      [("blockdevice_id", volume), ("compute_id", compute), ("device", device.text)]
  | neverAppeared volume requested expected limit =>
      [("blockdevice_id", volume), ("requested", requested.text),
        ("expected", expected.text), ("time_limit", span limit)]
  | unexpectedDevice volume requested expected discovered =>
      [("blockdevice_id", volume), ("requested", requested.text),
        ("expected", expected.text), ("discovered", discoveredLabel discovered)]
  | detachFailed volume requested discovered cause =>
      [("blockdevice_id", volume), ("requested", requested.text),
        ("discovered", discoveredLabel discovered), ("error", cause)]
  | listingFailed cause => [("error", cause.message)]
  | deviceVanished device => [("device", device)]
  | sizeUnreadable device cause => [("device", device), ("error", cause.message)]
  | severalCandidates size candidates limit =>
      [("expected_size", toString size.toNat), ("candidates", braced candidates.toList),
        ("time_limit", span limit)]
  | nothingAppeared size baseline limit =>
      [("expected_size", toString size.toNat), ("baseline", braced baseline.toList),
        ("time_limit", span limit)]
  | invalidClusterTag volume value cause =>
      [("blockdevice_id", volume), ("value", value), ("error", cause.message)]

end Diagnostic

/-- A value together with the diagnostics told on the way to it. -/
structure Reported (α : Type) where
  value : α
  diagnostics : List Diagnostic

/-- The diagnostics of a run in the order in which they were told. -/
abbrev Journal := List Diagnostic

namespace Journal

/-- The wordings in order. -/
def messages (j : Journal) : List String := j.map Diagnostic.message

/-- How many diagnostics have a wording. -/
def count (j : Journal) (message : String) : Nat :=
  (j.filter fun d => d.message == message).length

/-- Some diagnostic has a wording. -/
def contains (j : Journal) (message : String) : Bool := 0 < j.count message

/-- Some diagnostic has a level and a wording. -/
def containsAt (j : Journal) (level : Level) (message : String) : Bool :=
  j.any fun d => d.level == level && d.message == message

/-- Some diagnostic gives a field a value. -/
def containsField (j : Journal) (field value : String) : Bool :=
  j.any fun d => d.fields.lookup field == some value

end Journal
end VolumeAttach
