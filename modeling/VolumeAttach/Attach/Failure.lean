/-
Module: VolumeAttach.Attach.Failure
Purpose: How an attach fails.
Main exports: AttachError, AttachError.message, AttachError.isRetryable,
  AttachError.finalStage
-/
import VolumeAttach.Attach.Stage
import VolumeAttach.Host.Sight
import VolumeAttach.Slot.Selection

namespace VolumeAttach

/-- Why an attach failed; `ε` is the type of the cloud's refusals. -/
inductive AttachError (ε : Type) where
  /-- Every slot is taken. -/
  | noFreeSlot (cause : NoFreeSlot)
  /-- The requested slot has no name that the kernel shows. -/
  | invalidName (cause : NameError)
  /-- The listing of the host's devices cannot be read. -/
  | inventory (cause : InventoryError)
  /-- The slot, or the name it would surface as, is in the baseline. -/
  | slotInUse (requested expected : DevicePath)
  /-- An attach of the same volume is still running. -/
  | alreadyInFlight (volume : String)
  /-- No device surfaced in time; the volume stays attached. -/
  | neverAppeared (volume : String) (requested expected : DevicePath)
  /-- Another device surfaced, or several did; the volume was detached. -/
  | unexpectedDevice (requested : DevicePath) (discovered : Option DevicePath)
  /-- As before, but the detach was refused; the volume may still be attached. -/
  | rollbackFailed (requested : DevicePath) (discovered : Option DevicePath) (cause : ε)
  /-- The cloud refused the attach. -/
  | cloud (cause : ε)
deriving Repr, DecidableEq

namespace AttachError

variable {ε : Type}

/-- How a failure names the discovered device. -/
def describe : Option DevicePath → String
  | some path => path.text
  | none => "no unambiguous device"

/-- The wording of a failure. -/
def message [ToString ε] : AttachError ε → String
  | noFreeSlot cause => cause.message
  | invalidName cause => cause.message
  | inventory cause => "failed to read host devices: " ++ cause.message
  | slotInUse requested expected =>
      "device slot " ++ requested.text ++ " is already in use as " ++ expected.text
  | alreadyInFlight volume => "an attach for volume " ++ volume ++ " is already in progress"
  | neverAppeared volume requested expected =>
      "volume " ++ volume ++ " attached at " ++ requested.text ++ " but " ++ expected.text ++
        " never appeared"
  | unexpectedDevice requested discovered =>
      "attach at " ++ requested.text ++ " surfaced as " ++ describe discovered ++
        "; volume detached"
  | rollbackFailed requested discovered cause =>
      "attach at " ++ requested.text ++ " surfaced as " ++ describe discovered ++
        " and the rollback detach failed: " ++ toString cause
  | cloud cause => toString cause

/-- The wording of the cause behind a failure that adds words of its own to it. -/
def source? [ToString ε] : AttachError ε → Option String
  | inventory cause => some cause.message
  | rollbackFailed _ _ cause => some (toString cause)
  | _ => none

/-- Whether the caller may try again. -/
def isRetryable : AttachError ε → Bool
  | noFreeSlot _ => true
  | invalidName _ => false
  | inventory (.deviceNotFound _) => true
  | inventory _ => false
  | slotInUse .. => true
  | alreadyInFlight _ => true
  | neverAppeared .. => true
  | unexpectedDevice .. => false
  | rollbackFailed .. => false
  | cloud _ => false

/-- The stage in which an attach that fails this way stops. -/
def finalStage : AttachError ε → Stage
  | noFreeSlot _ => .idle
  | invalidName _ => .idle
  | inventory _ => .idle
  | slotInUse .. => .idle
  | alreadyInFlight _ => .idle
  | neverAppeared .. => .failed
  | unexpectedDevice .. => .rolledBack
  | rollbackFailed .. => .failed
  | cloud _ => .failed

end AttachError
end VolumeAttach
