/-
Module: VolumeAttach.Attach.Stage
Purpose: The stages of an attach and the edges between them.
Main exports: Stage, Stage.label, Stage.canAdvance, Stage.isTerminal
-/

namespace VolumeAttach

/-- Where an attach stands. -/
inductive Stage where
  /-- The cloud has not been asked. -/
  | idle
  /-- The cloud has been asked and has not answered. -/
  | attaching
  /-- The cloud accepted; the device has not shown itself. -/
  | awaitingDevice
  /-- What showed itself is compared with what was expected. -/
  | verifying
  /-- The expected device is there. -/
  | attached
  /-- Another device showed itself and the volume was detached. -/
  | rolledBack
  /-- The cloud refused, no device showed itself, or the detach was refused. -/
  | failed
deriving Repr, DecidableEq

namespace Stage

/-- The written name of a stage. -/
def label : Stage → String
  | .idle => "idle"
  | .attaching => "attaching"
  | .awaitingDevice => "awaiting-device"
  | .verifying => "verifying"
  | .attached => "attached"
  | .rolledBack => "rolled-back"
  | .failed => "failed"

/-- The edges along which an attach may go. -/
def canAdvance : Stage → Stage → Bool
  | .idle, .attaching => true
  | .attaching, .awaitingDevice => true
  | .attaching, .failed => true
  | .awaitingDevice, .verifying => true
  | .awaitingDevice, .failed => true
  | .verifying, .attached => true
  | .verifying, .rolledBack => true
  | .verifying, .failed => true
  | _, _ => false

/-- The stages that an attach never leaves. -/
def isTerminal : Stage → Bool
  | .attached => true
  | .rolledBack => true
  | .failed => true
  | _ => false

/-- A stage is terminal exactly when no edge leaves it. -/
theorem isTerminal_iff (s : Stage) : s.isTerminal = true ↔ ∀ t, s.canAdvance t = false := by
  constructor
  · intro h t
    cases s <;> cases t <;> first | rfl | cases h
  · intro h
    cases s
    · exact absurd (h .attaching) (by decide)
    · exact absurd (h .failed) (by decide)
    · exact absurd (h .failed) (by decide)
    · exact absurd (h .failed) (by decide)
    all_goals rfl

end Stage
end VolumeAttach
