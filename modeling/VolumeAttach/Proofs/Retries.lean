/-
Module: VolumeAttach.Proofs.Retries
Purpose: What an attach leaves with the cloud when its failure says that it may be tried
  again.
Main exports: LeavesNothing, Outcome.isLeft, Outcome.leavesNothing_exchanges_iff,
  AttachError.isLeft_eq_false_iff_of_isRetryable, Site.run_retryable_leavesNothing_iff
-/
import VolumeAttach.Host.Script
import VolumeAttach.Proofs.Effects

namespace VolumeAttach

/-!
A caller that tries again asks the cloud for the same volume once more.  That is harmless
after an attempt that left nothing with the cloud, because it was not asked or because all
that it accepted was undone.  Of the failures that may be tried again all but one stop an
attach before the cloud is asked; the one exception leaves the volume attached.
-/

variable {ε : Type}

/-- Every attach that was accepted is followed by an accepted detach of its volume. -/
def LeavesNothing : List (Exchange ε) → Prop
  | [] => True
  | exchange :: later =>
      (∀ volume compute slot, exchange = ⟨.attach volume compute slot, .ok ()⟩ →
        ⟨.detach volume, .ok ()⟩ ∈ later) ∧ LeavesNothing later

section

variable {volume compute : String} {slot : DevicePath} {call : CloudCall} {cause : ε}
  {answer : Except ε Unit} {later : List (Exchange ε)}

@[simp] theorem leavesNothing_nil : LeavesNothing ([] : List (Exchange ε)) := trivial

@[simp] theorem leavesNothing_attach_iff :
    LeavesNothing (⟨.attach volume compute slot, .ok ()⟩ :: later) ↔
      ⟨.detach volume, .ok ()⟩ ∈ later ∧ LeavesNothing later := by
  rw [LeavesNothing]
  apply and_congr_left
  intro rest
  constructor
  · intro h
    exact h volume compute slot rfl
  · intro h other _ _ same
    cases same
    exact h

/-- What was refused leaves nothing. -/
@[simp] theorem leavesNothing_error_iff :
    LeavesNothing (⟨call, .error cause⟩ :: later) ↔ LeavesNothing later := by
  rw [LeavesNothing]
  exact and_iff_right nofun

@[simp] theorem leavesNothing_detach_iff :
    LeavesNothing (⟨.detach volume, answer⟩ :: later) ↔ LeavesNothing later := by
  rw [LeavesNothing]
  exact and_iff_right nofun

end

/-! ### What the way of ending says -/

/-- Whether an attach that ended in a given way left its volume attached. -/
def Outcome.isLeft : Outcome ε → Bool
  | .ok _ => true
  | .error (.neverAppeared ..) => true
  | .error (.rollbackFailed ..) => true
  | .error _ => false

/-- The way of ending tells whether anything was left with the cloud. -/
theorem Outcome.leavesNothing_exchanges_iff (outcome : Outcome ε) (order : Order)
    (slot : DevicePath) :
    LeavesNothing (outcome.exchanges order slot) ↔ outcome.isLeft = false := by
  cases outcome with
  | ok result => simp [exchanges, isLeft]
  | error failure => cases failure <;> simp [exchanges, isLeft]

namespace AttachError

variable {failure : AttachError ε}

/-- A failure that may be tried again stops an attach in its first stage, or is that of a
device that was never seen. -/
theorem idle_or_neverAppeared (retryable : failure.isRetryable = true) :
    failure.finalStage = .idle ∨
      ∃ volume requested expected, failure = .neverAppeared volume requested expected := by
  cases failure with
  | neverAppeared volume requested expected => exact .inr ⟨volume, requested, expected, rfl⟩
  | unexpectedDevice => cases retryable
  | rollbackFailed => cases retryable
  | cloud => cases retryable
  | _ => exact .inl rfl

/-- A failure in the first stage leaves nothing. -/
theorem isLeft_of_idle (idle : failure.finalStage = .idle) :
    Outcome.isLeft (.error failure) = false := by
  cases failure with
  | neverAppeared => cases idle
  | rollbackFailed => cases idle
  | _ => rfl

/-- Of the failures that may be tried again only that of a device that was never seen leaves
the volume attached. -/
theorem isLeft_eq_false_iff_of_isRetryable (retryable : failure.isRetryable = true) :
    Outcome.isLeft (.error failure) = false ↔
      ∀ volume requested expected, failure ≠ .neverAppeared volume requested expected := by
  rcases idle_or_neverAppeared retryable with idle | ⟨volume, requested, expected, rfl⟩
  · constructor
    · intro _ volume requested expected same
      rw [same] at idle
      cases idle
    · intro _
      exact isLeft_of_idle idle
  · constructor
    · intro nothing
      cases nothing
    · intro other
      exact absurd rfl (other volume requested expected)

end AttachError

namespace Site

variable {σ κ ν : Type} [DeviceNaming ν] [ToString ε] {site : Site σ κ ε ν} {order : Order}
  {w final : World σ κ ε}

/-- An attach that fails in a way that may be tried again has left nothing with the cloud,
unless it failed because no device was seen: that may be tried again by design, though the
volume stays attached.  What has left nothing has asked nothing, and the cloud is in the
state in which it was before.  The attach is carried out on its own, by an ideal clock that
counts whole milliseconds. -/
theorem run_retryable_leavesNothing_iff {answer : Answer ε} {failure : AttachError ε}
    (h : site.run order w = some (answer, final)) (fails : answer.outcome = .error failure)
    (retryable : failure.isRetryable = true) :
    ∃ asked, final.exchanges = asked.reverse ++ w.exchanges ∧
      site.cloud.answerAll w.cloud (asked.map Exchange.call) = (asked, final.cloud) ∧
      (LeavesNothing asked ↔
        ∀ volume requested expected, failure ≠ .neverAppeared volume requested expected) ∧
      (LeavesNothing asked → asked = [] ∧ final.cloud = w.cloud) := by
  obtain ⟨asked, told, ending, grows⟩ := ending_of_run h
  rw [fails] at ending
  obtain ⟨slot, same, -⟩ := ending.asked_eq
  have left : LeavesNothing asked ↔
      ∀ volume requested expected, failure ≠ .neverAppeared volume requested expected := by
    rw [same, Outcome.leavesNothing_exchanges_iff,
      AttachError.isLeft_eq_false_iff_of_isRetryable retryable]
  refine ⟨asked, grows.exchanges, grows.answered, left, ?_⟩
  intro nothing
  rcases AttachError.idle_or_neverAppeared retryable with
    idle | ⟨volume, requested, expected, never⟩
  · obtain ⟨-, rfl⟩ := ending.stopped_of_idle idle
    exact ⟨rfl, (congrArg Prod.snd grows.answered).symm⟩
  · exact absurd never (left.mp nothing volume requested expected)

/-- An attach at a slot that the kernel shows to be in use may be tried again at once. -/
theorem run_retryable_of_slotInUse :
    let site : Site Nat ScriptedCloud Refusal := ⟨{}, surfacing "xvdj", ScriptedCloud.cloud⟩
    let order : Order :=
      ⟨.ofSevenBytes "vol-1", "i-1", .slot ⟨"/dev/sdj"⟩ (NameSet.ofList ["sda", "xvdj"])⟩
    ∃ answer final asked, site.run order { host := 0, cloud := {} } = some (answer, final) ∧
      answer.outcome = .error (.slotInUse ⟨"/dev/sdj"⟩ ⟨"/dev/xvdj"⟩) ∧
      final.exchanges = asked.reverse ++ [] ∧ LeavesNothing asked ∧ final.cloud = {} := by
  intro site order
  have ends : (site.run order { host := 0, cloud := {} }).map (fun r => r.1.outcome) =
      some (.error (.slotInUse ⟨"/dev/sdj"⟩ ⟨"/dev/xvdj"⟩)) := by
    decide +kernel
  obtain ⟨⟨answer, final⟩, runs, outcome⟩ := Option.map_eq_some_iff.mp ends
  obtain ⟨asked, exchanges, -, nothing_iff, unchanged⟩ :=
    run_retryable_leavesNothing_iff runs outcome rfl
  have nothing : LeavesNothing asked := nothing_iff.mpr nofun
  exact ⟨answer, final, asked, runs, outcome, exchanges, nothing, (unchanged nothing).2⟩

/-- A volume whose device was never seen stays attached, and may be tried again all the
same. -/
theorem run_neverAppeared_left :
    let site : Site ScriptedHost ScriptedCloud Refusal :=
      ⟨{ settings := { limit := 20, interval := 3 } }, ScriptedHost.host, ScriptedCloud.cloud⟩
    let order : Order :=
      ⟨.ofSevenBytes "vol-1", "i-1", .slot ⟨"/dev/sdj"⟩ (NameSet.ofList ["sda"])⟩
    let host : ScriptedHost := { script := { snapshots := [[("sda", 8)]] } }
    ∃ answer final failure, site.run order { host, cloud := {} } = some (answer, final) ∧
      answer.outcome = .error failure ∧ failure.isRetryable = true ∧
      ¬ LeavesNothing final.exchanges.reverse := by
  intro site order host
  have ends : (site.run order { host, cloud := {} }).map
        (fun r => (r.1.outcome, r.2.exchanges.map fun x => (x.call, x.answer))) =
      some (.error (.neverAppeared "vol-1" ⟨"/dev/sdj"⟩ ⟨"/dev/xvdj"⟩),
        [(.attach "vol-1" "i-1" ⟨"/dev/sdj"⟩, .ok ())]) := by
    decide +kernel
  obtain ⟨⟨answer, final⟩, runs, both⟩ := Option.map_eq_some_iff.mp ends
  obtain ⟨outcome, exchanges⟩ := Prod.mk.inj both
  obtain ⟨⟨call, accepted⟩, only, same⟩ := List.map_eq_singleton_iff.mp exchanges
  cases same
  refine ⟨answer, final, _, runs, outcome, rfl, ?_⟩
  intro nothing
  rw [only] at nothing
  have detached := (leavesNothing_attach_iff.mp nothing).1
  cases detached

end Site
end VolumeAttach
