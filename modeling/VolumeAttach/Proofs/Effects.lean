/-
Module: VolumeAttach.Proofs.Effects
Purpose: What an attach does to the cloud and to the host, read off the way it ended.
Main exports: Outcome.exchanges, Outcome.discovered?, Site.Ending.asked_eq,
  Site.run_exchanges
-/
import VolumeAttach.Proofs.Endings

namespace VolumeAttach

/-!
The end of an attach is all that its caller learns, so it has to say in what state the
cloud was left.  It does: of two attaches for one order at one slot that end alike, the
same was asked of the cloud and the same was answered.
-/

namespace Outcome

variable {ε : Type}

/-- What the cloud was asked for an attach that ended in a given way, with the answers. -/
def exchanges (order : Order) (slot : DevicePath) : Outcome ε → List (Exchange ε)
  | .ok _ => [⟨.attach order.volume.id order.compute slot, .ok ()⟩]
  | .error (.neverAppeared ..) => [⟨.attach order.volume.id order.compute slot, .ok ()⟩]
  | .error (.cloud cause) => [⟨.attach order.volume.id order.compute slot, .error cause⟩]
  | .error (.unexpectedDevice ..) =>
      [⟨.attach order.volume.id order.compute slot, .ok ()⟩, ⟨.detach order.volume.id, .ok ()⟩]
  | .error (.rollbackFailed _ _ cause) =>
      [⟨.attach order.volume.id order.compute slot, .ok ()⟩,
        ⟨.detach order.volume.id, .error cause⟩]
  | .error (.alreadyInFlight _) => []
  | .error (.invalidName _) => []
  | .error (.slotInUse ..) => []
  | .error (.inventory _) => []
  | .error (.noFreeSlot _) => []

/-- The device that a failure names, if it is one that names the device that was found. -/
def discovered? : Outcome ε → Option (Option DevicePath)
  | .error (.unexpectedDevice _ discovered) => some discovered
  | .error (.rollbackFailed _ discovered _) => some discovered
  | _ => none

theorem exchanges_of_idle {failure : AttachError ε} (idle : failure.finalStage = .idle)
    (order : Order) (slot : DevicePath) : exchanges order slot (.error failure) = [] := by
  cases failure with
  | neverAppeared => cases idle
  | unexpectedDevice => cases idle
  | rollbackFailed => cases idle
  | cloud => cases idle
  | _ => rfl

theorem discovered?_of_idle {failure : AttachError ε} (idle : failure.finalStage = .idle) :
    discovered? (.error failure) = none := by
  cases failure with
  | unexpectedDevice => cases idle
  | rollbackFailed => cases idle
  | _ => rfl

end Outcome

/-- Only a device of its own name, or none for several, is detached. -/
theorem Agent.conclude_detaching_inv {ε ν : Type} [DeviceNaming ν] {a : Agent ν} {plan : Plan}
    {finding : Finding} {discovered : Option DevicePath}
    (h : (a.conclude (ε := ε) plan finding).value = .running (.detaching plan discovered)) :
    (∃ name, finding = .found name ∧
      discovered = some ((DeviceNaming.root a.naming).under name)) ∨
    (∃ names, finding = .ambiguous names ∧ discovered = none) := by
  cases finding with
  | found name =>
      by_cases same : (DeviceNaming.root a.naming).under name ≈ plan.expected
      · rw [conclude_found_of_equiv same] at h
        cases h
      · rw [conclude_found_of_not_equiv same] at h
        cases h
        exact .inl ⟨name, rfl, rfl⟩
  | ambiguous names =>
      rw [conclude_ambiguous] at h
      cases h
      exact .inr ⟨names, rfl, rfl⟩
  | notFound => cases h

namespace Site

variable {σ κ ε ν : Type} [DeviceNaming ν] [ToString ε] {site : Site σ κ ε ν} {order : Order}
  {w final : World σ κ ε} {outcome : Outcome ε} {asked : List (Exchange ε)} {told : Journal}
  {host : σ}

/-! ### Each ending -/

theorem Ending.asked_eq (ending : site.Ending order w outcome asked told host) :
    ∃ slot, asked = outcome.exchanges order slot ∧
      (asked ≠ [] → order.slot? site.agent.naming (site.host.look w.host).1 = some slot) := by
  cases ending with
  | stopped stops =>
      refine ⟨default, ?_, fun asks => absurd rfl asks⟩
      rw [Outcome.exchanges_of_idle (finalStage_of_opening stops)]
  | @refused plan cause setsOut =>
      obtain ⟨volume, compute, slot, -⟩ := plan_of_opening setsOut
      refine ⟨plan.requested, ?_, fun _ => slot⟩
      rw [volume, compute]
      rfl
  | @judged plan report outcome setsOut watched verdict =>
      obtain ⟨volume, compute, slot, -⟩ := plan_of_opening setsOut
      refine ⟨plan.requested, ?_, fun _ => slot⟩
      rw [volume, compute]
      rcases Agent.conclude_ended verdict with rfl | rfl <;> rfl
  | @detached plan report discovered answer outcome setsOut watched verdict answered =>
      obtain ⟨volume, compute, slot, -⟩ := plan_of_opening setsOut
      refine ⟨plan.requested, ?_, fun _ => slot⟩
      rw [volume, compute]
      cases answer with
      | ok =>
          cases answered
          rfl
      | error cause =>
          cases answered
          rfl

/-- An attach that the cloud refused has not watched. -/
theorem Ending.host_of_cloud {cause : ε}
    (ending : site.Ending order w (.error (.cloud cause)) asked told host) :
    host = order.hostAtStart site.host w.host := by
  cases ending with
  | stopped stops => cases finalStage_of_opening stops
  | refused setsOut => exact opening_host ..
  | judged setsOut watched verdict =>
      rcases Agent.conclude_ended verdict with other | other <;> cases other
  | @detached plan report discovered answer _ setsOut watched verdict answered =>
      cases answer <;> cases answered

/-- An attach that names what was discovered has watched, and names what the watch found. -/
theorem Ending.watched_of_discovered {discovered : Option DevicePath}
    (ending : site.Ending order w outcome asked told host)
    (h : outcome.discovered? = some discovered) :
    ∃ baseline report, order.baseline? (site.host.look w.host).1 = some baseline ∧
      (Watch.start site.agent.settings baseline order.volume.size w.clock).Ends site.host w.clock
        (order.hostAtStart site.host w.host) report ∧ host = report.host ∧
      ((∃ name, report.finding = .found name ∧
          discovered = some ((DeviceNaming.root site.agent.naming).under name)) ∨
        (∃ names, report.finding = .ambiguous names ∧ discovered = none)) := by
  cases ending with
  | stopped stops =>
      rw [Outcome.discovered?_of_idle (finalStage_of_opening stops)] at h
      cases h
  | refused setsOut => cases h
  | judged setsOut watched verdict =>
      rcases Agent.conclude_ended verdict with rfl | rfl <;> cases h
  | @detached plan report found answer _ setsOut watched verdict answered =>
      obtain ⟨volume, -, -, baseline⟩ := plan_of_opening setsOut
      have same : found = discovered := by
        cases answer <;>
        · cases answered
          exact Option.some.inj h
      rw [watchFor, volume, opening_host] at watched
      rw [← same]
      exact ⟨plan.baseline, report, baseline, watched, rfl, Agent.conclude_detaching_inv verdict⟩

/-! ### The whole attach -/

/-- How an attach ends determines what the cloud was asked for it and what it answered.  The
record is that of the cloud itself: put to it one after the other, the same calls get the
same answers and leave it in the state in which the attach does.  Every attach is for the
volume and the compute instance of the order, at the slot that it asks for, and every detach
is of that volume.  An attach that the cloud refused leaves the host as it was when the cloud
was asked; one that names what was discovered ends with the watch, and names the device that
the watch found, or none if it found several.  The attach is carried out on its own, by an
ideal clock that counts whole milliseconds. -/
theorem run_exchanges {answer : Answer ε} (h : site.run order w = some (answer, final)) :
    ∃ slot,
      final.exchanges = (answer.outcome.exchanges order slot).reverse ++ w.exchanges ∧
      site.cloud.answerAll w.cloud ((answer.outcome.exchanges order slot).map Exchange.call) =
        (answer.outcome.exchanges order slot, final.cloud) ∧
      (answer.outcome.exchanges order slot ≠ [] →
        order.slot? site.agent.naming (site.host.look w.host).1 = some slot) ∧
      (∀ cause, answer.outcome = .error (.cloud cause) →
        final.host = order.hostAtStart site.host w.host) ∧
      ∀ discovered, answer.outcome.discovered? = some discovered →
        ∃ baseline turns report, order.baseline? (site.host.look w.host).1 = some baseline ∧
          Watch.run site.host turns
            (Watch.start site.agent.settings baseline order.volume.size w.clock) w.clock []
            (order.hostAtStart site.host w.host) = some report ∧
          final.host = report.host ∧
          ((∃ name, report.finding = .found name ∧
              discovered = some ((DeviceNaming.root site.agent.naming).under name)) ∨
            (∃ names, report.finding = .ambiguous names ∧ discovered = none)) := by
  obtain ⟨asked, told, ending, grows⟩ := ending_of_run h
  obtain ⟨slot, same, requested⟩ := ending.asked_eq
  refine ⟨slot, ?_, ?_, ?_, ?_, ?_⟩
  · rw [grows.exchanges, same]
  · rw [← same, grows.answered]
  · rw [← same]
    exact requested
  · intro cause refused
    rw [refused] at ending
    exact ending.host_of_cloud
  · intro discovered names
    obtain ⟨baseline, report, listed, ends, host, found⟩ := ending.watched_of_discovered names
    obtain ⟨turns, watched⟩ := ends.exists_run []
    exact ⟨baseline, turns, report, listed, watched, host, found⟩

/-- A volume that is seen as `/dev/xvdk` though it was attached as `/dev/sdj` is detached. -/
theorem run_exchanges_of_other_device :
    let site : Site Nat ScriptedCloud Refusal := ⟨{}, surfacing "xvdk", ScriptedCloud.cloud⟩
    let order : Order :=
      ⟨.ofSevenBytes "vol-1", "i-1", .slot ⟨"/dev/sdj"⟩ (NameSet.ofList ["sda"])⟩
    ∃ answer final, site.run order { host := 0, cloud := {} } = some (answer, final) ∧
      final.exchanges =
        [⟨.detach "vol-1", .ok ()⟩, ⟨.attach "vol-1" "i-1" ⟨"/dev/sdj"⟩, .ok ()⟩] ∧
      ScriptedCloud.cloud.answerAll {}
          [.attach "vol-1" "i-1" ⟨"/dev/sdj"⟩, .detach "vol-1"] =
        ([⟨.attach "vol-1" "i-1" ⟨"/dev/sdj"⟩, .ok ()⟩, ⟨.detach "vol-1", .ok ()⟩],
          final.cloud) := by
  intro site order
  have ends : (site.run order { host := 0, cloud := {} }).map (fun r => r.1.outcome) =
      some (.error (.unexpectedDevice ⟨"/dev/sdj"⟩ (some ⟨"/dev/xvdk"⟩))) := by
    decide +kernel
  obtain ⟨⟨answer, final⟩, runs, outcome⟩ := Option.map_eq_some_iff.mp ends
  obtain ⟨slot, exchanges, answered, requested, -⟩ := run_exchanges runs
  rw [outcome] at exchanges answered requested
  obtain rfl : slot = ⟨"/dev/sdj"⟩ := Option.some.inj (requested (by simp [Outcome.exchanges])).symm
  exact ⟨answer, final, runs, exchanges, answered⟩

end Site
end VolumeAttach
