/-
Module: VolumeAttach.Proofs.ChosenSlots
Purpose: Attaches at any free slot.  What chooses a slot, what names it and what checks it
  agree, so no attach is rejected for the slot that was chosen for it.
Main exports: Agent.plan_of_selectFree, Site.opening_anyFree, Site.run_anyFree_of_listing
-/
import VolumeAttach.Proofs.Endings
import VolumeAttach.Proofs.FreeSlots

namespace VolumeAttach

/-!
Three views of a slot meet in an attach at any free slot.  The choice counts a letter as
taken if a listed name carries it in either family.  The checks take the path of the slot
apart again, name it anew in the kernel's family, and look for both names in the listing.
The end gives the device file that the checks computed.  Whatever directory the device
files are in and however its path is spelled, a slot that is chosen passes the checks.
-/

/-- A chosen slot passes the checks of an attach of a volume that is not busy. -/
theorem Agent.plan_of_selectFree {ε : Type} {a : Agent} {snapshot : NameSet} {slot : DevicePath}
    (chosen : a.naming.selectFree snapshot = .ok slot) (volume : Volume) (compute : String) :
    ∃ device, a.naming.expected slot = .ok device ∧
      (a.plan (ε := ε) false volume compute slot snapshot).value =
        .ok ⟨volume, compute, slot, device, snapshot⟩ := by
  obtain ⟨device, requested, kernel, translated, slotName, deviceName, unrequested, unseen⟩ :=
    Naming.selectFree_names chosen
  have slotFree := isListed_eq_false_of_named slotName unrequested
  have deviceFree := isListed_eq_false_of_named deviceName unseen
  exact ⟨device, translated,
    Agent.plan_eq_ok_iff.mpr ⟨rfl, device, translated, slotFree, deviceFree, rfl⟩⟩

namespace Site

variable {σ κ ε : Type} {site : Site σ κ ε} {w : World σ κ ε} {snapshot : NameSet}

/-- An attach at any free slot that has listed the host's names stops at once only for want
of a slot or because the volume is busy.  Otherwise it sets out for the slot that was chosen,
with the names that were listed and the device file that the slot translates to. -/
theorem opening_anyFree (seen : (site.host.look w.host).1.listing = .ok snapshot)
    (volume : Volume) (compute : String) :
    (∃ failure, (site.opening ⟨volume, compute, .anyFree⟩ w).status = .ended (.error failure) ∧
      (failure = .noFreeSlot .allTaken ∨ failure = .alreadyInFlight volume.id)) ∨
    (∃ slot device, site.agent.naming.selectFree snapshot = .ok slot ∧
      site.agent.naming.expected slot = .ok device ∧
      (site.opening ⟨volume, compute, .anyFree⟩ w).status =
        .running (.attaching ⟨volume, compute, slot, device, snapshot⟩)) := by
  cases hslot : site.agent.naming.selectFree snapshot with
  | error cause =>
      refine .inl ⟨.noFreeSlot cause, ?_, .inl rfl⟩
      simp only [opening, Agent.begin, seen, DeviceNaming.selectFreeReported, hslot]
  | ok slot =>
      have begins : (site.opening ⟨volume, compute, .anyFree⟩ w).status =
          (site.agent.setOut (ε := ε) (w.inFlight.contains volume.id) volume compute slot snapshot
            (site.host.look w.host).2).status := by
        simp only [opening, Agent.begin, seen, DeviceNaming.selectFreeReported, hslot]
      rw [begins, Agent.setOut_status]
      cases w.inFlight.contains volume.id with
      | true => exact .inl ⟨.alreadyInFlight volume.id, rfl, .inr rfl⟩
      | false =>
          obtain ⟨device, translated, passes⟩ :=
            Agent.plan_of_selectFree (ε := ε) hslot volume compute
          rw [passes]
          exact .inr ⟨slot, device, rfl, translated, rfl⟩

/-- What it sets out with is thereby determined. -/
theorem plan_of_opening_anyFree (seen : (site.host.look w.host).1.listing = .ok snapshot)
    {volume : Volume} {compute : String} {s : Suspension}
    (setsOut : (site.opening ⟨volume, compute, .anyFree⟩ w).status = .running s) :
    ∃ slot device, site.agent.naming.selectFree snapshot = .ok slot ∧
      site.agent.naming.expected slot = .ok device ∧
      s = .attaching ⟨volume, compute, slot, device, snapshot⟩ := by
  rcases opening_anyFree seen volume compute with
    ⟨failure, stops, -⟩ | ⟨slot, device, chosen, translated, goes⟩
  · rw [stops] at setsOut
    cases setsOut
  · rw [goes] at setsOut
    cases setsOut
    exact ⟨slot, device, chosen, translated, rfl⟩

/-- So is the failure with which it stops in its first stage. -/
theorem Ending.idle_of_anyFree [ToString ε] {volume : Volume} {compute : String}
    {failure : AttachError ε} {asked : List (Exchange ε)} {told : Journal} {host : σ}
    (seen : (site.host.look w.host).1.listing = .ok snapshot)
    (ending : site.Ending ⟨volume, compute, .anyFree⟩ w (.error failure) asked told host)
    (idle : failure.finalStage = .idle) :
    failure = .noFreeSlot .allTaken ∨ failure = .alreadyInFlight volume.id := by
  have stopped := (ending.stopped_of_idle idle).1
  rcases opening_anyFree seen volume compute with
    ⟨other, stops, which⟩ | ⟨slot, device, -, -, goes⟩
  · rw [stops] at stopped
    cases stopped
    exact which
  · rw [goes] at stopped
    cases stopped

/-- An attach at any free slot whose listing can be read is never rejected for the name of
its slot or because the slot is in use.  As soon as it waits for the cloud it has asked for
the slot that was chosen from the listing, and every attach that the cloud is asked for is at
that slot.  If it ends well, its device file is the one that this slot translates to, the name of
the file was not listed, and the volume is the given one with the given holder.  The attach
is carried out on its own, by an ideal clock that counts whole milliseconds. -/
theorem run_anyFree_of_listing [ToString ε] (site : Site σ κ ε) (w : World σ κ ε)
    (volume : Volume) (compute : String)
    (seen : (site.host.look w.host).1.listing = .ok snapshot) :
    (∀ s begun, site.begin ⟨volume, compute, .anyFree⟩ w = (.running s, begun) →
      ∃ slot, site.agent.naming.selectFree snapshot = .ok slot ∧
        s.question? = some (.attach volume.id compute slot)) ∧
    ∀ answer final, site.run ⟨volume, compute, .anyFree⟩ w = some (answer, final) →
      (∀ cause, answer.outcome ≠ .error (.invalidName cause)) ∧
      (∀ requested expected, answer.outcome ≠ .error (.slotInUse requested expected)) ∧
      (∃ asked : List (Exchange ε), final.exchanges = asked.reverse ++ w.exchanges ∧
        site.cloud.answerAll w.cloud (asked.map Exchange.call) = (asked, final.cloud) ∧
        ∀ exchange ∈ asked, exchange.call = .detach volume.id ∨
          ∃ slot, site.agent.naming.selectFree snapshot = .ok slot ∧
            exchange.call = .attach volume.id compute slot) ∧
      ∀ result, answer.outcome = .ok result →
        ∃ slot name, site.agent.naming.selectFree snapshot = .ok slot ∧
          site.agent.naming.expected slot = .ok result.device ∧
          result.device.fileName? = some name ∧ name ∉ snapshot ∧
          result.volume = { volume with attachedTo := some compute } := by
  constructor
  · intro s begun begins
    obtain ⟨slot, device, chosen, -, rfl⟩ :=
      plan_of_opening_anyFree seen (begin_opening begins).1
    exact ⟨slot, chosen, rfl⟩
  intro answer final runs
  obtain ⟨asked, told, ending, grows⟩ := ending_of_run runs
  refine ⟨?_, ?_, ⟨asked, grows.exchanges, grows.answered, ?_⟩, ?_⟩
  · intro cause rejected
    rw [rejected] at ending
    rcases ending.idle_of_anyFree seen rfl with other | other <;> cases other
  · intro requested expected rejected
    rw [rejected] at ending
    rcases ending.idle_of_anyFree seen rfl with other | other <;> cases other
  · intro exchange asks
    obtain ⟨plan, setsOut, call⟩ := ending.plan_of_asked asks
    obtain ⟨slot, device, chosen, -, same⟩ := plan_of_opening_anyFree seen setsOut
    cases same
    rcases call with attach | detach
    · exact .inr ⟨slot, chosen, attach⟩
    · exact .inl detach
  · intro result good
    rw [good] at ending
    obtain ⟨plan, setsOut, rfl⟩ := ending.plan_of_ok
    obtain ⟨slot, device, chosen, translated, same⟩ := plan_of_opening_anyFree seen setsOut
    cases same
    obtain ⟨other, requested, kernel, again, -, named, -, unseen⟩ :=
      Naming.selectFree_names chosen
    obtain rfl := Except.ok.inj (translated.symm.trans again)
    exact ⟨slot, kernel, chosen, translated, named, unseen, rfl⟩

/-- Below a root that is spelled as `dev/./` the slot `sdb` is chosen and seen as `xvdb`. -/
theorem run_anyFree_of_relative_root :
    let site : Site Nat ScriptedCloud Refusal :=
      ⟨{ naming := ⟨.xen, ⟨"dev/./"⟩⟩ }, surfacing "xvdb", ScriptedCloud.cloud⟩
    let device : DevicePath := ⟨"dev/./xvdb"⟩
    (site.host.look 0).1.listing = .ok (NameSet.ofList ["sda"]) ∧
    ∃ answer final slot name,
      site.run ⟨.ofSevenBytes "vol-1", "i-1", .anyFree⟩ { host := 0, cloud := {} } =
        some (answer, final) ∧
      answer.outcome = .ok ⟨(Volume.ofSevenBytes "vol-1").attached "i-1", device⟩ ∧
      site.agent.naming.selectFree (NameSet.ofList ["sda"]) = .ok slot ∧
      site.agent.naming.expected slot = .ok device ∧
      device.fileName? = some name ∧ name ∉ NameSet.ofList ["sda"] := by
  intro site device
  have seen : (site.host.look 0).1.listing = .ok (NameSet.ofList ["sda"]) := rfl
  have ends : (site.run ⟨.ofSevenBytes "vol-1", "i-1", .anyFree⟩
      { host := 0, cloud := {} }).map (fun r => r.1.outcome) =
      some (.ok ⟨(Volume.ofSevenBytes "vol-1").attached "i-1", device⟩) := by
    decide +kernel
  obtain ⟨⟨answer, final⟩, runs, good⟩ := Option.map_eq_some_iff.mp ends
  obtain ⟨-, whole⟩ := run_anyFree_of_listing site { host := 0, cloud := {} }
    (.ofSevenBytes "vol-1") "i-1" seen
  obtain ⟨-, -, -, succeeds⟩ := whole answer final runs
  obtain ⟨slot, name, chosen, translated, named, unseen, -⟩ := succeeds _ good
  exact ⟨seen, answer, final, slot, name, runs, good, chosen, translated, named, unseen⟩

end Site
end VolumeAttach
