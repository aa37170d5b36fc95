/-
Module: VolumeAttach.Proofs.Acceptance
Purpose: When an attach at a given slot ends well.
Main exports: Site.complete_watching, Site.complete_attaching, Site.run_slot_ok_iff
-/
import VolumeAttach.Cloud.Scripted
import VolumeAttach.Proofs.Looks
import VolumeAttach.Proofs.NameTranslation
import VolumeAttach.Proofs.Stretches

namespace VolumeAttach

/-!
An attach that has its slot from the caller sets out, asks the cloud, watches, and
judges what the watch found.  Carried on with nothing else running, the part between
the cloud's answer and the judgement is a run of the watch on its own, so that what
is known of watches holds of attaches.
-/

/-- A watch sleeps until an instant that is not past. -/
theorem Watch.le_wake_of_asleep {σ : Type} {host : Host σ} {w watch : Watch} {now wake : Nat}
    {s : σ} (h : (w.turn host now s).next = .asleep watch wake) : now ≤ wake := by
  unfold Watch.turn at h
  split at h
  · cases h
  · rcases w.afterScan_cases now (host.look s).1 with ⟨found, -, ends⟩ | ⟨-, candidates, sleeps⟩
    · simp only [ends] at h
      cases h
    · simp only [sleeps] at h
      cases h
      exact Nat.le_add_right ..

/-- An attach that waits for an answer lets no time pass. -/
@[simp] theorem World.passUntil_zero {σ κ ε : Type} (w : World σ κ ε) : w.passUntil 0 = w := by
  rw [passUntil, Nat.max_eq_left (Nat.zero_le _)]

theorem World.passUntil_of_le {σ κ ε : Type} {w : World σ κ ε} {instant : Nat}
    (early : w.clock ≤ instant) : w.passUntil instant = { w with clock := instant } := by
  rw [passUntil, Nat.max_eq_right early]

namespace Site

variable {σ κ ε : Type} [ToString ε] {site : Site σ κ ε} {w : World σ κ ε}

/-- What has ended is complete, however many stretches are left. -/
@[simp] theorem complete_ended {ν : Type} [DeviceNaming ν] {site : Site σ κ ε ν}
    (stretches : Nat) (outcome : Outcome ε) (w : World σ κ ε) :
    site.complete stretches (.ended outcome) w = some (outcome, w) := by
  cases stretches <;> rfl

/-- An attach that the cloud accepts goes on as one that is woken at once to watch. -/
theorem complete_attaching_of_ok {ν : Type} [DeviceNaming ν] {site : Site σ κ ε ν} {plan : Plan}
    (stretches : Nat)
    (accepted : (site.ask w (.attach plan.volume.id plan.compute plan.requested)).1 = .ok ()) :
    site.complete (stretches + 1) (.running (.attaching plan)) w =
      site.complete (stretches + 1)
        (.running (.watching plan
          (Watch.start site.agent.settings plan.baseline plan.volume.size w.clock) w.clock))
        ((site.ask w (.attach plan.volume.id plan.compute plan.requested)).2.tell
          [.transition plan.volume.id .attaching .awaitingDevice]) := by
  rw [complete, complete, Suspension.wake, World.passUntil_zero]
  simp only [resume, Suspension.question?, accepted, hear_attaching_ok]
  simp [World.passUntil, Suspension.wake, World.tell, ask]

/-! ### From the cloud's answer to the judgement -/

/-- The world in which the finding of a watch has been judged. -/
def judged (site : Site σ κ ε) (plan : Plan) (report : Watch.Report σ) (w : World σ κ ε) :
    World σ κ ε :=
  ({ w with
      clock := report.clock, host := report.host, told := report.diagnostics.reverse }.tell
    (site.agent.conclude (ε := ε) plan report.finding).diagnostics).settleRegistration
      plan.volume.id (site.agent.conclude (ε := ε) plan report.finding).value

/-- An attach that watches goes through the turns of its watch and then judges what
the watch found. -/
theorem complete_watching (plan : Plan) {turns : Nat} {watch : Watch} {wake : Nat}
    {report : Watch.Report σ} (early : w.clock ≤ wake)
    (h : Watch.run site.host turns watch wake w.told w.host = some report) :
    ∃ used ≤ turns, ∀ stretches,
      site.complete (stretches + used) (.running (.watching plan watch wake)) w =
        site.complete stretches (site.agent.conclude plan report.finding).value
          (site.judged plan report w) := by
  induction turns generalizing watch wake w with
  | zero => cases h
  | succ turns ih =>
      rw [Watch.run] at h
      have woken := World.passUntil_of_le early
      cases hnext : (watch.turn site.host wake w.host).next with
      | ended finding =>
          rw [hnext] at h
          cases h
          refine ⟨1, Nat.le_add_left 1 turns, fun stretches => ?_⟩
          simp only [complete, Suspension.wake, woken, resume, Suspension.question?, hear,
            Agent.woken, Agent.afterWatch, hnext, judged, World.tell, List.reverse_reverse,
            List.reverseAux_eq, List.reverse_append, List.append_assoc]
      | asleep later laterWake =>
          rw [hnext] at h
          obtain ⟨used, within, carried⟩ := ih
            (w := { w with
              clock := wake, host := (watch.turn site.host wake w.host).host,
              told := (watch.turn site.host wake w.host).diagnostics.reverseAux w.told })
            (Watch.le_wake_of_asleep hnext) h
          refine ⟨used + 1, Nat.succ_le_succ within, fun stretches => ?_⟩
          rw [← Nat.add_assoc]
          simp only [complete, Suspension.wake, woken, resume, Suspension.question?, hear,
            Agent.woken, Agent.afterWatch, hnext, World.tell, World.settleRegistration]
          exact carried stretches

/-- The judgement is followed by one answer of the cloud at most, and that answer
turns no bad end into a good one. -/
theorem complete_conclude (site : Site σ κ ε) (plan : Plan) (finding : Finding) (stretches : Nat)
    (w : World σ κ ε) :
    ∃ outcome final,
      site.complete (stretches + 1) (site.agent.conclude plan finding).value w =
        some (outcome, final) ∧
      ∀ result, outcome = .ok result ↔
        (site.agent.conclude (ε := ε) plan finding).value = .ended (.ok result) := by
  rcases Agent.conclude_cases (ε := ε) site.agent plan finding with
    ends | ⟨discovered, detaches⟩ | ends
  · rw [ends]
    exact ⟨_, _, complete_ended .., by simp⟩
  · rw [detaches]
    rw [complete]
    simp only [resume, Suspension.question?, hear, Agent.detachAnswered]
    cases (site.ask (w.passUntil (Suspension.detaching plan discovered).wake)
      (.detach plan.volume.id)).1 with
    | error cause => exact ⟨_, _, complete_ended .., by simp⟩
    | ok => exact ⟨_, _, complete_ended .., by simp⟩
  · rw [ends]
    exact ⟨_, _, complete_ended .., by simp⟩

/-! ### From the plan to the end -/

/-- With a plan an attach comes to its end.  It ends well exactly if the cloud accepts
and the first scan with a single candidate shows the expected device. -/
theorem complete_attaching (plan : Plan) (pause : 0 < site.agent.settings.interval)
    (s : World σ κ ε) (w : World σ κ ε) :
    ∃ outcome final,
      site.complete (site.stretchBound s) (.running (.attaching plan)) w =
        some (outcome, final) ∧
      ∀ result, outcome = .ok result ↔
        result = ⟨plan.volume.attached plan.compute, plan.expected⟩ ∧
        (site.cloud.answer w.cloud
          (.attach plan.volume.id plan.compute plan.requested)).1 = .ok () ∧
        ∃ k name, k * site.agent.settings.interval < site.agent.settings.effectiveLimit ∧
          site.host.FirstShows w.host plan.baseline plan.volume.size k name ∧
          site.agent.naming.root.under name ≈ plan.expected := by
  let scans := site.agent.settings.looks
  have bound : site.stretchBound s = scans + 2 + 1 := by
    simp only [stretchBound, Watch.turnBound, if_neg (Nat.ne_of_gt pause)]
    rfl
  cases hanswer : (site.ask w (.attach plan.volume.id plan.compute plan.requested)).1 with
  | error cause =>
      have refused : (site.cloud.answer w.cloud
          (.attach plan.volume.id plan.compute plan.requested)).1 = .error cause := hanswer
      rw [bound, complete, Suspension.wake, World.passUntil_zero]
      simp only [resume, Suspension.question?, hanswer, hear, Agent.attachAnswered]
      exact ⟨_, _, complete_ended .., by simp [refused]⟩
  | ok =>
      have accepted : (site.cloud.answer w.cloud
          (.attach plan.volume.id plan.compute plan.requested)).1 = .ok () := hanswer
      let asked := (site.ask w (.attach plan.volume.id plan.compute plan.requested)).2.tell
        [.transition plan.volume.id .attaching .awaitingDevice]
      let watch := Watch.start site.agent.settings plan.baseline plan.volume.size w.clock
      have watches : site.complete (scans + 2 + 1) (.running (.attaching plan)) w =
          site.complete (scans + 2 + 1) (.running (.watching plan watch w.clock)) asked :=
        complete_attaching_of_ok (scans + 2) hanswer
      obtain ⟨report, ends, finds⟩ := Watch.run_found_iff site.host scans watch w.clock pause
        (by simpa [watch, Watch.start] using WatchSettings.effectiveLimit_le_looks_mul pause)
        asked.told w.host
      obtain ⟨used, within, carried⟩ := complete_watching plan (w := asked)
        (Nat.le_refl w.clock) ends
      obtain ⟨left, hleft⟩ : ∃ left, scans + 2 + 1 = left + 1 + used :=
        ⟨scans + 2 - used, by omega⟩
      obtain ⟨outcome, final, done, good⟩ := complete_conclude site plan report.finding
        left (site.judged plan report asked)
      refine ⟨outcome, final, ?_, fun result => ?_⟩
      · rw [bound, watches, hleft, carried, done]
      · rw [good, Agent.conclude_eq_ok_iff]
        refine and_congr_right fun _ => ?_
        simp only [finds, accepted, true_and]
        constructor
        · rintro ⟨name, ⟨k, early, first⟩, same⟩
          exact ⟨k, name, by simpa [watch, Watch.start] using early, first, same⟩
        · rintro ⟨k, name, early, first, same⟩
          exact ⟨name, ⟨k, by simpa [watch, Watch.start] using early, first⟩, same⟩

/-! ### The whole attach -/

/-- An attach at a given slot, of a volume that is not being attached, comes to its
end.  It ends well exactly if the slot has a kernel name, neither name of it is in the
baseline, the cloud accepts, and the first scan before the deadline with exactly one
new device of the volume's size shows that device under the kernel's name of the
slot.  The device file is then the expected one.  The clock is an ideal one that counts
whole milliseconds, so the scans begin exactly one interval apart. -/
theorem run_slot_ok_iff (site : Site σ κ ε) (w : World σ κ ε) (volume : Volume)
    (compute : String) (requested : DevicePath) (baseline : NameSet)
    (pause : 0 < site.agent.settings.interval) (idle : volume.id ∉ w.inFlight)
    (entries : ∀ k listed, (site.host.sight w.host k).listing = .ok listed →
      ∀ name ∈ listed, IsEntryName name) :
    ∃ answer final,
      site.run ⟨volume, compute, .slot requested baseline⟩ w = some (answer, final) ∧
      ∀ result, answer.outcome = .ok result ↔
        ∃ expected, site.agent.naming.expected requested = .ok expected ∧
          result = ⟨volume.attached compute, expected⟩ ∧
          (∀ name, requested.fileName? = some name → name ∉ baseline) ∧
          (∀ name, expected.fileName? = some name → name ∉ baseline) ∧
          (site.cloud.answer w.cloud (.attach volume.id compute requested)).1 = .ok () ∧
          ∃ k name, k * site.agent.settings.interval < site.agent.settings.effectiveLimit ∧
            expected.fileName? = some name ∧
            site.host.FirstShows w.host baseline volume.size k name := by
  have free : w.inFlight.contains volume.id = false := by simpa using idle
  simp only [← isListed_eq_false_iff]
  cases hplan : (site.agent.plan (ε := ε) (w.inFlight.contains volume.id) volume compute
      requested baseline).value with
  | error failure =>
      rw [run, begin_slot_of_error hplan]
      simp only [complete_ended, Option.map_some]
      refine ⟨_, _, rfl, fun result => ⟨nofun, ?_⟩⟩
      rintro ⟨expected, hexpected, -, free₁, free₂, -⟩
      rw [Agent.plan_eq_ok_iff.mpr ⟨free, expected, hexpected, free₁, free₂, rfl⟩] at hplan
      cases hplan
  | ok plan =>
      obtain ⟨told, begun⟩ := begin_slot_of_ok hplan
      obtain ⟨-, expected, hexpected, free₁, free₂, rfl⟩ := Agent.plan_eq_ok_iff.mp hplan
      obtain ⟨outcome, final, done, good⟩ := complete_attaching
        ⟨volume, compute, requested, expected, baseline⟩ pause w
        { w with inFlight := volume.id :: w.inFlight, told := told }
      rw [run, begun]
      simp only [done, Option.map_some]
      refine ⟨_, _, rfl, fun result => (good result).trans ?_⟩
      -- The device file is the expected one exactly if it has the expected name.
      have named : ∀ k name, site.host.FirstShows w.host baseline volume.size k name →
          (site.agent.naming.root.under name ≈ expected ↔ expected.fileName? = some name) := by
        intro k name first
        obtain ⟨listed, hlisted, inside, -⟩ := (first.1 name).mpr rfl
        have entry := entries k listed hlisted name inside
        obtain ⟨kernel, -, rfl, hkernel⟩ := Naming.fileName?_of_expected hexpected
        constructor
        · intro same
          rw [← DevicePath.fileName?_congr same, DevicePath.fileName?_under _ entry]
        · intro same
          rw [hkernel] at same
          rw [DevicePath.equiv_iff, Option.some.inj same]
      constructor
      · rintro ⟨rfl, accepted, k, name, early, first, same⟩
        exact ⟨expected, hexpected, rfl, free₁, free₂, accepted, k, name, early,
          (named k name first).mp same, first⟩
      · rintro ⟨other, hother, rfl, -, -, accepted, k, name, early, same, first⟩
        obtain rfl := Except.ok.inj (hexpected.symm.trans hother)
        exact ⟨rfl, accepted, k, name, early, first, (named k name first).mpr same⟩

/-- A device of seven bytes that is there from the second look on. -/
def surfacing (name : String) : Host Nat :=
  Host.ofSights fun k =>
    ⟨.ok (NameSet.ofList (if k = 0 then ["sda"] else ["sda", name])), fun _ => .ok 7⟩

/-- Each look but the first shows it as the only candidate. -/
theorem isCandidate_surfacing {name : String} (new : name ≠ "sda") (k : Nat) (other : String) :
    ((surfacing name).sight 0 k).IsCandidate (NameSet.ofList ["sda"]) 7 other ↔
      k ≠ 0 ∧ other = name := by
  rw [surfacing, Host.sight_ofSights, Sight.IsCandidate]
  simp only [Except.ok.injEq, exists_eq_left', NameSet.mem_ofList]
  by_cases h : k = 0
  · simp [h]
  · simp only [Nat.zero_add, h, if_false, List.mem_cons, List.not_mem_nil, or_false,
      ne_eq, not_false_eq_true, true_and, and_true]
    constructor
    · rintro ⟨rfl | rfl, old⟩
      · exact absurd rfl old
      · rfl
    · rintro rfl
      exact ⟨.inr rfl, new⟩

/-- The slot `/dev/sdj` is seen as `/dev/xvdj`. -/
theorem run_surfacing_ok :
    ∃ answer final,
      Site.run ⟨{}, surfacing "xvdj", ScriptedCloud.cloud⟩
        ⟨.ofSevenBytes "vol-1", "i-1", .slot ⟨"/dev/sdj"⟩ (NameSet.ofList ["sda"])⟩
        { host := 0, cloud := {} } = some (answer, final) ∧
      answer.outcome =
        .ok ⟨(Volume.ofSevenBytes "vol-1").attached "i-1", ⟨"/dev/xvdj"⟩⟩ := by
  have entries : ∀ k listed, ((surfacing "xvdj").sight 0 k).listing = .ok listed →
      ∀ name ∈ listed, IsEntryName name := by
    intro k listed hlisted name inside
    rw [surfacing, Host.sight_ofSights] at hlisted
    obtain rfl := Except.ok.inj hlisted
    rw [NameSet.mem_ofList] at inside
    split at inside
    · rw [List.mem_singleton] at inside
      subst inside
      decide
    · rcases List.mem_pair.mp inside with rfl | rfl <;> decide
  have only : (surfacing "xvdj").FirstShows 0 (NameSet.ofList ["sda"]) 7 1 "xvdj" := by
    refine ⟨fun other => ?_, fun j early other shows => ?_⟩
    · simp [isCandidate_surfacing]
    · have candidate := (shows other).mpr rfl
      rw [isCandidate_surfacing (by decide)] at candidate
      omega
  obtain ⟨answer, final, ends, good⟩ := run_slot_ok_iff
    ⟨{}, surfacing "xvdj", ScriptedCloud.cloud⟩ { host := 0, cloud := {} }
    (.ofSevenBytes "vol-1") "i-1" ⟨"/dev/sdj"⟩ (NameSet.ofList ["sda"]) (by decide) (by decide)
    entries
  refine ⟨answer, final, ends, (good _).mpr ?_⟩
  refine ⟨⟨"/dev/xvdj"⟩, rfl, rfl, ?_, ?_, rfl, 1, "xvdj", by decide, rfl, only⟩
  · exact isListed_eq_false_iff.mp (by decide)
  · exact isListed_eq_false_iff.mp (by decide)

end Site
end VolumeAttach
