/-
Module: VolumeAttach.Proofs.Stretches
Purpose: Everything that one uninterrupted stretch of an attach can do, to the
  attach and to the world.
Main exports: Plan.Suits, Agent.plan_eq_ok_iff, Agent.begin_cases, Agent.conclude_eq_ok_iff,
  Site.begin_cases, Site.hear_cases, Site.resume_inv
-/
import VolumeAttach.Attach.World

namespace VolumeAttach

/-- A volume of seven bytes, on which what is said of all volumes can be tried. -/
def Volume.ofSevenBytes (id : String) : Volume where
  dataset := ⟨List.replicate 32 ⟨0, by decide⟩, rfl⟩
  id := id
  size := 7
  attachedTo := none

/-! ### Beginning -/

/-- A file is listed if its name is in the set. -/
theorem isListed_eq_false_iff {names : NameSet} {file : DevicePath} :
    isListed names file = false ↔ ∀ name, file.fileName? = some name → name ∉ names := by
  unfold isListed
  cases file.fileName? <;> simp

theorem isListed_eq_false_of_named {names : NameSet} {file : DevicePath} {name : String}
    (named : file.fileName? = some name) (absent : name ∉ names) : isListed names file = false := by
  apply isListed_eq_false_iff.mpr
  intro other same
  rw [named] at same
  rwa [← Option.some.inj same]

/-- A plan that does what was ordered: the slot is the one that was asked for, or
the lowest that the baseline leaves free, and it passed every check. -/
structure Plan.Suits {ν : Type} [DeviceNaming ν] (plan : Plan) (a : Agent ν) (order : Order) :
    Prop where
  volume : plan.volume = order.volume
  compute : plan.compute = order.compute
  expected : DeviceNaming.expected a.naming plan.requested = .ok plan.expected
  requestedFree : isListed plan.baseline plan.requested = false
  expectedFree : isListed plan.baseline plan.expected = false
  place : match order.place with
    | .slot requested baseline => plan.requested = requested ∧ plan.baseline = baseline
    | .anyFree => DeviceNaming.selectFree a.naming plan.baseline = .ok plan.requested

namespace Agent

variable {σ ε ν : Type} [DeviceNaming ν] {a : Agent ν} {volume : Volume} {compute : String}
  {requested : DevicePath} {baseline : NameSet}

/-- The checks are passed exactly by a slot with a kernel name, neither name of
which is in the baseline, for a volume that is not busy. -/
theorem plan_eq_ok_iff {busy : Bool} {plan : Plan} :
    (a.plan (ε := ε) busy volume compute requested baseline).value = .ok plan ↔
      busy = false ∧ ∃ expected, DeviceNaming.expected a.naming requested = .ok expected ∧
        isListed baseline requested = false ∧ isListed baseline expected = false ∧
        plan = ⟨volume, compute, requested, expected, baseline⟩ := by
  unfold Agent.plan
  cases busy with
  | true => simp
  | false =>
      cases DeviceNaming.expected a.naming requested with
      | error cause => simp
      | ok expected =>
          simp only [Bool.false_eq_true, if_false, true_and, Except.ok.injEq, exists_eq_left']
          constructor
          · intro h
            split at h
            · cases h
            · rename_i free
              rw [Bool.or_eq_true, not_or, Bool.not_eq_true, Bool.not_eq_true] at free
              exact ⟨free.1, free.2, (Except.ok.inj h).symm⟩
          · rintro ⟨free₁, free₂, rfl⟩
            simp [free₁, free₂]

/-- A busy volume fails the checks for that reason, and no other does. -/
theorem plan_alreadyInFlight_iff {busy : Bool} {id : String} :
    (a.plan (ε := ε) busy volume compute requested baseline).value =
        .error (.alreadyInFlight id) ↔ busy = true ∧ id = volume.id := by
  unfold Agent.plan
  cases busy with
  | true => simp [eq_comm]
  | false =>
      cases DeviceNaming.expected a.naming requested with
      | error cause => simp
      | ok expected =>
          simp only [Bool.false_eq_true, if_false, false_and, iff_false]
          split <;> nofun

/-- Setting out ends at once, or waits for the cloud with a plan that passed. -/
theorem setOut_status (busy : Bool) (s : σ) :
    (a.setOut (ε := ε) busy volume compute requested baseline s).status =
      match (a.plan (ε := ε) busy volume compute requested baseline).value with
      | .error failure => .ended (.error failure)
      | .ok plan => .running (.attaching plan) := by
  simp only [setOut]
  split <;> simp_all

/-- So it ends at once, or waits with a slot that is free and a volume that is not busy. -/
theorem setOut_cases (a : Agent ν) (busy : Bool) (volume : Volume) (compute : String)
    (requested : DevicePath) (baseline : NameSet) (s : σ) :
    (∃ failure, (a.setOut (ε := ε) busy volume compute requested baseline s).status =
      .ended (.error failure)) ∨
    (∃ expected, (a.setOut (ε := ε) busy volume compute requested baseline s).status =
        .running (.attaching ⟨volume, compute, requested, expected, baseline⟩) ∧
      busy = false ∧ DeviceNaming.expected a.naming requested = .ok expected ∧
      isListed baseline requested = false ∧ isListed baseline expected = false) := by
  rw [setOut_status]
  cases hplan : (a.plan (ε := ε) busy volume compute requested baseline).value with
  | error failure => exact .inl ⟨failure, rfl⟩
  | ok plan =>
      obtain ⟨idle, expected, hexpected, free₁, free₂, rfl⟩ := plan_eq_ok_iff.mp hplan
      exact .inr ⟨expected, rfl, idle, hexpected, free₁, free₂⟩

/-- The first stretch ends at once, or waits for the cloud with a plan that does what was
ordered for a volume that is not busy. -/
theorem begin_cases (a : Agent ν) (host : Host σ) (busy : Bool) (order : Order) (s : σ) :
    (∃ failure, (a.begin (ε := ε) host busy order s).status = .ended (.error failure)) ∨
    (∃ plan, (a.begin (ε := ε) host busy order s).status = .running (.attaching plan) ∧
      plan.Suits a order ∧
      (order.place = .anyFree → (host.look s).1.listing = .ok plan.baseline) ∧ busy = false) := by
  obtain ⟨volume, compute, place⟩ := order
  cases place with
  | slot requested baseline =>
      rcases a.setOut_cases (ε := ε) busy volume compute requested baseline s with
        ends | ⟨expected, waits, idle, translated, free₁, free₂⟩
      · exact .inl ends
      · exact .inr ⟨_, waits, ⟨rfl, rfl, translated, free₁, free₂, rfl, rfl⟩, nofun, idle⟩
  | anyFree =>
      simp only [Agent.begin]
      cases hlisting : (host.look s).1.listing with
      | error cause => exact .inl ⟨.inventory cause, rfl⟩
      | ok baseline =>
          cases hslot : (DeviceNaming.selectFreeReported a.naming baseline).value with
          | error cause => exact .inl ⟨.noFreeSlot cause, by simp only [hslot]⟩
          | ok requested =>
              simp only [hslot]
              rcases a.setOut_cases (ε := ε) busy volume compute requested baseline
                  (host.look s).2 with
                ends | ⟨expected, waits, idle, translated, free₁, free₂⟩
              · exact .inl ends
              · exact .inr ⟨_, waits, ⟨rfl, rfl, translated, free₁, free₂, hslot⟩, fun _ => rfl,
                  idle⟩

/-! ### Judging what a watch found -/

variable {plan : Plan}

/-- The expected device is accepted, by whatever spelling its path comes. -/
theorem conclude_found_of_equiv {name : String}
    (same : (DeviceNaming.root a.naming).under name ≈ plan.expected) :
    (a.conclude (ε := ε) plan (.found name)).value =
      .ended (.ok ⟨plan.volume.attached plan.compute, plan.expected⟩) := by
  simp only [conclude, decide_eq_true same, if_true]

/-- Any other device leads to a detach. -/
theorem conclude_found_of_not_equiv {name : String}
    (other : ¬ (DeviceNaming.root a.naming).under name ≈ plan.expected) :
    (a.conclude (ε := ε) plan (.found name)).value =
      .running (.detaching plan (some ((DeviceNaming.root a.naming).under name))) := by
  simp only [conclude, decide_eq_false other, Bool.false_eq_true, if_false]

/-- So does more than one. -/
theorem conclude_ambiguous (names : NameSet) :
    (a.conclude (ε := ε) plan (.ambiguous names)).value = .running (.detaching plan none) := by
  simp only [conclude, Bool.false_eq_true, if_false]

/-- Nothing but the expected device lets an attach end well. -/
theorem conclude_eq_ok_iff {finding : Finding} {result : AttachedVolume} :
    (a.conclude (ε := ε) plan finding).value = .ended (.ok result) ↔
      result = ⟨plan.volume.attached plan.compute, plan.expected⟩ ∧
        ∃ name, finding = .found name ∧
          (DeviceNaming.root a.naming).under name ≈ plan.expected := by
  cases finding with
  | found name =>
      by_cases same : (DeviceNaming.root a.naming).under name ≈ plan.expected
      · rw [conclude_found_of_equiv same]
        constructor
        · rintro ⟨rfl⟩
          exact ⟨rfl, name, rfl, same⟩
        · rintro ⟨rfl, -⟩
          rfl
      · rw [conclude_found_of_not_equiv same]
        constructor
        · nofun
        · rintro ⟨-, other, ⟨rfl⟩, too⟩
          exact absurd too same
  | ambiguous names =>
      rw [conclude_ambiguous]
      constructor
      · nofun
      · rintro ⟨-, other, ⟨⟩, -⟩
  | notFound =>
      constructor
      · nofun
      · rintro ⟨-, other, ⟨⟩, -⟩

/-- The other two verdicts lead to a detach, or to an end that leaves the volume
where it is. -/
theorem conclude_cases (a : Agent ν) (plan : Plan) (finding : Finding) :
    (a.conclude (ε := ε) plan finding).value =
        .ended (.ok ⟨plan.volume.attached plan.compute, plan.expected⟩) ∨
      (∃ discovered,
        (a.conclude (ε := ε) plan finding).value = .running (.detaching plan discovered)) ∨
      (a.conclude (ε := ε) plan finding).value =
        .ended (.error (.neverAppeared plan.volume.id plan.requested plan.expected)) := by
  cases finding with
  | found name =>
      by_cases same : (DeviceNaming.root a.naming).under name ≈ plan.expected
      · exact .inl (conclude_found_of_equiv same)
      · exact .inr (.inl ⟨_, conclude_found_of_not_equiv same⟩)
  | ambiguous names => exact .inr (.inl ⟨none, conclude_ambiguous names⟩)
  | notFound => exact .inr (.inr rfl)

/-- After a turn of the watch an attach sleeps on, or what was found is judged. -/
theorem afterWatch_cases (a : Agent ν) (plan : Plan) (t : Watch.Turn σ) :
    (∃ watch wake, (a.afterWatch (ε := ε) plan t).status =
      .running (.watching plan watch wake)) ∨
    (∃ finding, (a.afterWatch (ε := ε) plan t).status =
      (a.conclude (ε := ε) plan finding).value) := by
  unfold afterWatch
  split
  · exact .inl ⟨_, _, rfl⟩
  · exact .inr ⟨_, rfl⟩

end Agent

/-- Whether the cloud has accepted the attach. -/
def Suspension.isAccepted : Suspension → Bool
  | .attaching _ => false
  | .watching .. => true
  | .detaching .. => true

/-- Whether the volume is still attached once the cloud has answered. -/
def Suspension.isHeldAfter {ε : Type} : Suspension → Except ε Unit → Bool
  | .attaching _, .ok () => true
  | .attaching _, .error _ => false
  | .watching .., _ => true
  | .detaching .., .ok () => false
  | .detaching .., .error _ => true

namespace Site

variable {σ κ ε ν : Type} [DeviceNaming ν] {site : Site σ κ ε ν} {order : Order}
  {w next : World σ κ ε} {status : Status ε}

variable {volume : Volume} {compute : String} {requested : DevicePath} {baseline : NameSet}

/-- An attach at a given slot that fails a check tells so and changes nothing else. -/
theorem begin_slot_of_error {failure : AttachError ε}
    (h : (site.agent.plan (w.inFlight.contains volume.id) volume compute requested
      baseline).value = .error failure) :
    site.begin ⟨volume, compute, .slot requested baseline⟩ w =
      (.ended (.error failure), w.tell (site.agent.plan (ε := ε) (w.inFlight.contains volume.id)
        volume compute requested baseline).diagnostics) := by
  simp only [Site.begin, Agent.begin, Agent.setOut, h]

/-- An attach at a given slot that passes the checks does not look at the host. -/
theorem begin_slot_of_ok {plan : Plan}
    (h : (site.agent.plan (ε := ε) (w.inFlight.contains volume.id) volume compute requested
      baseline).value = .ok plan) :
    ∃ told, site.begin ⟨volume, compute, .slot requested baseline⟩ w =
      (.running (.attaching plan),
        { w with inFlight := volume.id :: w.inFlight, told := told }) := by
  simp only [Site.begin, Agent.begin, Agent.setOut, h]
  exact ⟨_, rfl⟩

/-- A volume that is registered is rejected without a look at the host. -/
theorem begin_slot_of_inFlight (busy : volume.id ∈ w.inFlight) :
    site.begin ⟨volume, compute, .slot requested baseline⟩ w =
      (.ended (.error (.alreadyInFlight volume.id)), w.tell [.alreadyInFlight volume.id]) := by
  have checked : site.agent.plan (ε := ε) (w.inFlight.contains volume.id) volume compute
      requested baseline =
      ⟨.error (.alreadyInFlight volume.id), [.alreadyInFlight volume.id]⟩ := by
    rw [List.contains_iff_mem.mpr busy]
    rfl
  rw [begin_slot_of_error (by rw [checked]), checked]

/-- No other volume is rejected for that reason. -/
theorem begin_slot_alreadyInFlight_iff {id : String} :
    (site.begin ⟨volume, compute, .slot requested baseline⟩ w).1 =
      .ended (.error (.alreadyInFlight id)) ↔ volume.id ∈ w.inFlight ∧ id = volume.id := by
  have status : (site.begin ⟨volume, compute, .slot requested baseline⟩ w).1 =
      (site.agent.setOut (w.inFlight.contains volume.id) volume compute requested baseline
        w.host).status := rfl
  rw [status, Agent.setOut_status, ← List.contains_iff_mem,
    ← Agent.plan_alreadyInFlight_iff (a := site.agent)]
  split
  · rename_i failure hplan
    rw [hplan]
    constructor
    · rintro ⟨rfl⟩
      rfl
    · rintro ⟨rfl⟩
      rfl
  · rename_i plan hplan
    rw [hplan]
    exact ⟨nofun, nofun⟩

/-- To begin is to fail at once and to leave all but the host and the journal
alone, or to register a volume that was not registered and to wait for the cloud
with a suitable plan. -/
theorem begin_cases (h : site.begin order w = (status, next)) :
    (∃ failure, status = .ended (.error failure) ∧
      next = { w with host := next.host, told := next.told }) ∨
    (∃ plan, status = .running (.attaching plan) ∧ plan.Suits site.agent order ∧
      (order.place = .anyFree → (site.host.look w.host).1.listing = .ok plan.baseline) ∧
      order.volume.id ∉ w.inFlight ∧
      next = { w with
        host := next.host, told := next.told, inFlight := order.volume.id :: w.inFlight }) := by
  rcases site.agent.begin_cases (ε := ε) site.host (w.inFlight.contains order.volume.id) order
      w.host with ⟨failure, ends⟩ | ⟨plan, waits, suits, seen, idle⟩
  · simp only [Site.begin, ends] at h
    cases h
    exact .inl ⟨failure, rfl, rfl⟩
  · have unregistered : order.volume.id ∉ w.inFlight := by simpa using idle
    simp only [Site.begin, waits] at h
    cases h
    exact .inr ⟨plan, rfl, suits, seen, unregistered, rfl⟩

/-! ### Going on -/

variable [ToString ε] {plan : Plan} {watch : Watch} {wake : Nat} {answer : Except ε Unit}

/-- An attach that is accepted goes on as one that wakes to its first look. -/
theorem hear_attaching_ok (site : Site σ κ ε ν) (plan : Plan) (w : World σ κ ε) :
    site.hear (.attaching plan) (.ok ()) w =
      site.hear (.watching plan
          (Watch.start site.agent.settings plan.baseline plan.volume.size w.clock) w.clock)
        (.ok ()) (w.tell [.transition plan.volume.id .attaching .awaitingDevice]) := rfl

/-- An attach that watches waits again, or ends and gives up its registration. -/
theorem hear_watching_cases
    (h : site.hear (.watching plan watch wake) answer w = (status, next)) :
    (∃ later, status = .running later ∧ later.plan = plan ∧ later.isAccepted = true ∧
      next = { w with host := next.host, told := next.told }) ∨
    (∃ outcome, status = .ended outcome ∧
      (∀ result, outcome = .ok result →
        result = ⟨plan.volume.attached plan.compute, plan.expected⟩) ∧
      (∀ id, outcome ≠ .error (.alreadyInFlight id)) ∧
      next = { w with
        host := next.host, told := next.told, inFlight := w.inFlight.erase plan.volume.id }) := by
  simp only [hear, Agent.woken] at h
  rcases Agent.afterWatch_cases (ε := ε) site.agent plan (watch.turn site.host w.clock w.host) with
    ⟨watch, wake, sleeps⟩ | ⟨finding, judged⟩
  · rw [sleeps] at h
    cases h
    exact .inl ⟨_, rfl, rfl, rfl, rfl⟩
  rw [judged] at h
  rcases Agent.conclude_cases (ε := ε) site.agent plan finding with
    ends | ⟨discovered, detaches⟩ | ends
  · rw [ends] at h
    cases h
    exact .inr ⟨_, rfl, fun _ same => (Except.ok.inj same).symm, nofun, rfl⟩
  · rw [detaches] at h
    cases h
    exact .inl ⟨_, rfl, rfl, rfl, rfl⟩
  · rw [ends] at h
    cases h
    exact .inr ⟨_, rfl, nofun, nofun, rfl⟩

/-- To go on is to wait again with the same plan, the attach being accepted, or to
end and to give up the registration.  Only an attach that is held can end well, and
then with the device that the plan expects. -/
theorem hear_cases {s : Suspension} (h : site.hear s answer w = (status, next)) :
    (∃ later, status = .running later ∧ later.plan = s.plan ∧ later.isAccepted = true ∧
      s.isHeldAfter answer = true ∧ next = { w with host := next.host, told := next.told }) ∨
    (∃ outcome, status = .ended outcome ∧
      (∀ result, outcome = .ok result → s.isHeldAfter answer = true ∧
        result = ⟨s.plan.volume.attached s.plan.compute, s.plan.expected⟩) ∧
      (∀ id, outcome ≠ .error (.alreadyInFlight id)) ∧
      next = { w with
        host := next.host, told := next.told, inFlight := w.inFlight.erase s.volumeId }) := by
  cases s with
  | attaching plan =>
      cases answer with
      | error cause =>
          cases h
          exact .inr ⟨_, rfl, nofun, nofun, rfl⟩
      | ok =>
          rw [hear_attaching_ok] at h
          rcases hear_watching_cases h with
            ⟨later, waits, same, accepted, keeps⟩ | ⟨outcome, ends, well, other, releases⟩
          · exact .inl ⟨later, waits, same, accepted, rfl, keeps⟩
          · exact .inr ⟨outcome, ends, fun r hr => ⟨rfl, well r hr⟩, other, releases⟩
  | watching plan watch wake =>
      rcases hear_watching_cases h with
        ⟨later, waits, same, accepted, keeps⟩ | ⟨outcome, ends, well, other, releases⟩
      · exact .inl ⟨later, waits, same, accepted, rfl, keeps⟩
      · exact .inr ⟨outcome, ends, fun r hr => ⟨rfl, well r hr⟩, other, releases⟩
  | detaching plan discovered =>
      cases answer <;>
      · cases h
        exact .inr ⟨_, rfl, nofun, nofun, rfl⟩

/-- To go on is to put the question there is, which tells nothing, and to hear the answer,
which asks nothing. -/
theorem resume_inv {s : Suspension} (h : site.resume s w = (status, next)) :
    ∃ answer asked, site.hear s answer asked = (status, next) ∧ asked.journal = w.journal ∧
      next.exchanges = (s.question?.map fun call => ⟨call, answer⟩).toList ++ w.exchanges := by
  have silent : ∀ {answer : Except ε Unit} {asked : World σ κ ε},
      site.hear s answer asked = (status, next) → next.exchanges = asked.exchanges := by
    intro answer asked heard
    rcases hear_cases heard with ⟨_, _, _, _, _, same⟩ | ⟨_, _, _, _, same⟩ <;> rw [same]
  unfold resume at h
  cases hquestion : s.question? with
  | some call =>
      rw [hquestion] at h
      exact ⟨_, _, h, rfl, silent h⟩
  | none =>
      rw [hquestion] at h
      exact ⟨_, _, h, rfl, silent h⟩

end Site
end VolumeAttach
