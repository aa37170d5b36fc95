/-
Module: VolumeAttach.Proofs.ExclusiveSlots
Purpose: Volumes that are attached at the same time are seen as different devices,
  provided that the cloud gives no slot to two volumes.
Main exports: Cloud.Exclusive, KeptSinceEnd, Fleet.Occupies, Site.Step.occupies_cases,
  Fleet.Parted, Site.follow_devices_differ
-/
import VolumeAttach.Proofs.NameTranslation
import VolumeAttach.Proofs.SingleFlight

namespace VolumeAttach

/-!
An attach looks at the names of devices and never at the other attaches, so that what
keeps two volumes apart is the cloud.  From its acceptance to its detach a volume holds
a slot whose device file is the one that its attach gives in the end.  An attach only
ever detaches its own volume, and while it is running no other attach can detach it,
since its volume is registered.
-/

/-- A cloud that gives no slot to two volumes; `holds` says which volume holds which slot
in a state of the cloud. -/
structure Cloud.Exclusive {κ ε : Type} (cloud : Cloud κ ε)
    (holds : κ → String → DevicePath → Prop) : Prop where
  /-- An attach is accepted only while no other volume holds the slot. -/
  alone : ∀ k volume compute slot, (cloud.answer k (.attach volume compute slot)).1 = .ok () →
    ∀ other taken, other ≠ volume → holds k other taken → ¬ taken ≈ slot
  /-- From then on the volume holds the slot. -/
  gains : ∀ k volume compute slot, (cloud.answer k (.attach volume compute slot)).1 = .ok () →
    holds (cloud.answer k (.attach volume compute slot)).2 volume slot
  /-- Nothing but an accepted detach takes a slot from a volume. -/
  keeps : ∀ k call volume slot, holds k volume slot →
    ¬ (call = .detach volume ∧ (cloud.answer k call).1 = .ok ()) →
    holds (cloud.answer k call).2 volume slot

/-! ### What happened since an attach ended -/

namespace Happening

variable {ε : Type}

/-- Whether this is the end of the attach with a number. -/
def isEndOf (n : Nat) : Happening ε → Bool
  | .exchanged .. => false
  | .ended k _ => k == n

/-- Whether the cloud accepts the detach of a volume. -/
def detaches (volume : String) : Happening ε → Bool
  | .exchanged _ ⟨.detach gone, .ok ()⟩ => gone == volume
  | _ => false

end Happening

/-- The volume was not detached since the attach with a number ended. -/
def KeptSinceEnd {ε : Type} (log : List (Happening ε)) (n : Nat) (volume : String) : Prop :=
  ∀ happening ∈ log.takeWhile fun happening => !happening.isEndOf n,
    happening.detaches volume = false

instance {ε : Type} (log : List (Happening ε)) (n : Nat) (volume : String) :
    Decidable (KeptSinceEnd log n volume) :=
  inferInstanceAs (Decidable (∀ happening ∈ _, _))

/-- What happens later is no detach of the volume, and the rest is as before. -/
theorem keptSinceEnd_cons_iff {ε : Type} {log : List (Happening ε)} {n : Nat} {volume : String}
    {latest : Happening ε} (other : latest.isEndOf n = false) :
    KeptSinceEnd (latest :: log) n volume ↔
      latest.detaches volume = false ∧ KeptSinceEnd log n volume := by
  simp [KeptSinceEnd, other]

/-! ### Occupied devices -/

/-- An attach occupies a device file from the acceptance of the cloud on, as long as it
is running, and after a good end until its volume is detached. -/
def Fleet.Occupies {σ κ ε : Type} (f : Fleet σ κ ε) (n : Nat) (volume : String)
    (device : DevicePath) : Prop :=
  ∃ c, f.calls[n]? = some c ∧ c.volumeId = volume ∧
    ((c.phase.isHeld = true ∧ ∃ plan, c.plan? = some plan ∧ plan.expected = device) ∨
      (∃ result, c.phase = .ended (.ok result) ∧ result.device = device ∧
        KeptSinceEnd f.log n volume))

/-- What is held belongs to an attach that is running. -/
theorem Phase.suspension?_of_isHeld {ε : Type} {phase : Phase ε} (held : phase.isHeld = true) :
    ∃ s, phase.suspension? = some s := by
  cases phase with
  | waiting s => exact ⟨s, rfl⟩
  | answered s answer => exact ⟨s, rfl⟩
  | ended outcome => cases held
  | dropped => cases held

namespace Fleet

variable {σ κ ε : Type} {f g : Fleet σ κ ε} {n : Nat} {volume : String} {device : DevicePath}

/-- An attach that a step does not touch occupies nothing new. -/
theorem Occupies.of_untouched (occupies : g.Occupies n volume device)
    (same : ∀ c, g.calls[n]? = some c → f.calls[n]? = some c)
    (kept : KeptSinceEnd g.log n volume → KeptSinceEnd f.log n volume) :
    f.Occupies n volume device := by
  obtain ⟨c, here, about, held | ⟨result, ends, seen, since⟩⟩ := occupies
  · exact ⟨c, same c here, about, .inl held⟩
  · exact ⟨c, same c here, about, .inr ⟨result, ends, seen, kept since⟩⟩

/-- An attach that has just been started occupies nothing. -/
theorem Occupies.of_concat {new : Call ε} (occupies : g.Occupies n volume device)
    (joined : g.calls = f.calls ++ [new]) (unheld : new.phase.isHeld = false)
    (unended : ∀ result, new.phase ≠ .ended (.ok result))
    (kept : n ≠ f.calls.length → KeptSinceEnd g.log n volume → KeptSinceEnd f.log n volume) :
    f.Occupies n volume device := by
  by_cases last : n = f.calls.length
  · obtain ⟨c, here, -, rest⟩ := occupies
    rw [joined, last, List.getElem?_concat_length] at here
    obtain rfl := Option.some.inj here
    rcases rest with ⟨held, -⟩ | ⟨result, ends, -⟩
    · rw [unheld] at held
      cases held
    · exact absurd ends (unended result)
  · refine occupies.of_untouched (fun c here => ?_) (kept last)
    rw [joined] at here
    rcases getElem?_concat_eq_some_iff.mp here with before | ⟨now, -⟩
    · exact before
    · exact absurd now last

/-- An attach that goes to another phase without having ended occupies nothing new, if it
held its volume before or holds nothing now. -/
theorem Occupies.of_set {k : Nat} {c : Call ε} {phase : Phase ε}
    (occupies : g.Occupies n volume device) (here : f.calls[k]? = some c)
    (set : g.calls = f.calls.set k (c.inPhase phase))
    (held : phase.isHeld = true → c.phase.isHeld = true)
    (unended : ∀ result, phase ≠ .ended (.ok result))
    (kept : KeptSinceEnd g.log n volume → KeptSinceEnd f.log n volume) :
    f.Occupies n volume device := by
  by_cases same : n = k
  · subst same
    obtain ⟨d, there, about, ⟨holds, planned⟩ | ⟨result, ends, -⟩⟩ := occupies
    · rw [set] at there
      rcases (getElem?_set_eq_some_iff here).mp there with ⟨-, rfl⟩ | ⟨differ, -⟩
      · exact ⟨c, here, about, .inl ⟨held holds, planned⟩⟩
      · exact absurd rfl differ
    · rw [set] at there
      rcases (getElem?_set_eq_some_iff here).mp there with ⟨-, rfl⟩ | ⟨differ, -⟩
      · exact absurd ends (unended result)
      · exact absurd rfl differ
  · refine occupies.of_untouched (fun d there => ?_) kept
    rw [set] at there
    rcases (getElem?_set_eq_some_iff here).mp there with ⟨now, -⟩ | ⟨-, there⟩
    · exact absurd now same
    · exact there

end Fleet

namespace Site

variable {σ κ ε : Type} {site : Site σ κ ε} {f g : Fleet σ κ ε}

/-- The attach that asks the cloud occupies what it occupied, unless the cloud detaches its
volume, or else the device file of the slot that the cloud has given it. -/
theorem occupies_of_asking {k : Nat} {c : Call ε} {s : Suspension} {call : CloudCall}
    {answer : Except ε Unit} {device : DevicePath} (coherent : c.Coherent site.agent)
    (here : f.calls[k]? = some c) (waits : c.phase = .waiting s)
    (asks : s.question? = some call) (held : s.isHeldAfter answer = true)
    (planned : ∃ plan, c.plan? = some plan ∧ plan.expected = device) :
    (f.Occupies k c.volumeId device ∧ ¬ (call = .detach c.volumeId ∧ answer = .ok ())) ∨
      (∃ compute slot, call = .attach c.volumeId compute slot ∧ answer = .ok () ∧
        site.agent.naming.expected slot = .ok device) := by
  have runs : c.phase.suspension? = some s := by rw [waits]; rfl
  obtain ⟨plan, hplan, rfl⟩ := planned
  obtain rfl := Option.some.inj (hplan.symm.trans (coherent.running s runs))
  rw [← coherent.volumeId_eq runs]
  cases s with
  | attaching plan =>
      cases asks
      cases answer with
      | error cause => cases held
      | ok => exact .inr ⟨_, _, rfl, rfl, (coherent.suits plan hplan).expected⟩
  | watching plan watch wake => cases asks
  | detaching plan discovered =>
      cases answer with
      | error cause =>
          refine .inl ⟨⟨c, here, (coherent.volumeId_eq runs).symm, .inl ⟨?_, plan, hplan, rfl⟩⟩,
            nofun⟩
          rw [waits]
          rfl
      | ok => cases held

/-- A step that asks the cloud nothing occupies nothing new.  One that does lets go of a
volume whose detach is accepted, and what it newly occupies is the device file of a slot
whose attach is accepted. -/
theorem Step.occupies_cases (step : site.Step f g) (coherent : f.Coherent site.agent)
    (registered : f.Registered) :
    (g.world.cloud = f.world.cloud ∧
      ∀ n volume device, g.Occupies n volume device → f.Occupies n volume device) ∨
    (∃ call, g.world.cloud = (site.cloud.answer f.world.cloud call).2 ∧
      ∀ n volume device, g.Occupies n volume device →
        (f.Occupies n volume device ∧
          ¬ (call = .detach volume ∧ (site.cloud.answer f.world.cloud call).1 = .ok ())) ∨
        (∃ compute slot, call = .attach volume compute slot ∧
          (site.cloud.answer f.world.cloud call).1 = .ok () ∧
          site.agent.naming.expected slot = .ok device)) := by
  cases step with
  | rejected order failure =>
      refine .inl ⟨rfl, fun n volume device occupies => ?_⟩
      refine occupies.of_concat rfl rfl nofun fun older since => ?_
      exact ((keptSinceEnd_cons_iff (by simpa [Happening.isEndOf] using Ne.symm older)).mp since).2
  | setOut order plan =>
      exact .inl ⟨rfl, fun n volume device occupies =>
        occupies.of_concat rfl rfl nofun fun _ => id⟩
  | asked k c s call here waits asks =>
      refine .inr ⟨call, rfl, fun n volume device occupies => ?_⟩
      have runs : c.phase.suspension? = some s := by rw [waits]; rfl
      obtain ⟨d, there, rfl, rest⟩ := occupies
      rcases (getElem?_set_eq_some_iff here).mp there with ⟨rfl, rfl⟩ | ⟨differ, before⟩
      · rcases rest with ⟨held, planned⟩ | ⟨result, ends, -⟩
        · exact occupies_of_asking (c := c) (coherent.calls n c here) here waits asks held planned
        · cases ends
      · left
        rcases rest with ⟨held, planned⟩ | ⟨result, ends, seen, since⟩
        · refine ⟨⟨d, before, rfl, .inl ⟨held, planned⟩⟩, ?_⟩
          -- Its volume is registered for another attach than the one that asks.
          rintro ⟨rfl, -⟩
          obtain ⟨later, runs'⟩ := Phase.suspension?_of_isHeld held
          have about : d.volumeId = c.volumeId :=
            (Suspension.volumeId_of_question asks).trans
              ((coherent.calls k c here).volumeId_eq runs)
          exact differ (registered.unique n k c.volumeId
            (about ▸ Fleet.runs_of_suspension before runs') (Fleet.runs_of_suspension here runs))
        · obtain ⟨undetached, since⟩ := (keptSinceEnd_cons_iff rfl).mp since
          refine ⟨⟨d, before, rfl, .inr ⟨result, ends, seen, since⟩⟩, ?_⟩
          rintro ⟨rfl, accepted⟩
          rw [show (site.ask f.world (.detach d.volumeId)).1 = .ok () from accepted] at undetached
          simp [Happening.detaches] at undetached
  | wentOn k c s later host told here runs held =>
      exact .inl ⟨rfl, fun n volume device occupies =>
        occupies.of_set here rfl (fun _ => held) nofun id⟩
  | finished k c s outcome host told here runs well =>
      refine .inl ⟨rfl, fun n volume device occupies => ?_⟩
      by_cases same : n = k
      · subst same
        obtain ⟨d, there, about, rest⟩ := occupies
        obtain ⟨-, rfl⟩ | ⟨differ, -⟩ := (getElem?_set_eq_some_iff here).mp there
        · rcases rest with ⟨held, -⟩ | ⟨result, ends, seen, -⟩
          · cases held
          · obtain ⟨held, rfl⟩ := well result (Phase.ended.inj ends)
            exact ⟨c, here, about, .inl ⟨held, s.plan,
              (coherent.calls n c here).running s runs, seen⟩⟩
        · exact absurd rfl differ
      · refine occupies.of_untouched (fun d there => ?_) fun since => ?_
        · rcases (getElem?_set_eq_some_iff here).mp there with ⟨now, -⟩ | ⟨-, there⟩
          · exact absurd now same
          · exact there
        · exact ((keptSinceEnd_cons_iff
            (by simpa [Happening.isEndOf] using Ne.symm same)).mp since).2
  | dropped k c s here runs =>
      exact .inl ⟨rfl, fun n volume device occupies =>
        occupies.of_set here rfl nofun nofun id⟩
  | passed => exact .inl ⟨rfl, fun n volume device occupies => occupies⟩

end Site

/-! ### Volumes that are kept apart -/

/-- What is occupied is backed by a slot that the volume holds, and two volumes never
occupy one device file. -/
structure Fleet.Parted {σ κ ε : Type} (a : Agent) (holds : κ → String → DevicePath → Prop)
    (f : Fleet σ κ ε) : Prop where
  backed : ∀ n volume device, f.Occupies n volume device →
    ∃ slot, holds f.world.cloud volume slot ∧ a.naming.expected slot = .ok device
  differ : ∀ n m volume other device second, f.Occupies n volume device →
    f.Occupies m other second → volume ≠ other → ¬ device ≈ second

namespace Site

variable {σ κ ε : Type} {site : Site σ κ ε} {holds : κ → String → DevicePath → Prop}
  {f g : Fleet σ κ ε}

theorem Step.backed (exclusive : site.cloud.Exclusive holds) (step : site.Step f g)
    (coherent : f.Coherent site.agent) (registered : f.Registered)
    (parted : f.Parted site.agent holds) (n : Nat) (volume : String) (device : DevicePath)
    (occupies : g.Occupies n volume device) :
    ∃ slot, holds g.world.cloud volume slot ∧
      site.agent.naming.expected slot = .ok device := by
  rcases step.occupies_cases coherent registered with ⟨quiet, before⟩ | ⟨call, answered, cases⟩
  · rw [quiet]
    exact parted.backed n volume device (before n volume device occupies)
  rw [answered]
  rcases cases n volume device occupies with
    ⟨before, undetached⟩ | ⟨compute, slot, rfl, accepted, translated⟩
  · obtain ⟨slot, held, translated⟩ := parted.backed n volume device before
    exact ⟨slot, exclusive.keeps f.world.cloud call volume slot held undetached, translated⟩
  · exact ⟨slot, exclusive.gains f.world.cloud volume compute slot accepted, translated⟩

/-- A slot that the cloud has just given to a volume is seen as no device file that
another volume occupies. -/
theorem not_equiv_of_accepted (exclusive : site.cloud.Exclusive holds)
    (parted : f.Parted site.agent holds) {n : Nat} {volume compute other : String}
    {slot device occupied : DevicePath}
    (accepted : (site.cloud.answer f.world.cloud (.attach volume compute slot)).1 = .ok ())
    (translated : site.agent.naming.expected slot = .ok device)
    (occupies : f.Occupies n other occupied) (differ : other ≠ volume) :
    ¬ occupied ≈ device := by
  intro same
  obtain ⟨taken, held, seen⟩ := parted.backed n other occupied occupies
  exact exclusive.alone f.world.cloud volume compute slot accepted other taken differ held
    (Naming.equiv_of_expected_equiv seen translated same)

theorem Step.parted (exclusive : site.cloud.Exclusive holds) (step : site.Step f g)
    (coherent : f.Coherent site.agent) (registered : f.Registered)
    (parted : f.Parted site.agent holds) : g.Parted site.agent holds := by
  refine ⟨step.backed exclusive coherent registered parted, ?_⟩
  intro n m volume other device second first_occupies second_occupies different
  rcases step.occupies_cases coherent registered with ⟨-, before⟩ | ⟨call, -, cases⟩
  · exact parted.differ n m volume other device second (before n volume device first_occupies)
      (before m other second second_occupies) different
  rcases cases n volume device first_occupies with
    ⟨first_before, -⟩ | ⟨compute, slot, rfl, accepted, translated⟩
  · rcases cases m other second second_occupies with
      ⟨second_before, -⟩ | ⟨compute, slot, rfl, accepted, translated⟩
    · exact parted.differ n m volume other device second first_before second_before different
    · exact not_equiv_of_accepted exclusive parted accepted translated first_before different
  · rcases cases m other second second_occupies with
      ⟨second_before, -⟩ | ⟨compute', slot', same, -, -⟩
    · intro equal
      exact not_equiv_of_accepted exclusive parted accepted translated second_before
        (Ne.symm different) (Setoid.symm equal)
    · cases same
      exact absurd rfl different

theorem follow_parted [ToString ε] (exclusive : site.cloud.Exclusive holds) {clock : Nat}
    {host : σ} {cloud : κ} {acts : List Act}
    (h : site.follow acts (.fresh clock host cloud) = some f) :
    f.Coherent site.agent ∧ f.Registered ∧ f.Parted site.agent holds := by
  refine follow_induction
    (P := fun f => f.Coherent site.agent ∧ f.Registered ∧ f.Parted site.agent holds) ?_ ?_ h
  · rintro f g ⟨coherent, registered, parted⟩ step
    exact ⟨step.coherent coherent, step.registered coherent registered,
      step.parted exclusive coherent registered parted⟩
  · exact ⟨.fresh, .fresh, by simp [Fleet.fresh, Fleet.Occupies],
      by simp [Fleet.fresh, Fleet.Occupies]⟩

/-- A volume that was attached and not detached since occupies the device file that its
attach gave. -/
theorem occupies_of_outcome (coherent : f.Coherent site.agent) {n : Nat} {a : AttachedVolume}
    (ends : f.outcome? n = some (.ok a)) (kept : KeptSinceEnd f.log n a.volume.id) :
    f.Occupies n a.volume.id a.device := by
  obtain ⟨c, here, phase⟩ := Fleet.outcome?_eq_some_iff.mp ends
  have good := coherent.calls n c here
  obtain ⟨plan, planned, rfl⟩ := good.well a phase
  have about : c.volumeId = plan.volume.id :=
    congrArg Volume.id (good.suits plan planned).volume.symm
  exact ⟨c, here, about, .inr ⟨_, phase, rfl, kept⟩⟩

/-- Under a cloud that gives no slot to two volumes, two attaches of different volumes
that have ended well, neither volume having been detached since, give different device
files, however the attaches of the fleet went on. -/
theorem follow_devices_differ [ToString ε] (exclusive : site.cloud.Exclusive holds) {clock : Nat}
    {host : σ} {cloud : κ} {acts : List Act}
    (h : site.follow acts (.fresh clock host cloud) = some f) {n m : Nat} {a b : AttachedVolume}
    (first : f.outcome? n = some (.ok a)) (second : f.outcome? m = some (.ok b))
    (first_kept : KeptSinceEnd f.log n a.volume.id)
    (second_kept : KeptSinceEnd f.log m b.volume.id)
    (different : a.volume.id ≠ b.volume.id) : ¬ a.device ≈ b.device := by
  obtain ⟨coherent, -, parted⟩ := follow_parted exclusive h
  exact parted.differ n m a.volume.id b.volume.id a.device b.device
    (occupies_of_outcome coherent first first_kept)
    (occupies_of_outcome coherent second second_kept) different

end Site

/-! ### A cloud of that kind -/

/-- A cloud that keeps a record of which volume holds which slot. -/
def ledger : Cloud (List (String × DevicePath)) Refusal where
  answer held
    | .attach volume _ slot =>
        if held.any fun entry => decide (entry.1 ≠ volume ∧ entry.2 ≈ slot) then
          (.error (.attach volume), held)
        else (.ok (), (volume, slot) :: held)
    | .detach volume => (.ok (), held.filter fun entry => decide (entry.1 ≠ volume))

theorem ledger_exclusive : ledger.Exclusive fun held volume slot => (volume, slot) ∈ held where
  alone := by
    intro held volume compute slot accepted other taken differ inside same
    have clash : held.any (fun entry => decide (entry.1 ≠ volume ∧ entry.2 ≈ slot)) = true :=
      List.any_eq_true.mpr ⟨(other, taken), inside, decide_eq_true ⟨differ, same⟩⟩
    simp only [ledger, if_pos clash] at accepted
    cases accepted
  gains := by
    intro held volume compute slot accepted
    simp only [ledger] at accepted ⊢
    split at accepted
    · cases accepted
    · rename_i free
      rw [if_neg free]
      exact List.mem_cons_self
  keeps := by
    intro held call volume slot inside undetached
    cases call with
    | attach other compute second =>
        simp only [ledger]
        split
        · exact inside
        · exact List.mem_cons_of_mem _ inside
    | detach other =>
        have differ : volume ≠ other := by
          rintro rfl
          exact undetached ⟨rfl, rfl⟩
        exact List.mem_filter.mpr ⟨inside, decide_eq_true differ⟩

namespace Site

/-- A site with that cloud.  One device surfaces before the first look and one before the
second. -/
def ledgerSite : Site Nat (List (String × DevicePath)) Refusal where
  agent := {}
  host := .ofSights fun k =>
    ⟨.ok (.ofList ("sda" :: ["xvdj", "xvdk"].take (k + 1))), fun _ => .ok 7⟩
  cloud := ledger

/-- Two attaches that wait for the cloud at the same time. -/
def abreast : List Act :=
  [.start ⟨.ofSevenBytes "vol-1", "i-1", .slot ⟨"/dev/sdj"⟩ (.ofList ["sda"])⟩,
    .start ⟨.ofSevenBytes "vol-2", "i-1", .slot ⟨"/dev/sdk"⟩ (.ofList ["sda", "xvdj"])⟩,
    .ask 0, .ask 1, .hear 0, .hear 1]

/-- Both end well there, with different devices. -/
theorem follow_abreast_devices_differ :
    ∃ f a b, ledgerSite.follow abreast (.fresh 0 0 []) = some f ∧
      f.outcome? 0 = some (.ok a) ∧ f.outcome? 1 = some (.ok b) ∧ ¬ a.device ≈ b.device := by
  have shown : ∀ f ∈ ledgerSite.follow abreast (.fresh 0 0 []),
      f.outcome? 0 = some (.ok ⟨(Volume.ofSevenBytes "vol-1").attached "i-1", ⟨"/dev/xvdj"⟩⟩) ∧
      f.outcome? 1 = some (.ok ⟨(Volume.ofSevenBytes "vol-2").attached "i-1", ⟨"/dev/xvdk"⟩⟩) ∧
      KeptSinceEnd f.log 0 "vol-1" ∧ KeptSinceEnd f.log 1 "vol-2" := by decide
  have ends : (ledgerSite.follow abreast (.fresh 0 0 [])).isSome = true := by decide
  obtain ⟨f, h⟩ := Option.isSome_iff_exists.mp ends
  obtain ⟨first, second, first_kept, second_kept⟩ := shown f h
  exact ⟨f, _, _, h, first, second, follow_devices_differ ledger_exclusive h first second
    first_kept second_kept (by decide)⟩

end Site
end VolumeAttach
