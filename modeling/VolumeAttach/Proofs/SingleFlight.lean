/-
Module: VolumeAttach.Proofs.SingleFlight
Purpose: At most one attach of a volume is running, in whatever order the attaches go
  on and wherever they are given up.
Main exports: Fleet.Runs, Site.Step.runs_cases, Fleet.Registered, Site.Step.registered,
  Fleet.Unmixed, Site.Step.unmixed, Site.follow_unmixed, Site.act_start_of_inFlight,
  Site.follow_alreadyInFlight_iff, Site.follow_single_flight
-/
import VolumeAttach.Cloud.Scripted
import VolumeAttach.Proofs.JointRuns
import VolumeAttach.Proofs.Watching

namespace VolumeAttach

/-!
The registry of a world knows volumes and not attaches, and an attach that is rejected
must not take away the registration of the attach that made it fail.  What carries the
proof is that an attach is running exactly from the step that registers its volume to
the step that releases it, and that in between nobody else is registered for it.
-/

/-- The attach with a number is running, and is one of a volume. -/
def Fleet.Runs {σ κ ε : Type} (f : Fleet σ κ ε) (n : Nat) (volume : String) : Prop :=
  ∃ c, f.calls[n]? = some c ∧ c.isRunning = true ∧ c.volumeId = volume

namespace Fleet

variable {σ κ ε : Type} {f g : Fleet σ κ ε} {n k : Nat} {volume other : String} {c : Call ε}

/-- An attach is one of its own volume only. -/
theorem Runs.volumeId_eq (runs : f.Runs n volume) (here : f.calls[n]? = some c) :
    c.volumeId = volume := by
  obtain ⟨d, there, -, rfl⟩ := runs
  rw [Option.some.inj (here.symm.trans there)]

theorem Runs.volume_unique (runs : f.Runs n volume) (too : f.Runs n other) : volume = other := by
  obtain ⟨c, here, -, rfl⟩ := runs
  exact too.volumeId_eq here

theorem runs_of_suspension {s : Suspension} (here : f.calls[n]? = some c)
    (runs : c.phase.suspension? = some s) : f.Runs n c.volumeId :=
  ⟨c, here, by rw [Call.isRunning, runs]; rfl, rfl⟩

/-- One more attach is started. -/
theorem runs_concat_iff (h : g.calls = f.calls ++ [c]) :
    g.Runs n volume ↔ f.Runs n volume ∨
      n = f.calls.length ∧ c.isRunning = true ∧ c.volumeId = volume := by
  unfold Runs
  rw [h]
  simp only [getElem?_concat_eq_some_iff]
  constructor
  · rintro ⟨d, here | ⟨last, rfl⟩, runs, about⟩
    · exact .inl ⟨d, here, runs, about⟩
    · exact .inr ⟨last, runs, about⟩
  · rintro (⟨d, here, runs, about⟩ | ⟨last, runs, about⟩)
    · exact ⟨d, .inl here, runs, about⟩
    · exact ⟨c, .inr ⟨last, rfl⟩, runs, about⟩

/-- One attach goes to another phase. -/
theorem runs_set_iff {phase : Phase ε} (h : g.calls = f.calls.set k (c.inPhase phase))
    (here : f.calls[k]? = some c) :
    g.Runs n volume ↔ f.Runs n volume ∧ n ≠ k ∨
      n = k ∧ phase.suspension?.isSome = true ∧ c.volumeId = volume := by
  unfold Runs
  rw [h]
  simp only [getElem?_set_eq_some_iff here]
  constructor
  · rintro ⟨d, ⟨same, rfl⟩ | ⟨differ, there⟩, runs, about⟩
    · exact .inr ⟨same, runs, about⟩
    · exact .inl ⟨⟨d, there, runs, about⟩, differ⟩
  · rintro (⟨⟨d, there, runs, about⟩, differ⟩ | ⟨same, runs, about⟩)
    · exact ⟨d, .inr ⟨differ, there⟩, runs, about⟩
    · exact ⟨_, .inl ⟨same, rfl⟩, runs, about⟩

/-- A running attach that goes on to run leaves the running attaches as they are. -/
theorem runs_set_running {phase : Phase ε} {s : Suspension}
    (h : g.calls = f.calls.set k (c.inPhase phase)) (here : f.calls[k]? = some c)
    (runs : c.phase.suspension? = some s) (on : phase.suspension?.isSome = true) :
    g.Runs n volume ↔ f.Runs n volume := by
  rw [runs_set_iff h here]
  constructor
  · rintro (⟨before, -⟩ | ⟨rfl, -, rfl⟩)
    · exact before
    · exact runs_of_suspension here runs
  · intro before
    by_cases same : n = k
    · subst same
      exact .inr ⟨rfl, on, (runs_of_suspension here runs).volume_unique before⟩
    · exact .inl ⟨before, same⟩

/-- A running attach that stops is running no longer. -/
theorem runs_set_stopped {phase : Phase ε} (h : g.calls = f.calls.set k (c.inPhase phase))
    (here : f.calls[k]? = some c) (off : phase.suspension? = none) :
    g.Runs n volume ↔ f.Runs n volume ∧ n ≠ k := by
  simp [runs_set_iff h here, off]

end Fleet

namespace Site

variable {σ κ ε ν : Type} [DeviceNaming ν] {site : Site σ κ ε ν} {f g : Fleet σ κ ε}

/-- A step leaves registry and running attaches as they are, or registers a volume that
was not registered for a new attach, or releases the volume of an attach that stops. -/
theorem Step.runs_cases (step : site.Step f g) (coherent : f.Coherent site.agent) :
    (g.world.inFlight = f.world.inFlight ∧ ∀ n volume, g.Runs n volume ↔ f.Runs n volume) ∨
    (∃ new, new ∉ f.world.inFlight ∧ g.world.inFlight = new :: f.world.inFlight ∧
      ∀ n volume, g.Runs n volume ↔ f.Runs n volume ∨ n = f.calls.length ∧ volume = new) ∨
    (∃ k gone, f.Runs k gone ∧ g.world.inFlight = f.world.inFlight.erase gone ∧
      ∀ n volume, g.Runs n volume ↔ f.Runs n volume ∧ n ≠ k) := by
  cases step with
  | rejected order failure =>
      refine .inl ⟨rfl, fun n volume => ?_⟩
      rw [Fleet.runs_concat_iff rfl]
      simp [Call.isRunning, Phase.suspension?]
  | setOut order plan host told suits idle =>
      refine .inr (.inl ⟨order.volume.id, idle, rfl, fun n volume => ?_⟩)
      rw [Fleet.runs_concat_iff rfl]
      simp [Call.isRunning, Phase.suspension?, Call.volumeId, eq_comm]
  | asked k c s call here waits =>
      exact .inl ⟨rfl, fun n volume =>
        Fleet.runs_set_running rfl here (s := s) (by rw [waits]; rfl) rfl⟩
  | wentOn k c s later host told here runs =>
      exact .inl ⟨rfl, fun n volume => Fleet.runs_set_running rfl here runs rfl⟩
  | finished k c s outcome host told here runs =>
      refine .inr (.inr ⟨k, c.volumeId, Fleet.runs_of_suspension here runs, ?_, fun n volume =>
        Fleet.runs_set_stopped rfl here rfl⟩)
      rw [(coherent.calls k c here).volumeId_eq runs]
  | dropped k c s here runs =>
      refine .inr (.inr ⟨k, c.volumeId, Fleet.runs_of_suspension here runs, ?_, fun n volume =>
        Fleet.runs_set_stopped rfl here rfl⟩)
      rw [← (coherent.calls k c here).volumeId_eq runs]
      rfl
  | passed => exact .inl ⟨rfl, fun n volume => Iff.rfl⟩

end Site

/-! ### The registry -/

/-- The registered volumes are those of which an attach is running, and of each of them
a single one is. -/
structure Fleet.Registered {σ κ ε : Type} (f : Fleet σ κ ε) : Prop where
  nodup : f.world.inFlight.Nodup
  mem_iff : ∀ volume, volume ∈ f.world.inFlight ↔ ∃ n, f.Runs n volume
  unique : ∀ n m volume, f.Runs n volume → f.Runs m volume → n = m

/-- In a fresh fleet nothing is registered and nothing is running. -/
theorem Fleet.Registered.fresh {σ κ ε : Type} {clock : Nat} {host : σ} {cloud : κ} :
    (Fleet.fresh (ε := ε) clock host cloud).Registered :=
  ⟨List.nodup_nil, by simp [Fleet.fresh, Fleet.Runs], by simp [Fleet.fresh, Fleet.Runs]⟩

namespace Site

variable {σ κ ε ν : Type} [DeviceNaming ν] {site : Site σ κ ε ν} {f g : Fleet σ κ ε}

theorem Step.registered (step : site.Step f g) (coherent : f.Coherent site.agent)
    (registered : f.Registered) : g.Registered := by
  rcases step.runs_cases coherent with
    ⟨same, runs⟩ | ⟨new, idle, more, runs⟩ | ⟨k, gone, stops, fewer, runs⟩
  · constructor
    · exact same ▸ registered.nodup
    · simp only [same, runs]
      exact registered.mem_iff
    · simp only [runs]
      exact registered.unique
  · have nobody : ∀ n, ¬ f.Runs n new := fun n h => idle ((registered.mem_iff new).mpr ⟨n, h⟩)
    constructor
    · rw [more]
      exact List.nodup_cons.mpr ⟨idle, registered.nodup⟩
    · intro volume
      rw [more, List.mem_cons, registered.mem_iff]
      simp only [runs]
      constructor
      · rintro (rfl | ⟨n, h⟩)
        · exact ⟨_, .inr ⟨rfl, rfl⟩⟩
        · exact ⟨n, .inl h⟩
      · rintro ⟨n, h | ⟨-, rfl⟩⟩
        · exact .inr ⟨n, h⟩
        · exact .inl rfl
    · intro n m volume hn hm
      rcases (runs n volume).mp hn with hn | ⟨rfl, rfl⟩
      · rcases (runs m volume).mp hm with hm | ⟨-, rfl⟩
        · exact registered.unique n m volume hn hm
        · exact absurd hn (nobody n)
      · rcases (runs m volume).mp hm with hm | ⟨rfl, -⟩
        · exact absurd hm (nobody m)
        · rfl
  · constructor
    · rw [fewer]
      exact registered.nodup.erase gone
    · intro volume
      rw [fewer, registered.nodup.mem_erase_iff, registered.mem_iff]
      simp only [runs]
      constructor
      · rintro ⟨differ, n, h⟩
        exact ⟨n, h, fun same => differ (h.volume_unique (same ▸ stops))⟩
      · rintro ⟨n, h, differ⟩
        refine ⟨fun same => differ ?_, n, h⟩
        exact registered.unique n k gone (same ▸ h) stops
    · intro n m volume hn hm
      exact registered.unique n m volume ((runs n volume).mp hn).1 ((runs m volume).mp hm).1

end Site

/-! ### The exchanges with the cloud -/

/-- What the attaches of one volume ask the cloud does not mix: when a second one has
asked, the first is running no longer, and it never asks again. -/
structure Fleet.Unmixed {σ κ ε : Type} (f : Fleet σ κ ε) : Prop where
  finished : ∀ n m earlier later, [(m, later), (n, earlier)].Sublist f.exchanges →
    later.call.volumeId = earlier.call.volumeId → n ≠ m → ∀ volume, ¬ f.Runs n volume
  apart : ∀ n m first between last, [(m, last), (n, between), (m, first)].Sublist f.exchanges →
    between.call.volumeId = first.call.volumeId → n = m

namespace Site

variable {σ κ ε ν : Type} [DeviceNaming ν] {site : Site σ κ ε ν} {f g : Fleet σ κ ε}

/-- What is running after a step and was there before it was running before it. -/
theorem Step.runs_before (step : site.Step f g) (coherent : f.Coherent site.agent) {n : Nat}
    {c : Call ε} {volume : String} (here : f.calls[n]? = some c) (runs : g.Runs n volume) :
    f.Runs n volume := by
  obtain ⟨inside, -⟩ := List.getElem?_eq_some_iff.mp here
  rcases step.runs_cases coherent with ⟨-, same⟩ | ⟨new, -, -, more⟩ | ⟨k, gone, -, -, fewer⟩
  · exact (same n volume).mp runs
  · rcases (more n volume).mp runs with before | ⟨last, -⟩
    · exact before
    · omega
  · exact ((fewer n volume).mp runs).1

theorem Step.unmixed (step : site.Step f g) (coherent : f.Coherent site.agent)
    (registered : f.Registered) (unmixed : f.Unmixed) : g.Unmixed := by
  have finished_before : ∀ n m earlier later, [(m, later), (n, earlier)].Sublist f.exchanges →
      later.call.volumeId = earlier.call.volumeId → n ≠ m → ∀ volume, ¬ g.Runs n volume := by
    intro n m earlier later listed about differ volume runs
    obtain ⟨c, here, -⟩ := coherent.exchanges n earlier
      (listed.subset (List.mem_cons_of_mem _ (List.mem_singleton_self _)))
    exact unmixed.finished n m earlier later listed about differ volume
      (step.runs_before coherent here runs)
  rcases step.exchanges_cases with same | ⟨k, c, s, latest, here, asks, about, more⟩
  · exact ⟨same ▸ finished_before, same ▸ unmixed.apart⟩
  have asking : f.Runs k latest.call.volumeId := by
    rw [about, (coherent.calls k c here).volumeId_eq asks]
    exact Fleet.runs_of_suspension here asks
  constructor
  · rw [more]
    intro n m earlier later listed about differ volume runs
    cases listed with
    | cons _ listed => exact finished_before n m earlier later listed about differ volume runs
    | cons_cons _ listed =>
        obtain ⟨d, there, -, concerns⟩ :=
          coherent.exchanges n earlier (List.singleton_sublist.mp listed)
        have before := step.runs_before coherent there runs
        rw [about, concerns, before.volumeId_eq there] at asking
        exact differ (registered.unique n _ volume before asking)
  · rw [more]
    intro n m first between last listed about
    cases listed with
    | cons _ listed => exact unmixed.apart n m first between last listed about
    | cons_cons _ listed =>
        by_cases same : n = k
        · exact same
        · exact absurd asking (unmixed.finished k n first between listed about (Ne.symm same) _)

/-- However the attaches of a fresh fleet go on, the registry is exact and they do not
mix. -/
theorem follow_unmixed [ToString ε] {clock : Nat} {host : σ} {cloud : κ} {acts : List Act}
    (h : site.follow acts (.fresh clock host cloud) = some f) :
    f.Coherent site.agent ∧ f.Registered ∧ f.Unmixed := by
  refine follow_induction
    (P := fun f => f.Coherent site.agent ∧ f.Registered ∧ f.Unmixed) ?_ ?_ h
  · rintro f g ⟨coherent, registered, unmixed⟩ step
    exact ⟨step.coherent coherent, step.registered coherent registered,
      step.unmixed coherent registered unmixed⟩
  · exact ⟨.fresh, .fresh, by simp [Fleet.fresh, Fleet.exchanges],
      by simp [Fleet.fresh, Fleet.exchanges]⟩

end Site

/-! ### A second attach of a volume -/

namespace Site

variable {σ κ ε ν : Type} [DeviceNaming ν] [ToString ε] {site : Site σ κ ε ν} {f g : Fleet σ κ ε}

/-- What an attach of a registered volume at a given slot does to a fleet: it is told
that the volume is busy, and it is over. -/
theorem act_start_of_inFlight (site : Site σ κ ε ν) {volume : Volume} (compute : String)
    (requested : DevicePath) (baseline : NameSet) (busy : volume.id ∈ f.world.inFlight) :
    site.act (.start ⟨volume, compute, .slot requested baseline⟩) f =
      some (f.join ⟨volume, compute, .slot requested baseline⟩
        (.ended (.error (.alreadyInFlight volume.id)),
          f.world.tell [.alreadyInFlight volume.id])) := by
  rw [act, begin_slot_of_inFlight busy]

/-- Whether an attach is rejected for its volume is decided at its start. -/
theorem follow_alreadyInFlight_iff {order : Order} {later : List Act}
    (h : site.follow (.start order :: later) f = some g) :
    ∃ c, g.calls[f.calls.length]? = some c ∧ ∀ id,
      c.phase = .ended (.error (.alreadyInFlight id)) ↔
        (site.begin order f.world).1 = .ended (.error (.alreadyInFlight id)) := by
  have started : (f.join order (site.begin order f.world)).calls[f.calls.length]? =
      some (.begun order (site.begin order f.world).1) :=
    getElem?_concat_eq_some_iff.mpr (.inr ⟨rfl, rfl⟩)
  obtain ⟨c, here, becomes⟩ := follow_advances (f := f.join order _) h started
  refine ⟨c, here, fun id => ?_⟩
  cases hstatus : (site.begin order f.world).1 with
  | running s =>
      rw [hstatus] at becomes
      rcases becomes with rfl | ⟨-, phase, other, rfl⟩
      · exact ⟨nofun, nofun⟩
      · exact ⟨fun busy => absurd busy (other id), nofun⟩
  | ended outcome =>
      rw [hstatus] at becomes
      rcases becomes with rfl | ⟨runs, -⟩
      · exact ⟨fun same => congrArg Status.ended (Phase.ended.inj same),
          fun same => congrArg Phase.ended (Status.ended.inj same)⟩
      · cases runs

/-- An attach that did not set out never asks the cloud. -/
theorem follow_never_asks {acts : List Act} {n : Nat} {c : Call ε}
    (coherent : f.Coherent site.agent) (here : f.calls[n]? = some c)
    (still : c.isRunning = false) (unplanned : c.plan? = none)
    (h : site.follow acts f = some g) (exchange : Exchange ε) : (n, exchange) ∉ g.exchanges := by
  intro inside
  obtain ⟨d, there, planned, -⟩ := (coherent.follow h).exchanges n exchange inside
  obtain ⟨e, same, rfl | ⟨runs, -⟩⟩ := follow_advances h here
  · rw [Option.some.inj (there.symm.trans same), unplanned] at planned
    cases planned
  · rw [still] at runs
    cases runs

/-- However the attaches of a fresh fleet go on, the registry holds exactly the volumes
of which an attach is running, of each of them one attach is running, and the exchanges
of two attaches of one volume do not mix.  This holds wherever an attach that is carried
out to its end, or attaches that are carried out side by side, leave the world, since the
acts lead there too.  An attach at a given slot is rejected for its volume exactly if that
is registered at its start; it then asks the cloud nothing, does not look at the host, and
leaves the registry and every other attach alone. -/
theorem follow_single_flight (site : Site σ κ ε ν) {clock : Nat} {host : σ} {cloud : κ}
    {acts : List Act} (h : site.follow acts (.fresh clock host cloud) = some f) :
    f.world.inFlight.Nodup ∧
    (∀ volume, volume ∈ f.world.inFlight ↔ ∃ n, f.Runs n volume) ∧
    (∀ n m volume, f.Runs n volume → f.Runs m volume → n = m) ∧
    ((∀ n volume, ¬ f.Runs n volume) → f.world.inFlight = []) ∧
    (∀ n m first between last, [(m, last), (n, between), (m, first)].Sublist f.exchanges →
      between.call.volumeId = first.call.volumeId → n = m) ∧
    (∀ order answer final, site.run order f.world = some (answer, final) →
      ∃ g, site.Reaches f g ∧ g.world = final ∧
        g.outcome? f.calls.length = some answer.outcome) ∧
    (∀ orders time joint final, site.together orders time f.world = (joint, final) →
      ∃ g, site.Reaches f g ∧ g.world = final ∧
        ∀ answers, joint = .finished answers → ∀ (k : Nat) answer, answers[k]? = some answer →
          g.outcome? (f.calls.length + k) = some answer.outcome) ∧
    ∀ volume compute requested baseline later g,
      site.follow (.start ⟨volume, compute, .slot requested baseline⟩ :: later) f = some g →
      (∃ c, g.calls[f.calls.length]? = some c ∧
        ((∃ id, c.phase = .ended (.error (.alreadyInFlight id))) ↔
          volume.id ∈ f.world.inFlight)) ∧
      (volume.id ∈ f.world.inFlight →
        site.act (.start ⟨volume, compute, .slot requested baseline⟩) f =
          some (f.join ⟨volume, compute, .slot requested baseline⟩
            (.ended (.error (.alreadyInFlight volume.id)),
              f.world.tell [.alreadyInFlight volume.id])) ∧
        ∀ exchange, (f.calls.length, exchange) ∉ g.exchanges) := by
  obtain ⟨coherent, registered, unmixed⟩ := follow_unmixed h
  refine ⟨registered.nodup, registered.mem_iff, registered.unique, fun nobody => ?_,
    unmixed.apart, fun _ _ _ ran => reaches_of_run ran, fun _ _ _ _ ran => reaches_of_together ran,
    fun volume compute requested baseline later g hg => ⟨?_, fun busy => ?_⟩⟩
  · refine List.eq_nil_iff_forall_not_mem.mpr fun volume inside => ?_
    obtain ⟨n, runs⟩ := (registered.mem_iff volume).mp inside
    exact nobody n volume runs
  · obtain ⟨c, here, rejected⟩ := follow_alreadyInFlight_iff hg
    refine ⟨c, here, ?_⟩
    simp only [rejected, begin_slot_alreadyInFlight_iff, exists_and_left, exists_eq, and_true]
  · have first := act_start_of_inFlight site compute requested baseline busy
    refine ⟨first, fun exchange => ?_⟩
    obtain ⟨next, started, rest⟩ := Option.bind_eq_some_iff.mp hg
    have next_coherent := (act_step started).coherent coherent
    obtain rfl := Option.some.inj (first.symm.trans started)
    exact follow_never_asks next_coherent
      (getElem?_concat_eq_some_iff.mpr (.inr ⟨rfl, rfl⟩)) rfl rfl rest exchange

/-- While the cloud has not answered the first attach of a volume, a second one is
rejected. -/
theorem follow_second_attach_rejected :
    let site : Site Nat ScriptedCloud Refusal :=
      ⟨{}, .ofSights fun _ => ⟨.ok (.ofList ["sda"]), fun _ => .ok 7⟩, ScriptedCloud.cloud⟩
    let order : Order := ⟨.ofSevenBytes "vol-1", "i-1", .slot ⟨"/dev/sdj"⟩ (.ofList ["sda"])⟩
    ∃ f g c, site.follow [.start order] (.fresh 0 0 {}) = some f ∧
      site.follow [.start order] f = some g ∧ "vol-1" ∈ f.world.inFlight ∧
      g.calls[1]? = some c ∧ ∃ id, c.phase = .ended (.error (.alreadyInFlight id)) := by
  intro site order
  have run : site.follow [.start order] (.fresh 0 0 {}) = some _ := rfl
  obtain ⟨-, -, -, -, -, -, -, starts⟩ := follow_single_flight site run
  obtain ⟨⟨c, here, rejected⟩, -⟩ :=
    starts (.ofSevenBytes "vol-1") "i-1" ⟨"/dev/sdj"⟩ (.ofList ["sda"]) [] _ rfl
  exact ⟨_, _, c, rfl, rfl, by decide, here, rejected.mpr (by decide)⟩

end Site
end VolumeAttach
