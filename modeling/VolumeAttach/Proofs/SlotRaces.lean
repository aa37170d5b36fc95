/-
Module: VolumeAttach.Proofs.SlotRaces
Purpose: When two attaches that choose their slots themselves end at one device.
Main exports: Site.follow_anyFree_ok, Site.follow_anyFree_devices_equiv_iff
-/
import VolumeAttach.Host.Script
import VolumeAttach.Proofs.FreeSlots
import VolumeAttach.Proofs.ExclusiveSlots

namespace VolumeAttach

/-!
An attach at any free slot chooses from what the host shows at its start and then asks
the cloud.  Between the two nothing marks the slot as taken: the registry knows volumes
and not slots.  If the cloud accepts the same slot twice, both watches wait for the same
name, and one device that shows itself is enough for both.
-/

namespace Site

variable {σ κ ε : Type} [ToString ε] {site : Site σ κ ε} {f g : Fleet σ κ ε}

/-- An attach at any free slot that ends well gives the device file of the lowest slot that
was free in the listing at its start. -/
theorem follow_anyFree_ok (coherent : f.Coherent site.agent) {order : Order} {later : List Act}
    {a : AttachedVolume} (h : site.follow (.start order :: later) f = some g)
    (anyFree : order.place = .anyFree) (ends : g.outcome? f.calls.length = some (.ok a)) :
    ∃ seen slot, (site.host.look f.world.host).1.listing = .ok seen ∧
      site.agent.naming.selectFree seen = .ok slot ∧
      site.agent.naming.expected slot = .ok a.device := by
  obtain ⟨c, here, phase⟩ := Fleet.outcome?_eq_some_iff.mp ends
  obtain ⟨plan, planned, rfl⟩ := ((coherent.follow h).calls _ c here).well a phase
  have started : (f.join order (site.begin order f.world)).calls[f.calls.length]? =
      some (.begun order (site.begin order f.world).1) :=
    getElem?_concat_eq_some_iff.mpr (.inr ⟨rfl, rfl⟩)
  obtain ⟨d, there, becomes⟩ := follow_advances (f := f.join order _) h started
  obtain rfl := Option.some.inj (here.symm.trans there)
  -- What it ends with was planned at its start, since the plan never changes.
  have from_start : (Call.begun order (site.begin order f.world).1).plan? = some plan := by
    rcases becomes with rfl | ⟨-, last, -, rfl⟩
    · exact planned
    · exact planned
  cases hbegin : site.begin order f.world with
  | mk status next =>
      rw [hbegin] at from_start
      rcases begin_cases hbegin with
        ⟨failure, rfl, -⟩ | ⟨chosen, rfl, suits, snapshot, -, -⟩
      · cases from_start
      · obtain rfl : chosen = plan := Option.some.inj from_start
        have lowest := suits.place
        rw [anyFree] at lowest
        exact ⟨chosen.baseline, chosen.requested, snapshot anyFree, lowest, suits.expected⟩

/-- Two attaches at any free slot that both end well give one device file exactly if the
lowest free slot was the same one in the listings at their starts, whatever the cloud
accepts and however the attaches went on. -/
theorem follow_anyFree_devices_equiv_iff {clock : Nat} {host : σ} {cloud : κ}
    {earlier between after : List Act} {first_start second_start : Fleet σ κ ε}
    {first second : Order} {a b : AttachedVolume}
    (before : site.follow earlier (.fresh clock host cloud) = some first_start)
    (middle : site.follow (.start first :: between) first_start = some second_start)
    (rest : site.follow (.start second :: after) second_start = some f)
    (first_free : first.place = .anyFree) (second_free : second.place = .anyFree)
    (first_ends : f.outcome? first_start.calls.length = some (.ok a))
    (second_ends : f.outcome? second_start.calls.length = some (.ok b)) :
    ∃ first_seen second_seen,
      (site.host.look first_start.world.host).1.listing = .ok first_seen ∧
      (site.host.look second_start.world.host).1.listing = .ok second_seen ∧
      (a.device ≈ b.device ↔
        site.agent.naming.selectFree first_seen = site.agent.naming.selectFree second_seen) := by
  have first_coherent := Fleet.Coherent.fresh.follow before
  have second_coherent := first_coherent.follow middle
  have whole : site.follow ((.start first :: between) ++ .start second :: after) first_start =
      some f := by
    rw [follow_append, middle, Option.bind_some, rest]
  obtain ⟨seen, slot, shown, chosen, translated⟩ :=
    follow_anyFree_ok first_coherent whole first_free first_ends
  obtain ⟨seen', slot', shown', chosen', translated'⟩ :=
    follow_anyFree_ok second_coherent rest second_free second_ends
  refine ⟨seen, seen', shown, shown', ?_⟩
  rw [chosen, chosen']
  constructor
  · intro same
    have slots := Naming.equiv_of_expected_equiv translated translated' same
    rw [Naming.eq_of_selectFree_equiv chosen chosen' slots]
  · rintro ⟨rfl⟩
    rw [DevicePath.equiv_iff, Except.ok.inj (translated.symm.trans translated')]

/-- A site at which two devices surface, each between the start of an attach and the first
look of its watch. -/
def inTurn : Site Nat ScriptedCloud Refusal where
  agent := {}
  host := .ofSights fun k =>
    ⟨.ok (.ofList ("sda" :: ["xvdb", "xvdc"].take ((k + 1) / 2))), fun _ => .ok 7⟩
  cloud := ScriptedCloud.cloud

/-- An attach that starts there when another one has ended sees the device of that one,
and takes the next slot. -/
theorem follow_in_turn_devices_differ :
    ∃ g f a b,
      inTurn.follow [.start ⟨.ofSevenBytes "vol-1", "i-1", .anyFree⟩, .ask 0, .hear 0]
        (.fresh 0 0 {}) = some g ∧
      inTurn.follow [.start ⟨.ofSevenBytes "vol-2", "i-1", .anyFree⟩, .ask 1, .hear 1] g =
        some f ∧
      f.outcome? 0 = some (.ok a) ∧ f.outcome? 1 = some (.ok b) ∧ ¬ a.device ≈ b.device := by
  have shown : ∀ g ∈ inTurn.follow
        [.start ⟨.ofSevenBytes "vol-1", "i-1", .anyFree⟩, .ask 0, .hear 0] (.fresh 0 0 {}),
      g.calls.length = 1 ∧ g.world.host = 2 ∧
      (inTurn.follow [.start ⟨.ofSevenBytes "vol-2", "i-1", .anyFree⟩, .ask 1, .hear 1]
        g).isSome = true ∧
      ∀ f ∈ inTurn.follow [.start ⟨.ofSevenBytes "vol-2", "i-1", .anyFree⟩, .ask 1, .hear 1] g,
        f.outcome? 0 = some (.ok ⟨(Volume.ofSevenBytes "vol-1").attached "i-1", ⟨"/dev/xvdb"⟩⟩) ∧
        f.outcome? 1 = some (.ok ⟨(Volume.ofSevenBytes "vol-2").attached "i-1", ⟨"/dev/xvdc"⟩⟩) :=
    by decide
  have starts : (inTurn.follow
      [.start ⟨.ofSevenBytes "vol-1", "i-1", .anyFree⟩, .ask 0, .hear 0]
      (.fresh 0 0 {})).isSome = true := by decide
  obtain ⟨g, hg⟩ := Option.isSome_iff_exists.mp starts
  obtain ⟨count, looks, goes, ends⟩ := shown g hg
  obtain ⟨f, hf⟩ := Option.isSome_iff_exists.mp goes
  obtain ⟨first, second⟩ := ends f hf
  have nothing : inTurn.follow [] (.fresh 0 0 {}) = some (.fresh 0 0 {}) := rfl
  obtain ⟨seen, seen', shows, shows', same_iff⟩ :=
    follow_anyFree_devices_equiv_iff nothing hg hf rfl rfl first (count ▸ second)
  obtain rfl := Except.ok.inj shows
  rw [looks] at shows'
  obtain rfl := Except.ok.inj shows'
  exact ⟨g, f, _, _, hg, hf, first, second, fun same => absurd (same_iff.mp same) (by decide)⟩

/-! ### The race -/

/-- A host that shows one new device at the fourth look and at every later one. -/
def raceHost : ScriptedHost where
  script :=
    { snapshots :=
        [[("sda", 8)], [("sda", 8)], [("sda", 8)], [("sda", 8), ("xvdb", 7)]] }

/-- Watches that last twenty milliseconds with pauses of three, under a cloud that accepts
everything. -/
def raceSite : Site ScriptedHost ScriptedCloud Refusal where
  agent := { settings := { limit := 20, interval := 3 } }
  host := ScriptedHost.host
  cloud := ScriptedCloud.cloud

/-- The second attach starts when the first one has found nothing yet. -/
def race : List Act :=
  [.start ⟨.ofSevenBytes "vol-1", "i-1", .anyFree⟩, .ask 0, .hear 0,
    .start ⟨.ofSevenBytes "vol-2", "i-1", .anyFree⟩, .ask 1, .hear 1, .pass 3, .wake 0]

/-- Both attaches end well at one device, and neither volume is detached. -/
theorem follow_race_one_device :
    ∃ f a b, raceSite.follow race (.fresh 0 raceHost {}) = some f ∧
      f.outcome? 0 = some (.ok a) ∧ f.outcome? 1 = some (.ok b) ∧
      a.volume.id ≠ b.volume.id ∧ KeptSinceEnd f.log 0 a.volume.id ∧
      KeptSinceEnd f.log 1 b.volume.id ∧ a.device ≈ b.device := by
  have shown : ∀ f ∈ raceSite.follow race (.fresh 0 raceHost {}),
      f.outcome? 0 = some (.ok ⟨(Volume.ofSevenBytes "vol-1").attached "i-1", ⟨"/dev/xvdb"⟩⟩) ∧
      f.outcome? 1 = some (.ok ⟨(Volume.ofSevenBytes "vol-2").attached "i-1", ⟨"/dev/xvdb"⟩⟩) ∧
      KeptSinceEnd f.log 0 "vol-1" ∧ KeptSinceEnd f.log 1 "vol-2" := by decide
  have ends : (raceSite.follow race (.fresh 0 raceHost {})).isSome = true := by decide
  obtain ⟨f, h⟩ := Option.isSome_iff_exists.mp ends
  obtain ⟨first, second, first_kept, second_kept⟩ := shown f h
  exact ⟨f, _, _, h, first, second, by decide, first_kept, second_kept, Setoid.refl _⟩

end Site
end VolumeAttach
