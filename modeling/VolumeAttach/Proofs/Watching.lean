/-
Module: VolumeAttach.Proofs.Watching
Purpose: What a single scan decides, and from it what a watch with pauses finds.
Main exports: Host.after, Host.sight, Sight.IsCandidate, Sight.ShowsOnly,
  Host.FirstShows, Watch.afterScan_cases, Watch.run_found_iff,
  Watch.tellsWatch_of_mem_turn
-/
import VolumeAttach.Watch

namespace VolumeAttach

/-! ### The looks at a host, one after the other -/

namespace Host

variable {σ : Type}

/-- The state of a host after so many looks. -/
def after (host : Host σ) : σ → Nat → σ
  | s, 0 => s
  | s, k + 1 => after host (host.look s).2 k

/-- What the look with a number shows; the first has the number zero. -/
def sight (host : Host σ) (s : σ) (k : Nat) : Sight := (host.look (host.after s k)).1

/-- The host that shows given sights one after the other.  The first of them has the
number zero. -/
def ofSights (sights : Nat → Sight) : Host Nat where
  look k := (sights k, k + 1)

/-- So every sequence of sights is what some host shows. -/
theorem sight_ofSights (sights : Nat → Sight) (first k : Nat) :
    (ofSights sights).sight first k = sights (first + k) := by
  induction k generalizing first with
  | zero => rfl
  | succ k ih =>
      have next :
          (ofSights sights).sight first (k + 1) = (ofSights sights).sight (first + 1) k := rfl
      rw [next, ih, Nat.add_assoc, Nat.add_comm 1]

end Host

/-- A new device of the expected size: it is listed, it is not in the baseline,
and its size is read as the expected one. -/
def Sight.IsCandidate (sight : Sight) (baseline : NameSet) (size : UInt64)
    (name : String) : Prop :=
  ∃ listed, sight.listing = .ok listed ∧ name ∈ listed ∧ name ∉ baseline ∧
    sight.size name = .ok size

/-- Exactly one new device of the expected size. -/
def Sight.ShowsOnly (sight : Sight) (baseline : NameSet) (size : UInt64)
    (name : String) : Prop :=
  ∀ other, sight.IsCandidate baseline size other ↔ other = name

/-- A look shows exactly one new device of the expected size, and no look before
it did. -/
def Host.FirstShows {σ : Type} (host : Host σ) (s : σ) (baseline : NameSet) (size : UInt64)
    (k : Nat) (name : String) : Prop :=
  (host.sight s k).ShowsOnly baseline size name ∧
    ∀ j < k, ∀ other, ¬ (host.sight s j).ShowsOnly baseline size other

namespace Host.FirstShows

variable {σ : Type} {host : Host σ} {s : σ} {baseline : NameSet} {size : UInt64}
  {k : Nat} {name : String}

theorem zero_iff : host.FirstShows s baseline size 0 name ↔
    (host.look s).1.ShowsOnly baseline size name := by
  simp [FirstShows, sight, after]

theorem succ_iff : host.FirstShows s baseline size (k + 1) name ↔
    (∀ other, ¬ (host.look s).1.ShowsOnly baseline size other) ∧
      host.FirstShows (host.look s).2 baseline size k name := by
  constructor
  · rintro ⟨now, before⟩
    exact ⟨before 0 (Nat.succ_pos k), now, fun j hj => before (j + 1) (Nat.succ_lt_succ hj)⟩
  · rintro ⟨first, now, before⟩
    refine ⟨now, fun j hj => ?_⟩
    cases j with
    | zero => exact first
    | succ j => exact before j (Nat.lt_of_succ_lt_succ hj)

end Host.FirstShows

/-! ### One scan -/

/-- A set with a single member lists that member. -/
theorem NameSet.toList_eq_singleton_iff {s : NameSet} {name : String} :
    s.toList = [name] ↔ ∀ other, other ∈ s ↔ other = name := by
  constructor
  · intro h other
    rw [← mem_toList, h, List.mem_singleton]
  · intro only
    obtain ⟨list, ascending⟩ := s
    have members : ∀ other, other ∈ list ↔ other = name := only
    cases list with
    | nil => exact absurd ((members name).mpr rfl) List.not_mem_nil
    | cons head rest =>
        obtain rfl := (members head).mp (List.mem_cons_self ..)
        cases rest with
        | nil => rfl
        | cons next others =>
            have same := (members next).mp (List.mem_cons_of_mem _ (List.mem_cons_self ..))
            have below := (List.pairwise_cons.mp ascending).1 next (List.mem_cons_self ..)
            rw [same] at below
            exact absurd below (String.lt_irrefl _)

theorem Reading.fits_iff {name : String} {read : Except InventoryError UInt64} {size : UInt64} :
    Reading.fits size ⟨name, read⟩ = true ↔ read = .ok size := by
  unfold Reading.fits
  cases read <;> simp

/-- The names that fit are the candidates. -/
theorem mem_fitting_iff {sight : Sight} {baseline listed : NameSet} {size : UInt64}
    (h : sight.listing = .ok listed) {name : String} :
    name ∈ fitting size ((listed.diff baseline).toList.map fun name => ⟨name, sight.size name⟩) ↔
      sight.IsCandidate baseline size name := by
  rw [fitting, NameSet.mem_ofList]
  simp only [List.mem_map, List.mem_filter, NameSet.mem_toList, NameSet.mem_diff]
  constructor
  · rintro ⟨_, ⟨⟨_, ⟨inside, outside⟩, rfl⟩, fit⟩, rfl⟩
    exact ⟨listed, h, inside, outside, Reading.fits_iff.mp fit⟩
  · rintro ⟨found, hfound, inside, outside, fit⟩
    obtain rfl := Except.ok.inj (h.symm.trans hfound)
    exact ⟨_, ⟨⟨name, ⟨inside, outside⟩, rfl⟩, Reading.fits_iff.mpr fit⟩, rfl⟩

namespace Watch

/-- A scan ends the watch with the only candidate if there is exactly one.
Otherwise the watch sleeps, and changes in nothing but what it remembers. -/
theorem afterScan_cases (w : Watch) (now : Nat) (sight : Sight) :
    (∃ name, sight.ShowsOnly w.baseline w.size name ∧
      w.afterScan now (sight.scan w.baseline) = .ended (.found name)) ∨
    ((∀ name, ¬ sight.ShowsOnly w.baseline w.size name) ∧ ∃ candidates,
      w.afterScan now (sight.scan w.baseline) =
        .asleep { w with candidates := candidates } (now + min w.interval (w.deadline - now))) := by
  unfold Sight.scan
  cases h : sight.listing with
  | error cause =>
      right
      refine ⟨fun name only => ?_, _, rfl⟩
      obtain ⟨listed, hlisted, -⟩ := (only name).mpr rfl
      rw [h] at hlisted
      cases hlisted
  | ok listed =>
      have only : ∀ name, sight.ShowsOnly w.baseline w.size name ↔
          (fitting w.size ((listed.diff w.baseline).toList.map
            fun name => ⟨name, sight.size name⟩)).toList = [name] := by
        intro name
        rw [NameSet.toList_eq_singleton_iff]
        simp only [mem_fitting_iff h, Sight.ShowsOnly]
      simp only [only, afterScan]
      split
      · rename_i empty
        exact .inr ⟨by simp [empty], _, rfl⟩
      · rename_i name single
        exact .inl ⟨name, single, rfl⟩
      · rename_i several
        exact .inr ⟨several, _, rfl⟩

/-! ### A whole watch

The scans still to come are counted from the present instant: the `k`-th of them
is `k` pauses away, and takes place if that is before the deadline.  A sleep brings
the deadline nearer by one pause, so that it turns the `k + 1`-st scan into the
`k`-th. -/

/-- At the deadline a watch gives no name. -/
theorem verdict_ne_found (w : Watch) (name : String) : w.verdict.value ≠ .found name := by
  unfold verdict
  split <;> nofun

variable {σ : Type} (host : Host σ)

/-- A watch whose time is up gives its verdict. -/
theorem run_of_late {w : Watch} {now : Nat} (late : w.deadline ≤ now) (turns : Nat)
    (told : List Diagnostic) (s : σ) :
    run host (turns + 1) w now told s =
      some ⟨w.verdict.value, told.reverse ++ w.verdict.diagnostics, now, s⟩ := by
  rw [run]
  simp [turn, if_pos late]

/-- A watch that pauses comes to its end.  It finds a name exactly if that is the
only candidate in the first scan before the deadline that has just one. -/
theorem run_found_iff (turns : Nat) (w : Watch) (now : Nat) (pause : 0 < w.interval)
    (enough : w.deadline - now ≤ turns * w.interval) (told : List Diagnostic) (s : σ) :
    ∃ report, run host (turns + 1) w now told s = some report ∧ ∀ name,
      report.finding = .found name ↔ ∃ k, k * w.interval < w.deadline - now ∧
        host.FirstShows s w.baseline w.size k name := by
  induction turns generalizing w now told s with
  | zero =>
      have late : w.deadline ≤ now := by omega
      refine ⟨_, run_of_late host late 0 told s, fun name => ⟨fun h => ?_, fun ⟨k, early, _⟩ => ?_⟩⟩
      · exact absurd h (verdict_ne_found w name)
      · omega
  | succ turns ih =>
      by_cases late : w.deadline ≤ now
      · refine ⟨_, run_of_late host late (turns + 1) told s,
          fun name => ⟨fun h => ?_, fun ⟨k, early, _⟩ => ?_⟩⟩
        · exact absurd h (verdict_ne_found w name)
        · omega
      rw [run]
      simp only [turn, if_neg late]
      rcases w.afterScan_cases now (host.look s).1 with
        ⟨found, only, ends⟩ | ⟨none, candidates, sleeps⟩
      · rw [ends]
        refine ⟨_, rfl, fun name => ⟨?_, ?_⟩⟩
        · rintro ⟨rfl⟩
          exact ⟨0, by omega, Host.FirstShows.zero_iff.mpr only⟩
        · rintro ⟨k, -, first⟩
          cases k with
          | zero =>
              have other := Host.FirstShows.zero_iff.mp first
              rw [(only name).mp ((other name).mpr rfl)]
          | succ k => exact absurd only ((Host.FirstShows.succ_iff.mp first).1 found)
      · rw [sleeps]
        rw [Nat.succ_mul] at enough
        obtain ⟨report, ends, finds⟩ := ih { w with candidates := candidates }
          (now + min w.interval (w.deadline - now)) pause (by simp only; omega)
          ((((host.look s).1.scan w.baseline).diagnostics).reverseAux told) (host.look s).2
        refine ⟨report, ends, fun name => (finds name).trans ⟨?_, ?_⟩⟩
        · rintro ⟨k, early, first⟩
          refine ⟨k + 1, ?_, Host.FirstShows.succ_iff.mpr ⟨none, first⟩⟩
          rw [Nat.succ_mul]
          simp only at early
          omega
        · rintro ⟨k, early, first⟩
          cases k with
          | zero => exact absurd (Host.FirstShows.zero_iff.mp first) (none name)
          | succ k =>
              rw [Nat.succ_mul] at early
              exact ⟨k, by simp only; omega, (Host.FirstShows.succ_iff.mp first).2⟩

end Watch

/-! ### What a watch tells -/

/-- Whether a diagnostic is about a look of a watch or about its verdict. -/
def Diagnostic.tellsWatch : Diagnostic → Bool
  | .listingFailed _ => true
  | .deviceVanished _ => true
  | .sizeUnreadable .. => true
  | .severalCandidates .. => true
  | .nothingAppeared .. => true
  | _ => false

theorem Reading.tellsWatch_of_mem {r : Reading} {d : Diagnostic} (told : d ∈ r.diagnostics) :
    d.tellsWatch = true := by
  unfold diagnostics at told
  split at told
  · cases told
  · rw [List.mem_singleton.mp told]
    rfl
  · rw [List.mem_singleton.mp told]
    rfl

theorem Scan.tellsWatch_of_mem {scan : Scan} {d : Diagnostic} (told : d ∈ scan.diagnostics) :
    d.tellsWatch = true := by
  cases scan with
  | unavailable cause =>
      rw [List.mem_singleton.mp told]
      rfl
  | readings list =>
      obtain ⟨reading, -, told⟩ := List.mem_flatMap.mp told
      exact Reading.tellsWatch_of_mem told

/-- A watch tells of nothing else. -/
theorem Watch.tellsWatch_of_mem_turn {σ : Type} {host : Host σ} {w : Watch} {now : Nat} {s : σ}
    {d : Diagnostic} (told : d ∈ (w.turn host now s).diagnostics) : d.tellsWatch = true := by
  unfold turn at told
  split at told
  · unfold verdict at told
    split at told
    · rw [List.mem_singleton.mp told]
      rfl
    · rw [List.mem_singleton.mp told]
      rfl
  · exact Scan.tellsWatch_of_mem told

end VolumeAttach
