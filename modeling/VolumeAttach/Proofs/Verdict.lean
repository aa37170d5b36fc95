/-
Module: VolumeAttach.Proofs.Verdict
Purpose: What a watch with pauses finds, and on which of the sizes it depends.
Main exports: Finding.ofShown, Scan.namesRead, Sight.mem_namesRead_iff, Sight.SameReads,
  Watch.run_congr, watchHost_finding
-/
import VolumeAttach.Proofs.Schedule

namespace VolumeAttach

/-!
The verdict of a watch is a function of what its looks showed, in order, where a look
whose listing cannot be read shows nothing and is left out.  Everything else about the
host is irrelevant: two hosts that answer alike at the looks that take place, for the
listing and for the new names in it, are watched alike to the last diagnostic.
-/

/-- The verdict on what the looks before the deadline showed.  The first that shows a
single device decides; without such a look the last one counts, if it shows several. -/
def Finding.ofShown (shown : List NameSet) : Finding :=
  match shown.findSome? NameSet.only? with
  | some name => .found name
  | none =>
      match shown.getLast? with
      | some names => if 2 ≤ names.toList.length then .ambiguous names else .notFound
      | none => .notFound

/-! ### The verdict -/

namespace Host.FirstShows

variable {σ : Type} {host : Host σ} {s : σ} {baseline : NameSet} {size : UInt64} {k n : Nat}
  {name : String}

theorem findSome?_shown (first : host.FirstShows s baseline size k name) (below : k < n) :
    (host.shown s baseline size n).findSome? NameSet.only? = some name := by
  induction n with
  | zero => exact absurd below (Nat.not_lt_zero k)
  | succ n ih =>
      rw [Host.shown_succ, List.findSome?_append]
      rcases Nat.lt_succ_iff_lt_or_eq.mp below with earlier | rfl
      · rw [ih earlier, Option.some_or]
      · have decides := Sight.only?_shown_eq_some_iff.mpr first.1
        obtain ⟨names, shows, only⟩ := Option.bind_eq_some_iff.mp decides
        rw [Host.Undecided.findSome?_shown first.2, shows]
        simpa using only

theorem ofShown_eq (first : host.FirstShows s baseline size k name) (below : k < n) :
    Finding.ofShown (host.shown s baseline size n) = .found name := by
  rw [Finding.ofShown, first.findSome?_shown below]

end Host.FirstShows

/-- What a watch without a decision remembers leads to the verdict on what it was shown. -/
theorem Watch.verdict_remember {w : Watch} {shown : List NameSet} (fresh : w.candidates = none)
    (undecided : shown.findSome? NameSet.only? = none) :
    (w.remember shown).verdict.value = .ofShown shown := by
  rw [Finding.ofShown, undecided, verdict, remember, fresh]
  cases shown.getLast? with
  | none => rfl
  | some names =>
      by_cases several : 2 ≤ names.toList.length <;> simp [NameSet.several?, several]

/-! ### What is read, and what the verdict depends on -/

/-- The names whose sizes a scan has read, in the order in which it has read them. -/
def Scan.namesRead : Scan → List String
  | .unavailable _ => []
  | .readings list => list.map Reading.name

/-- Sizes are read of the listed names that are not in the baseline, and of no other. -/
theorem Sight.mem_namesRead_iff {sight : Sight} {baseline : NameSet} {name : String} :
    name ∈ (sight.scan baseline).namesRead ↔
      ∃ listed, sight.listing = .ok listed ∧ name ∈ listed ∧ name ∉ baseline := by
  unfold Sight.scan
  cases h : sight.listing with
  | error cause => simp [Scan.namesRead]
  | ok listed => simp [Scan.namesRead, NameSet.mem_toList, NameSet.mem_diff]

/-- They are read in the order of the names, each once. -/
theorem Sight.ascending_namesRead (sight : Sight) (baseline : NameSet) :
    (sight.scan baseline).namesRead.Pairwise (· < ·) := by
  unfold Sight.scan
  cases sight.listing with
  | error cause => exact .nil
  | ok listed =>
      simp only [Scan.namesRead, List.map_map, Function.comp_def, List.map_id']
      exact (listed.diff baseline).ascending

/-- Two looks agree on all that is read of them: the listing, and the size of every listed
name that is not in the baseline. -/
def Sight.SameReads (baseline : NameSet) (a b : Sight) : Prop :=
  a.listing = b.listing ∧ ∀ listed, a.listing = .ok listed →
    ∀ name, name ∈ listed → name ∉ baseline → a.size name = b.size name

theorem Sight.scan_congr {baseline : NameSet} {a b : Sight} (same : a.SameReads baseline b) :
    a.scan baseline = b.scan baseline := by
  obtain ⟨listing, sizes⟩ := same
  unfold Sight.scan
  rw [← listing]
  cases h : a.listing with
  | error cause => rfl
  | ok listed =>
      simp only [Scan.readings.injEq]
      apply List.map_congr_left
      intro name inside
      obtain ⟨inListing, new⟩ := NameSet.mem_diff.mp inside
      rw [sizes listed h name inListing new]

/-- What can be told of the end of a watch without knowing the host. -/
def Watch.Report.seen {σ : Type} (r : Watch.Report σ) : Finding × List Diagnostic × Nat :=
  (r.finding, r.diagnostics, r.clock)

/-- Hosts that agree on what is read at the looks that take place are watched alike. -/
theorem Watch.run_congr {σ τ : Type} {host : Host σ} {other : Host τ} (turns : Nat) {w : Watch}
    {now : Nat} {s : σ} {t : τ} (told : List Diagnostic)
    (same : ∀ k time, w.LooksAt host now s k time →
      (host.sight s k).SameReads w.baseline (other.sight t k)) :
    (run host turns w now told s).map Report.seen =
      (run other turns w now told t).map Report.seen := by
  induction turns generalizing w now told s t with
  | zero => rfl
  | succ turns ih =>
      by_cases late : w.deadline ≤ now
      · rw [run_of_late host late, run_of_late other late]
        rfl
      have early : now < w.deadline := Nat.lt_of_not_le late
      have scans : (host.look s).1.scan w.baseline = (other.look t).1.scan w.baseline :=
        Sight.scan_congr (same 0 now (.now early))
      have later : ∀ watch wake, (w.turn host now s).next = .asleep watch wake →
          ∀ k time, watch.LooksAt host wake (host.look s).2 k time →
            (host.sight (host.look s).2 k).SameReads w.baseline
              (other.sight (other.look t).2 k) := by
        intro watch wake sleeps k time looks
        apply same (k + 1) time
        apply LooksAt.later sleeps
        rw [turn_of_lt host early]
        exact looks
      rw [turn_of_lt host early] at later
      rw [run, run, turn_of_lt host early, turn_of_lt other early, ← scans]
      cases hnext : w.afterScan now ((host.look s).1.scan w.baseline) with
      | ended finding => rfl
      | asleep watch wake =>
          have kept : watch.baseline = w.baseline := by
            have sleeps : (w.turn host now s).next = .asleep watch wake := by
              rw [turn_of_lt host early]
              exact hnext
            obtain ⟨-, -, rfl, -⟩ := turn_eq_asleep_iff.mp sleeps
            rfl
          apply ih
          rw [kept]
          exact later watch wake hnext

/-- So a watch with pauses is the same watch on either of them. -/
theorem watchHost_congr {σ τ : Type} {host : Host σ} {settings : WatchSettings}
    {baseline : NameSet} {size : UInt64} {now : Nat} {s : σ} {report : Watch.Report σ}
    (pause : 0 < settings.interval)
    (ends : watchHost host settings baseline size now s = some report) (other : Host τ) (t : τ)
    (agree : ∀ k time, (Watch.start settings baseline size now).LooksAt host now s k time →
      (host.sight s k).SameReads baseline (other.sight t k)) :
    ∃ same, watchHost other settings baseline size now t = some same ∧
      same.finding = report.finding ∧ same.diagnostics = report.diagnostics ∧
      same.clock = report.clock := by
  have bound : Watch.turnBound settings (other.horizon t) =
      Watch.turnBound settings (host.horizon s) := by
    simp only [Watch.turnBound, if_neg (Nat.ne_of_gt pause)]
  have alike := Watch.run_congr (Watch.turnBound settings (host.horizon s))
    (w := Watch.start settings baseline size now) [] agree
  rw [watchHost] at ends
  rw [ends, ← bound] at alike
  obtain ⟨same, run, seen⟩ := Option.map_eq_some_iff.mp alike.symm
  refine ⟨same, run, ?_⟩
  simpa [Watch.Report.seen] using seen

/-- A watch with pauses comes to its end, with the verdict on what was shown by the looks
that begin before the deadline.  Once a look has shown a single new device of the expected
size, that device is found and the host is not looked at again.  A look reads the size of
each listed name outside the baseline, in order and once, and of no other name.  Another
host that at every look that takes place gives the same listing, and the same size for each
of these names, is watched with the same verdict, at the same time and with the same
diagnostics.  The clock is an ideal one that counts whole milliseconds: a sleep ends when it
is to end, and nothing else takes time. -/
theorem watchHost_finding {σ : Type} (host : Host σ) (settings : WatchSettings)
    (pause : 0 < settings.interval) (baseline : NameSet) (size : UInt64) (now : Nat) (s : σ) :
    ∃ report looks, watchHost host settings baseline size now s = some report ∧
      (∀ k, k < looks ↔ k * settings.interval < settings.effectiveLimit) ∧
      report.finding = .ofShown (host.shown s baseline size looks) ∧
      (∀ k < looks, ∀ name, host.FirstShows s baseline size k name →
        report.finding = .found name ∧ report.host = host.after s (k + 1)) ∧
      (∀ k, ((host.sight s k).scan baseline).namesRead.Pairwise (· < ·) ∧
        ∀ name, name ∈ ((host.sight s k).scan baseline).namesRead ↔
          ∃ listed, (host.sight s k).listing = .ok listed ∧ name ∈ listed ∧ name ∉ baseline) ∧
      ∀ {τ : Type} (other : Host τ) (t : τ),
        (∀ k time, (Watch.start settings baseline size now).LooksAt host now s k time →
          (host.sight s k).SameReads baseline (other.sight t k)) →
        ∃ same, watchHost other settings baseline size now t = some same ∧
          same.finding = report.finding ∧ same.diagnostics = report.diagnostics ∧
          same.clock = report.clock := by
  rcases watchHost_cases host pause baseline size now s with
    ⟨k, below, name, first, ends⟩ | ⟨undecided, ends⟩
  · refine ⟨_, settings.looks, ends, fun k => WatchSettings.lt_looks_iff pause,
      (first.ofShown_eq below).symm, ?_,
      fun _ => ⟨Sight.ascending_namesRead .., fun _ => Sight.mem_namesRead_iff⟩,
      watchHost_congr pause ends⟩
    intro j _ other also
    obtain rfl : j = k := first.eq_of_showsOnly also.2 also.1
    have device : name = other := (also.1 name).mp ((first.1 name).mpr rfl)
    rw [device]
    exact ⟨rfl, rfl⟩
  · refine ⟨_, settings.looks, ends, fun k => WatchSettings.lt_looks_iff pause,
      Watch.verdict_remember rfl undecided.findSome?_shown, ?_,
      fun _ => ⟨Sight.ascending_namesRead .., fun _ => Sight.mem_namesRead_iff⟩,
      watchHost_congr pause ends⟩
    intro j below other first
    exact absurd first.1 (undecided j below other)

/-- Two candidates that are seen once are still the verdict when the listing cannot be
read any more. -/
theorem watchHost_finding_after_failure :
    let host : Host Nat := .ofSights fun k =>
      ⟨if k = 0 then .ok (.ofList ["sda", "xvdj", "xvdk"]) else .error (.io "/sys/block" "gone"),
        fun _ => .ok 7⟩
    0 < (WatchSettings.mk 20 10).interval ∧
    ∃ report, watchHost host ⟨20, 10⟩ (.ofList ["sda"]) 7 0 0 = some report ∧
      report.finding = .ambiguous (.ofList ["xvdj", "xvdk"]) := by
  intro host
  have pause : 0 < (WatchSettings.mk 20 10).interval := by decide
  obtain ⟨report, looks, ends, inTime, finding, -⟩ :=
    watchHost_finding host ⟨20, 10⟩ pause (.ofList ["sda"]) 7 0 0
  have second : 1 < looks := (inTime 1).mpr (by decide)
  have third : ¬ 2 < looks := fun below => absurd ((inTime 2).mp below) (by decide)
  obtain rfl : looks = 2 := by omega
  exact ⟨pause, report, ends, finding.trans (by decide)⟩

end VolumeAttach
