/-
Module: VolumeAttach.Proofs.WatchJournal
Purpose: What a watch with pauses tells, look by look and at its end.
Main exports: Journal.worded, Diagnostic.Reads, Sight.TellsOf, Sight.Tells,
  Finding.closing, Sight.tells_scan, Watch.verdict_diagnostics, watchHost_told,
  watchHost_journal
-/
import VolumeAttach.Proofs.Schedule
import Mathlib.Data.List.Forall2

namespace VolumeAttach

open Text

/-!
A watch tells of what went wrong at a look, and at the deadline of its verdict.  What a
look has to tell, and in which words, is laid down below without the scan: by the listing,
the baseline and the sizes that the look shows.  The verdict adds one diagnostic, unless it
is a device.  A caller for whom several devices are as good as none adds one more, so that
it hears of every loss in the same words.
-/

/-- The diagnostics with a level and a wording, in order. -/
def Journal.worded (j : Journal) (level : Level) (message : String) : Journal :=
  j.filter fun d => d.level == level && d.message == message

@[simp] theorem Journal.worded_append (first second : Journal) (level : Level)
    (message : String) : Journal.worded (first ++ second) level message =
      first.worded level message ++ second.worded level message :=
  List.filter_append ..

/-- What an operator reads of a diagnostic: its level, its wording and its named values. -/
structure Diagnostic.Reads (d : Diagnostic) (level : Level) (message : String)
    (fields : List (String × String)) : Prop where
  level : d.level = level
  message : d.message = message
  fields : d.fields = fields

/-! ### What a look has to tell -/

/-- What is to be told of a new device whose size cannot be read: that it has vanished, for
those who look closely, or else a warning that says why. -/
inductive Sight.TellsOf (sight : Sight) (name : String) : Diagnostic → Prop
  | vanished {missing : String} (gone : sight.size name = .error (.deviceNotFound missing))
      (reads : (Diagnostic.deviceVanished name).Reads .debug
        "new device vanished before its size was read" [("device", name)]) :
      TellsOf sight name (.deviceVanished name)
  | unreadable {cause : InventoryError} (fails : sight.size name = .error cause)
      (there : ∀ missing, cause ≠ .deviceNotFound missing)
      (reads : (Diagnostic.sizeUnreadable name cause).Reads .warn
        "failed to read device size; retrying" [("device", name), ("error", cause.message)]) :
      TellsOf sight name (.sizeUnreadable name cause)

/-- What is to be told of a look.  A listing that cannot be read is the only thing to tell,
as a warning.  Otherwise it is the new devices whose sizes cannot be read, in the order of
their names. -/
inductive Sight.Tells (sight : Sight) (baseline : NameSet) : Journal → Prop
  | failed {cause : InventoryError} (fails : sight.listing = .error cause)
      (reads : (Diagnostic.listingFailed cause).Reads .warn
        "failed to list block devices; retrying" [("error", cause.message)]) :
      Tells sight baseline [.listingFailed cause]
  | read {listed : NameSet} {names : List String} {told : Journal}
      (lists : sight.listing = .ok listed) (ascending : names.Pairwise (· < ·))
      (lost : ∀ name, name ∈ names ↔
        name ∈ listed ∧ name ∉ baseline ∧ ∃ cause, sight.size name = .error cause)
      (each : List.Forall₂ sight.TellsOf names told) :
      Tells sight baseline told

/-- The names whose size cannot be read are told of one by one. -/
theorem Sight.forall₂_tellsOf (sight : Sight) (names : List String) :
    List.Forall₂ sight.TellsOf (names.filter fun name => !(sight.size name).isOk)
      ((names.map fun name => ⟨name, sight.size name⟩).flatMap Reading.diagnostics) := by
  induction names with
  | nil => exact .nil
  | cons name rest ih =>
      rw [List.filter_cons, List.map_cons, List.flatMap_cons]
      cases h : sight.size name with
      | ok size => exact ih
      | error cause =>
          cases cause with
          | deviceNotFound missing => exact .cons (.vanished h ⟨rfl, rfl, rfl⟩) ih
          | malformed path message => exact .cons (.unreadable h nofun ⟨rfl, rfl, rfl⟩) ih
          | io path message => exact .cons (.unreadable h nofun ⟨rfl, rfl, rfl⟩) ih

/-- A scan tells what is to be told of its look. -/
theorem Sight.tells_scan (sight : Sight) (baseline : NameSet) :
    sight.Tells baseline (sight.scan baseline).diagnostics := by
  unfold Sight.scan
  cases h : sight.listing with
  | error cause => exact .failed h ⟨rfl, rfl, rfl⟩
  | ok listed =>
      let lost := (listed.diff baseline).filter fun name => !(sight.size name).isOk
      have members : ∀ name, name ∈ lost.toList ↔
          name ∈ listed ∧ name ∉ baseline ∧ ∃ cause, sight.size name = .error cause := by
        intro name
        rw [NameSet.mem_toList, NameSet.mem_filter, NameSet.mem_diff, and_assoc]
        cases sight.size name <;> simp [Except.isOk, Except.toBool]
      exact .read h lost.ascending members (sight.forall₂_tellsOf _)

/-- How a diagnostic of a look may be worded. -/
def lookWordings : List String :=
  ["failed to list block devices; retrying", "new device vanished before its size was read",
    "failed to read device size; retrying"]

/-- Nothing worded otherwise is told of a look. -/
theorem Sight.Tells.worded_eq_nil {sight : Sight} {baseline : NameSet} {told : Journal}
    {level : Level} {message : String} (tells : sight.Tells baseline told)
    (otherwise : message ∉ lookWordings) : told.worded level message = [] := by
  rw [Journal.worded, List.filter_eq_nil_iff]
  intro d inside same
  apply otherwise
  obtain ⟨-, rfl⟩ : d.level = level ∧ d.message = message := by simpa using same
  cases tells with
  | failed fails =>
      obtain rfl := List.mem_singleton.mp inside
      exact .head _
  | @read listed names _ lists ascending lost each =>
      clear ascending lost
      induction each with
      | nil => cases inside
      | cons first rest ih =>
          rcases List.mem_cons.mp inside with rfl | later
          · cases first with
            | vanished => exact .tail _ (.head _)
            | unreadable => exact .tail _ (.tail _ (.head _))
          · exact ih later

/-! ### Look by look -/

namespace Host

variable {σ : Type} (host : Host σ) (s : σ) (baseline : NameSet)

/-- What the first looks tell falls into one part for each of them. -/
theorem tells_lookDiagnostics (looks : Nat) :
    ∃ parts, host.lookDiagnostics s baseline looks = parts.flatten ∧
      List.Forall₂ (fun k told => (host.sight s k).Tells baseline told)
        (List.range looks) parts := by
  refine ⟨_, List.flatMap_def .., ?_⟩
  rw [List.forall₂_map_right_iff, List.forall₂_same]
  intro k _
  exact Sight.tells_scan ..

theorem worded_lookDiagnostics {level : Level} {message : String}
    (otherwise : message ∉ lookWordings) (looks : Nat) :
    Journal.worded (host.lookDiagnostics s baseline looks) level message = [] := by
  induction looks with
  | zero => rfl
  | succ looks ih =>
      rw [lookDiagnostics_succ, Journal.worded_append, ih]
      exact (Sight.tells_scan ..).worded_eq_nil otherwise

/-- No look is told of in the words of a diagnostic that is worded otherwise. -/
theorem getLast?_lookDiagnostics_ne {d : Diagnostic} (otherwise : d.message ∉ lookWordings)
    (looks : Nat) : (host.lookDiagnostics s baseline looks).getLast? ≠ some d := by
  intro last
  have inside : d ∈ Journal.worded (host.lookDiagnostics s baseline looks) d.level d.message :=
    List.mem_filter.mpr ⟨List.mem_of_getLast? last, by simp⟩
  rw [host.worded_lookDiagnostics s baseline otherwise looks] at inside
  cases inside

end Host

/-! ### The verdict -/

/-- What a verdict adds to the diagnostics of the looks. -/
def Finding.closing (baseline : NameSet) (size : UInt64) (limit : Nat) : Finding → Journal
  | .found _ => []
  | .ambiguous names => [.severalCandidates size names limit]
  | .notFound => [.nothingAppeared size baseline limit]

theorem Watch.verdict_diagnostics (w : Watch) :
    w.verdict.diagnostics = w.verdict.value.closing w.baseline w.size w.limit := by
  unfold verdict
  cases w.candidates <;> rfl

section Closing

variable (settings : WatchSettings) (baseline : NameSet) (size : UInt64) (limit : Nat)
  (finding : Finding)

theorem Finding.worded_closing_nothing :
    Journal.worded (finding.closing baseline size limit) .warn
      "no new device appeared in the OS" =
      if finding = .notFound then [.nothingAppeared size baseline limit] else [] := by
  cases finding <;> rfl

theorem Finding.worded_closing_several :
    Journal.worded (finding.closing baseline size limit) .warn
      "several new devices match the expected size" =
      match finding with
      | .ambiguous names => [.severalCandidates size names limit]
      | _ => [] := by
  cases finding <;> rfl

/-- Together with what is told in addition, every loss is told in the same words. -/
theorem Finding.worded_loss_nothing :
    Journal.worded (finding.closing baseline size settings.effectiveLimit ++
      finding.lossDiagnostics settings baseline size) .warn
      "no new device appeared in the OS" =
      if finding.found? = none then [.nothingAppeared size baseline settings.effectiveLimit]
      else [] := by
  cases finding <;> rfl

theorem Finding.getLast?_loss {told : Journal}
    (before : told.getLast? ≠ some (.nothingAppeared size baseline settings.effectiveLimit)) :
    (told ++ (finding.closing baseline size settings.effectiveLimit ++
      finding.lossDiagnostics settings baseline size)).getLast? =
        some (.nothingAppeared size baseline settings.effectiveLimit) ↔
      finding.found? = none := by
  cases finding with
  | found name => simpa [closing, lossDiagnostics, found?] using before
  | ambiguous names => simp [closing, lossDiagnostics, found?, List.getLast?_append]
  | notFound => simp [closing, lossDiagnostics, found?]

end Closing

/-- A watch with pauses tells of the looks that take place, in their order, and then of its
verdict. -/
theorem watchHost_told {σ : Type} (host : Host σ) {settings : WatchSettings}
    (pause : 0 < settings.interval) (baseline : NameSet) (size : UInt64) (now : Nat) (s : σ) :
    ∃ report looks, watchHost host settings baseline size now s = some report ∧
      (∀ k, (∃ time, (Watch.start settings baseline size now).LooksAt host now s k time) ↔
        k < looks) ∧
      report.diagnostics = host.lookDiagnostics s baseline looks ++
        report.finding.closing baseline size settings.effectiveLimit := by
  rcases watchHost_cases host pause baseline size now s with
    ⟨last, below, name, first, ends⟩ | ⟨undecided, ends⟩
  · refine ⟨_, last + 1, ends, fun k => ?_, (List.append_nil _).symm⟩
    simp only [Watch.looksAt_iff_of_firstShows pause below first, exists_and_left, exists_eq,
      and_true]
  · refine ⟨_, settings.looks, ends, fun k => ?_, ?_⟩
    · simp only [Watch.looksAt_iff_of_undecided pause undecided, exists_and_left, exists_eq,
        and_true]
    · rw [Watch.verdict_diagnostics]
      rfl

/-- A watch with pauses comes to its end, and a caller that wants a device for certain gets
the one that the watch found.  The watch tells of its looks one after the other, of each at
the levels and in the words that are laid down for it, and then of its verdict: that nothing
appeared exactly if nothing was found, that there are several candidates exactly if these are
the verdict, each of them once, and neither if a device was found.  That caller is told once,
and last of all, that nothing appeared, exactly if it gets no device.  Either warning names
the expected size and the limit, cut to one day, and the names that it is about.  The clock
is an ideal one that counts whole milliseconds. -/
theorem watchHost_journal {σ : Type} (host : Host σ) (settings : WatchSettings)
    (pause : 0 < settings.interval) (baseline : NameSet) (size : UInt64) (now : Nat) (s : σ) :
    let limit := min settings.limit longestWatch
    let nothing := Diagnostic.nothingAppeared size baseline limit
    let several := fun names => Diagnostic.severalCandidates size names limit
    nothing.Reads .warn "no new device appeared in the OS"
      [("expected_size", toString size.toNat), ("baseline", braced baseline.toList),
        ("time_limit", span limit)] ∧
    (∀ names, (several names).Reads .warn "several new devices match the expected size"
      [("expected_size", toString size.toNat), ("candidates", braced names.toList),
        ("time_limit", span limit)]) ∧
    ∃ report awaited looks parts,
      watchHost host settings baseline size now s = some report ∧
      awaitDevice host settings baseline size now s = some (report.finding.found?, awaited) ∧
      (∀ k, (∃ time, (Watch.start settings baseline size now).LooksAt host now s k time) ↔
        k < looks) ∧
      List.Forall₂ (fun k told => (host.sight s k).Tells baseline told)
        (List.range looks) parts ∧
      report.diagnostics = parts.flatten ++ report.finding.closing baseline size limit ∧
      Journal.worded report.diagnostics .warn "no new device appeared in the OS" =
        (if report.finding = .notFound then [nothing] else []) ∧
      Journal.worded report.diagnostics .warn "several new devices match the expected size" =
        (match report.finding with
          | .ambiguous names => [several names]
          | _ => []) ∧
      awaited.diagnostics = report.diagnostics ++
        (match report.finding with
          | .ambiguous _ => [nothing]
          | _ => []) ∧
      Journal.worded awaited.diagnostics .warn "no new device appeared in the OS" =
        (if report.finding.found? = none then [nothing] else []) ∧
      (awaited.diagnostics.getLast? = some nothing ↔ report.finding.found? = none) := by
  intro limit nothing several
  refine ⟨⟨rfl, rfl, rfl⟩, fun names => ⟨rfl, rfl, rfl⟩, ?_⟩
  obtain ⟨report, looks, ends, looked, told⟩ := watchHost_told host pause baseline size now s
  obtain ⟨parts, inParts, tells⟩ := host.tells_lookDiagnostics s baseline looks
  have otherwise : "no new device appeared in the OS" ∉ lookWordings := by decide
  have silent : Journal.worded (host.lookDiagnostics s baseline looks) .warn
      "no new device appeared in the OS" = [] :=
    host.worded_lookDiagnostics s baseline otherwise looks
  have single : Journal.worded (host.lookDiagnostics s baseline looks) .warn
      "several new devices match the expected size" = [] :=
    host.worded_lookDiagnostics s baseline (by decide) looks
  have notLast : (host.lookDiagnostics s baseline looks).getLast? ≠ some nothing :=
    host.getLast?_lookDiagnostics_ne s baseline (d := nothing) otherwise looks
  refine ⟨report, _, looks, parts, ends, congrArg _ ends, looked, tells, ?_, ?_, ?_, ?_, ?_, ?_⟩
  · rw [told, inParts]
    rfl
  · rw [told, Journal.worded_append, silent]
    exact report.finding.worded_closing_nothing baseline size limit
  · rw [told, Journal.worded_append, single]
    exact report.finding.worded_closing_several baseline size limit
  · cases report.finding <;> rfl
  · rw [told, List.append_assoc, Journal.worded_append, silent]
    exact report.finding.worded_loss_nothing settings baseline size
  · rw [told, List.append_assoc]
    exact report.finding.getLast?_loss settings baseline size notLast

/-- A listing that fails, and then two candidates next to a device that vanishes: a caller
that wants one device for certain gets none, and hears of it last. -/
theorem watchHost_journal_of_two_candidates :
    let host : Host Nat := .ofSights fun k =>
      ⟨if k = 0 then .error (.io "/sys/block" "gone")
        else .ok (.ofList ["sda", "xvdi", "xvdj", "xvdk"]),
        fun name => if name = "xvdi" then .error (.deviceNotFound name) else .ok 7⟩
    0 < (WatchSettings.mk 20 10).interval ∧
    ∃ awaited, awaitDevice host ⟨20, 10⟩ (.ofList ["sda"]) 7 0 0 = some (none, awaited) ∧
      Journal.worded awaited.diagnostics .warn "no new device appeared in the OS" =
        [.nothingAppeared 7 (.ofList ["sda"]) 20] ∧
      awaited.diagnostics.getLast? = some (.nothingAppeared 7 (.ofList ["sda"]) 20) := by
  intro host
  have pause : 0 < (WatchSettings.mk 20 10).interval := by decide
  obtain ⟨-, -, report, awaited, looks, parts, -, awaits, -, -, -, -, -, -, once, last⟩ :=
    watchHost_journal host ⟨20, 10⟩ pause (.ofList ["sda"]) 7 0 0
  have without : (awaitDevice host ⟨20, 10⟩ (.ofList ["sda"]) 7 0 0).map (fun r => r.1) =
      some none := by
    decide +kernel
  rw [awaits] at without
  have lost : report.finding.found? = none := Option.some.inj without
  rw [lost] at awaits
  rw [if_pos lost] at once
  exact ⟨pause, awaited, awaits, once, last.mpr lost⟩

end VolumeAttach
