/-
Module: VolumeAttach.Watch
Purpose: Waiting for one new device of a given size to show itself on a host.
Main exports: WatchSettings, Finding, Reading, Scan, Sight.scan, Watch,
  Watch.turn, Watch.run, awaitDevice
-/
import VolumeAttach.Diagnostic

namespace VolumeAttach

/-!
A watch looks at the host, sleeps, and looks again, until exactly one name that
was not in the baseline has the expected size or until its time is up.  Times
are whole milliseconds.  Nothing but sleeping takes time, so a watch is a chain
of turns: at a turn it either ends or gives the time at which it wants to be
woken.

No look happens at or after the deadline.  The last sleep is cut so that it
ends at the deadline, where the watch gives its verdict without looking.
-/

/-- The longest time that a watch lasts: one day. -/
def longestWatch : Nat := 24 * 60 * 60 * 1000

/-- How long to watch and how long to sleep between looks, in whole milliseconds. -/
structure WatchSettings where
  limit : Nat := 60 * 1000
  interval : Nat := 100
deriving Repr, DecidableEq, Inhabited

/-- The time that a watch lasts. -/
def WatchSettings.effectiveLimit (s : WatchSettings) : Nat := min s.limit longestWatch

/-- The verdict of a watch. -/
inductive Finding where
  /-- One new device of the expected size. -/
  | found (name : String)
  /-- Several of them were still there when the time was up. -/
  | ambiguous (names : NameSet)
  /-- None. -/
  | notFound
deriving Repr, DecidableEq

/-- The device of a verdict that names exactly one. -/
def Finding.found? : Finding → Option String
  | .found name => some name
  | .ambiguous _ => none
  | .notFound => none

/-- The size of one name as it was read. -/
structure Reading where
  name : String
  size : Except InventoryError UInt64

/-- What one look of a watch gave. -/
inductive Scan where
  /-- The listing could not be read. -/
  | unavailable (cause : InventoryError)
  /-- The size of every name outside the baseline, in the order of the names. -/
  | readings (list : List Reading)

/-- Read the listing, and the sizes of exactly the listed names that the
baseline lacks. -/
def Sight.scan (sight : Sight) (baseline : NameSet) : Scan :=
  match sight.listing with
  | .error cause => .unavailable cause
  | .ok listed =>
      .readings ((listed.diff baseline).toList.map fun name => ⟨name, sight.size name⟩)

/-- Whether a reading gives the expected size. -/
def Reading.fits (size : UInt64) (r : Reading) : Bool :=
  match r.size with
  | .ok found => found == size
  | .error _ => false

/-- What is told of a reading: nothing unless it failed. -/
def Reading.diagnostics (r : Reading) : List Diagnostic :=
  match r.size with
  | .ok _ => []
  | .error (.deviceNotFound _) => [.deviceVanished r.name]
  | .error cause => [.sizeUnreadable r.name cause]

/-- What is told of a scan. -/
def Scan.diagnostics : Scan → List Diagnostic
  | .unavailable cause => [.listingFailed cause]
  | .readings list => list.flatMap Reading.diagnostics

/-- The names of the expected size among readings. -/
def fitting (size : UInt64) (list : List Reading) : NameSet :=
  NameSet.ofList ((list.filter (Reading.fits size)).map Reading.name)

/-- A watch that is under way. -/
structure Watch where
  baseline : NameSet
  size : UInt64
  /-- The time that it lasts in all. -/
  limit : Nat
  interval : Nat
  deadline : Nat
  /-- The names that fitted when the listing was last read, if there were two or
  more of them. -/
  candidates : Option NameSet
deriving DecidableEq

/-- How a turn of a watch ends. -/
inductive Watch.Next where
  | asleep (watch : Watch) (wake : Nat)
  | ended (finding : Finding)

/-- A turn of a watch. -/
structure Watch.Turn (σ : Type) where
  host : σ
  diagnostics : List Diagnostic
  next : Watch.Next

namespace Watch

/-- A watch that begins now. -/
def start (settings : WatchSettings) (baseline : NameSet) (size : UInt64) (now : Nat) : Watch where
  baseline := baseline
  size := size
  limit := settings.effectiveLimit
  interval := settings.interval
  deadline := now + settings.effectiveLimit
  candidates := none

/-- The verdict when the time is up. -/
def verdict (w : Watch) : Reported Finding :=
  match w.candidates with
  | some names => ⟨.ambiguous names, [.severalCandidates w.size names w.limit]⟩
  | none => ⟨.notFound, [.nothingAppeared w.size w.baseline w.limit]⟩

/-- What a scan means for the watch: a listing that cannot be read leaves the
candidates of the scan before it, and any other scan replaces them. -/
def afterScan (w : Watch) (now : Nat) (scan : Scan) : Next :=
  let sleep (candidates : Option NameSet) : Next :=
    .asleep { w with candidates := candidates } (now + min w.interval (w.deadline - now))
  match scan with
  | .unavailable _ => sleep w.candidates
  | .readings list =>
      let names := fitting w.size list
      match names.toList with
      | [] => sleep none
      | [name] => .ended (.found name)
      | _ => sleep (some names)

/-- One turn: the verdict if the time is up, and otherwise one scan. -/
def turn {σ : Type} (host : Host σ) (w : Watch) (now : Nat) (s : σ) : Turn σ :=
  if w.deadline ≤ now then
    ⟨s, w.verdict.diagnostics, .ended w.verdict.value⟩
  else
    let (sight, next) := host.look s
    let scan := sight.scan w.baseline
    ⟨next, scan.diagnostics, w.afterScan now scan⟩

/-- How many turns a watch can take.  With a pause between scans these are the
scans before the deadline and the verdict.  Without one the clock stands still,
and only a host that still changes can bring the watch to its end. -/
def turnBound (settings : WatchSettings) (horizon : Nat) : Nat :=
  if settings.interval = 0 then horizon + 2
  else (settings.effectiveLimit + settings.interval - 1) / settings.interval + 1

/-- The end of a watch. -/
structure Report (σ : Type) where
  finding : Finding
  diagnostics : List Diagnostic
  clock : Nat
  host : σ

/-- Carry a watch through its turns, at most as many as the first argument says.
What was told before comes latest first.  The clock is an ideal one: a turn takes no
time, and a sleep ends at the very millisecond at which it is to end. -/
def run {σ : Type} (host : Host σ) :
    Nat → Watch → Nat → List Diagnostic → σ → Option (Report σ)
  | 0, _, _, _, _ => none
  | turns + 1, w, now, told, s =>
      let t := w.turn host now s
      let told := t.diagnostics.reverseAux told
      match t.next with
      | .ended finding => some ⟨finding, told.reverse, now, t.host⟩
      | .asleep watch wake => run host turns watch wake told t.host

end Watch

/-- Watch a host from the instant `now` on.  There is no report exactly when the
watch would go on for ever, which takes a watch without pauses. -/
def watchHost {σ : Type} (host : Host σ) (settings : WatchSettings) (baseline : NameSet)
    (size : UInt64) (now : Nat) (s : σ) : Option (Watch.Report σ) :=
  Watch.run host (Watch.turnBound settings (host.horizon s))
    (Watch.start settings baseline size now) now [] s

/-- What is told in addition by a caller for whom an ambiguous verdict counts as
nothing found. -/
def Finding.lossDiagnostics (settings : WatchSettings) (baseline : NameSet) (size : UInt64) :
    Finding → List Diagnostic
  | .ambiguous _ => [.nothingAppeared size baseline settings.effectiveLimit]
  | _ => []

/-- Watch a host for a device that is found for certain. -/
def awaitDevice {σ : Type} (host : Host σ) (settings : WatchSettings) (baseline : NameSet)
    (size : UInt64) (now : Nat) (s : σ) : Option (Option String × Watch.Report σ) :=
  (watchHost host settings baseline size now s).map fun report =>
    (report.finding.found?,
      { report with
        diagnostics := report.diagnostics ++
          report.finding.lossDiagnostics settings baseline size })

end VolumeAttach
