/-
Module: VolumeAttach.Proofs.Schedule
Purpose: When a watch with pauses looks at its host, and when it ends.
Main exports: Watch.LooksAt, Watch.looksAt_iff, watchHost_schedule
-/
import VolumeAttach.Proofs.Looks
import VolumeAttach.Settings.Agent

namespace VolumeAttach

/-!
The times of the looks are read off the turns themselves: a watch that is not yet at its
deadline looks now, and if its turn puts it to sleep, then the looks of the watch that
wakes follow.  Nothing in this relation mentions the interval; that the looks are evenly
spaced is what has to be shown.
-/

namespace Watch

variable {σ : Type}

/-- The look with a number, counted from zero, takes place at a time. -/
inductive LooksAt (host : Host σ) : Watch → Nat → σ → Nat → Nat → Prop where
  | now {w : Watch} {now : Nat} {s : σ} (early : now < w.deadline) : LooksAt host w now s 0 now
  | later {w watch : Watch} {now wake k time : Nat} {s : σ}
      (sleeps : (w.turn host now s).next = .asleep watch wake)
      (looks : LooksAt host watch wake (w.turn host now s).host k time) :
      LooksAt host w now s (k + 1) time

/-- A turn puts a watch to sleep if it looks and sees no single device. -/
theorem turn_eq_asleep_iff {host : Host σ} {w watch : Watch} {now wake : Nat} {s : σ} :
    (w.turn host now s).next = .asleep watch wake ↔
      now < w.deadline ∧ (∀ name, ¬ (host.look s).1.ShowsOnly w.baseline w.size name) ∧
        watch = w.remember ((host.look s).1.shown? w.baseline w.size).toList ∧
        wake = now + min w.interval (w.deadline - now) := by
  by_cases early : now < w.deadline
  · rw [turn_of_lt host early]
    simp only [afterScan_eq, early, true_and, ← Sight.only?_shown_eq_some_iff]
    cases ((host.look s).1.shown? w.baseline w.size).bind NameSet.only? with
    | some name => simp
    | none => simp [eq_comm]
  · have late : w.deadline ≤ now := Nat.le_of_not_lt early
    simp [turn, late, Nat.not_lt.mpr late]

/-- A watch with pauses looks once every interval, until its deadline or until a look has
decided. -/
theorem looksAt_iff {host : Host σ} {w : Watch} {now k time : Nat} {s : σ}
    (pause : 0 < w.interval) :
    w.LooksAt host now s k time ↔ time = now + k * w.interval ∧
      k * w.interval < w.deadline - now ∧ host.Undecided s w.baseline w.size k := by
  induction k generalizing w now s with
  | zero =>
      constructor
      · intro h
        cases h with
        | now early => exact ⟨by omega, by omega, fun k below => absurd below (Nat.not_lt_zero k)⟩
      · intro h
        obtain ⟨rfl, early, -⟩ := h
        rw [Nat.zero_mul, Nat.add_zero]
        exact .now (by omega)
  | succ k ih =>
      rw [Host.Undecided.succ_iff, Nat.succ_mul]
      constructor
      · intro h
        cases h with
        | later sleeps looks =>
            have host_eq : (w.turn host now s).host = (host.look s).2 := by
              rw [turn_of_lt host (turn_eq_asleep_iff.mp sleeps).1]
            obtain ⟨early, undecided, rfl, rfl⟩ := turn_eq_asleep_iff.mp sleeps
            rw [host_eq] at looks
            obtain ⟨rfl, inTime, others⟩ := (ih (w := w.remember _) pause).mp looks
            simp only [remember_interval, remember_deadline] at inTime ⊢
            exact ⟨by omega, by omega, undecided, others⟩
      · intro h
        obtain ⟨rfl, inTime, undecided, others⟩ := h
        have early : now < w.deadline := by omega
        apply LooksAt.later (turn_eq_asleep_iff.mpr ⟨early, undecided, rfl, rfl⟩)
        rw [turn_of_lt host early]
        apply (ih (w := w.remember _) pause).mpr
        simp only [remember_interval, remember_deadline]
        exact ⟨by omega, by omega, others⟩

/-! ### A watch from its start -/

variable {host : Host σ} {settings : WatchSettings} {baseline : NameSet} {size : UInt64}
  {now k time : Nat} {s : σ}

theorem looksAt_start_iff (pause : 0 < settings.interval) :
    (start settings baseline size now).LooksAt host now s k time ↔
      time = now + k * settings.interval ∧ k < settings.looks ∧
        host.Undecided s baseline size k := by
  have left : (start settings baseline size now).deadline - now = settings.effectiveLimit :=
    Nat.add_sub_cancel_left ..
  rw [WatchSettings.lt_looks_iff pause, ← left]
  exact looksAt_iff pause

/-- The first look that decides is the last look. -/
theorem looksAt_iff_of_firstShows {last : Nat} {name : String} (pause : 0 < settings.interval)
    (inTime : last < settings.looks) (first : host.FirstShows s baseline size last name) :
    (start settings baseline size now).LooksAt host now s k time ↔
      k < last + 1 ∧ time = now + k * settings.interval := by
  rw [looksAt_start_iff pause]
  constructor
  · intro h
    obtain ⟨rfl, -, undecided⟩ := h
    exact ⟨Nat.lt_succ_of_le (undecided.le_of_showsOnly first.1), rfl⟩
  · intro h
    obtain ⟨before, rfl⟩ := h
    have le : k ≤ last := Nat.le_of_lt_succ before
    exact ⟨rfl, Nat.lt_of_le_of_lt le inTime, Host.Undecided.mono first.2 le⟩

theorem looksAt_iff_of_undecided (pause : 0 < settings.interval)
    (undecided : host.Undecided s baseline size settings.looks) :
    (start settings baseline size now).LooksAt host now s k time ↔
      k < settings.looks ∧ time = now + k * settings.interval := by
  rw [looksAt_start_iff pause]
  constructor
  · intro h
    exact ⟨h.2.1, h.1⟩
  · intro h
    exact ⟨h.2, h.1, undecided.mono (Nat.le_of_lt h.1)⟩

end Watch

/-- A watch with pauses comes to its end.  It looks at the start and then once every
interval, never at the deadline or after it, and the deadline is at most one day away
whatever the limit.  The look that shows a single new device of the expected size is the
last one, and the watch ends with it; without such a look the watch ends at the deadline,
after as many looks as the limit has intervals, a begun one counted in full.  Without any
time it ends without a look.  The clock is an ideal one that counts whole milliseconds: a
sleep ends when it is to end, and nothing else takes time. -/
theorem watchHost_schedule {σ : Type} (host : Host σ) (settings : WatchSettings)
    (pause : 0 < settings.interval) (baseline : NameSet) (size : UInt64) (now : Nat) (s : σ) :
    let looksAt := (Watch.start settings baseline size now).LooksAt host now s
    ∃ report looks, watchHost host settings baseline size now s = some report ∧
      (∀ k time, looksAt k time ↔ k < looks ∧ time = now + k * settings.interval) ∧
      (∀ k time, looksAt k time → time < now + settings.effectiveLimit) ∧
      now + settings.effectiveLimit ≤ now + longestWatch ∧
      report.host = host.after s looks ∧
      (∀ k time name, looksAt k time → (host.sight s k).ShowsOnly baseline size name →
        looks = k + 1 ∧ report.clock = time) ∧
      ((∀ k time name, looksAt k time → ¬ (host.sight s k).ShowsOnly baseline size name) →
        looks = (settings.effectiveLimit + settings.interval - 1) / settings.interval ∧
        report.clock = now + settings.effectiveLimit) ∧
      (settings.effectiveLimit = 0 → report.finding = .notFound ∧ report.host = s) ∧
      (∀ agent : AgentSettings, settings = agent.watchSettings →
        settings.interval = agent.pollInterval.toNat ∧
        settings.effectiveLimit = min (agent.deviceTimeout.toNat * 1000) longestWatch) := by
  intro looksAt
  have inTime : ∀ k time, looksAt k time → time < now + settings.effectiveLimit := by
    intro k time h
    obtain ⟨rfl, below, -⟩ := (Watch.looksAt_start_iff pause).mp h
    exact Nat.add_lt_add_left ((WatchSettings.lt_looks_iff pause).mp below) now
  have aDay : now + settings.effectiveLimit ≤ now + longestWatch :=
    Nat.add_le_add_left (Nat.min_le_right ..) now
  have agents : ∀ agent : AgentSettings, settings = agent.watchSettings →
      settings.interval = agent.pollInterval.toNat ∧
      settings.effectiveLimit = min (agent.deviceTimeout.toNat * 1000) longestWatch := by
    intro agent same
    subst same
    exact ⟨rfl, rfl⟩
  rcases watchHost_cases host pause baseline size now s with
    ⟨last, below, name, first, ends⟩ | ⟨undecided, ends⟩
  · have times : ∀ k time, looksAt k time ↔
        k < last + 1 ∧ time = now + k * settings.interval := by
      intro k time
      exact Watch.looksAt_iff_of_firstShows pause below first
    refine ⟨_, last + 1, ends, times, inTime, aDay, rfl, ?_, ?_, ?_, agents⟩
    · intro k time other h only
      obtain ⟨rfl, -, before⟩ := (Watch.looksAt_start_iff pause).mp h
      obtain rfl : k = last := first.eq_of_showsOnly before only
      exact ⟨rfl, rfl⟩
    · intro never
      have look := (times last _).mpr ⟨Nat.lt_succ_self last, rfl⟩
      exact absurd first.1 (never last _ name look)
    · intro noTime
      rw [WatchSettings.looks_eq_zero pause noTime] at below
      exact absurd below (Nat.not_lt_zero last)
  · have times : ∀ k time, looksAt k time ↔
        k < settings.looks ∧ time = now + k * settings.interval := by
      intro k time
      exact Watch.looksAt_iff_of_undecided pause undecided
    refine ⟨_, settings.looks, ends, times, inTime, aDay, rfl, ?_, fun _ => ⟨rfl, rfl⟩, ?_,
      agents⟩
    · intro k time other h only
      exact absurd only (undecided k ((times k time).mp h).1 other)
    · intro noTime
      rw [WatchSettings.looks_eq_zero pause noTime]
      exact ⟨rfl, rfl⟩

/-- A timeout as long as a word can hold still ends after one day, here with four looks
that are seven hours apart. -/
theorem watchHost_schedule_of_longest_timeout :
    let agent : AgentSettings :=
      { pollInterval := 25200000, deviceTimeout := 18446744073709551615 }
    let host : Host Nat := .ofSights fun _ =>
      ⟨.error (.io "/sys/block" "gone"), fun _ => .ok 7⟩
    0 < agent.watchSettings.interval ∧
    ∃ report, watchHost host agent.watchSettings .empty 7 0 0 = some report ∧
      report.clock = 86400000 ∧ report.host = 4 := by
  intro agent host
  have pause : 0 < agent.watchSettings.interval := by decide
  obtain ⟨report, looks, ends, -, -, -, reached, -, otherwise, -⟩ :=
    watchHost_schedule host agent.watchSettings pause .empty 7 0 0
  have never : ∀ (k time : Nat) name,
      (Watch.start agent.watchSettings .empty 7 0).LooksAt host 0 0 k time →
      ¬ (host.sight 0 k).ShowsOnly .empty 7 name := by
    intro k time name _ only
    obtain ⟨listed, hlisted, -⟩ := (only name).mpr rfl
    rw [Host.sight_ofSights] at hlisted
    cases hlisted
  obtain ⟨count, clock⟩ := otherwise never
  refine ⟨pause, report, ends, clock.trans (by decide), ?_⟩
  rw [reached, count]
  decide

end VolumeAttach
