/-
Module: VolumeAttach.Proofs.Looks
Purpose: A watch with pauses, look by look: what it remembers of the looks so far, and
  how it ends.
Main exports: Sight.shown?, Host.shown, Host.lookDiagnostics, Watch.remember,
  Watch.afterScan_eq, Watch.run_add, WatchSettings.looks, watchHost_cases
-/
import VolumeAttach.Proofs.Watching

namespace VolumeAttach

/-!
The one thing that a watch carries from look to look is a set of candidates, which some
looks replace, some clear and failed ones keep.  What it holds after any number of looks
follows from what those looks showed, whose listing could be read: the last of them
counts and the others are forgotten.  So the state of a watch after `n` looks is written
down once, and a run of `turns + n` turns is a run of `turns` from that state.
-/

namespace NameSet

/-- Sets with the same members are equal. -/
theorem ext {s t : NameSet} (same : ∀ name, name ∈ s ↔ name ∈ t) : s = t := by
  obtain ⟨left, ascending⟩ := s
  obtain ⟨right, ascending'⟩ := t
  have nodup : ∀ {l : List String}, l.Pairwise (· < ·) → l.Nodup := by
    intro l h
    exact h.imp fun below => fun equal => String.lt_irrefl _ (equal ▸ below)
  have perm : left.Perm right :=
    (List.perm_ext_iff_of_nodup (nodup ascending) (nodup ascending')).mpr same
  have equal : left = right := by
    apply perm.eq_of_pairwise _ ascending ascending'
    intro a b _ _ below above
    exact absurd (String.lt_trans below above) (String.lt_irrefl a)
  subst equal
  rfl

/-- The member of a set with a single one. -/
def only? (s : NameSet) : Option String :=
  match s.toList with
  | [name] => some name
  | _ => none

/-- A set with two members or more. -/
def several? (s : NameSet) : Option NameSet :=
  if 2 ≤ s.toList.length then some s else none

theorem only?_eq_some_iff {s : NameSet} {name : String} :
    s.only? = some name ↔ ∀ other, other ∈ s ↔ other = name := by
  rw [← toList_eq_singleton_iff]
  unfold only?
  split
  · rename_i single
    simp [single]
  · rename_i other
    constructor
    · nofun
    · intro single
      exact absurd single (other name)

end NameSet

/-! ### What a look shows -/

/-- The new devices of the expected size, if the listing can be read. -/
def Sight.shown? (sight : Sight) (baseline : NameSet) (size : UInt64) : Option NameSet :=
  match sight.listing with
  | .error _ => none
  | .ok listed =>
      some ((listed.diff baseline).filter fun name => Reading.fits size ⟨name, sight.size name⟩)

theorem Sight.mem_shown {sight : Sight} {baseline shown : NameSet} {size : UInt64}
    (h : sight.shown? baseline size = some shown) (name : String) :
    name ∈ shown ↔ sight.IsCandidate baseline size name := by
  unfold shown? at h
  cases hlisting : sight.listing with
  | error cause =>
      rw [hlisting] at h
      cases h
  | ok listed =>
      rw [hlisting] at h
      cases h
      rw [NameSet.mem_filter, NameSet.mem_diff]
      simp [IsCandidate, hlisting, Reading.fits_iff, and_assoc]

/-- A look shows nothing but one device exactly if what it shows is that device. -/
theorem Sight.only?_shown_eq_some_iff {sight : Sight} {baseline : NameSet} {size : UInt64}
    {name : String} :
    (sight.shown? baseline size).bind NameSet.only? = some name ↔
      sight.ShowsOnly baseline size name := by
  cases hshown : sight.shown? baseline size with
  | some shown =>
      rw [Option.bind_some, NameSet.only?_eq_some_iff]
      simp only [mem_shown hshown, ShowsOnly]
  | none =>
      simp only [Option.bind_none, reduceCtorEq, false_iff]
      intro only
      obtain ⟨listed, hlisted, -⟩ := (only name).mpr rfl
      simp [shown?, hlisted] at hshown

namespace Host

variable {σ : Type} (host : Host σ) (s : σ) (baseline : NameSet) (size : UInt64)

/-- What the first looks show, leaving out those whose listing cannot be read. -/
def shown (n : Nat) : List NameSet :=
  (List.range n).filterMap fun k => (host.sight s k).shown? baseline size

/-- What is told of the first looks. -/
def lookDiagnostics (n : Nat) : List Diagnostic :=
  (List.range n).flatMap fun k => ((host.sight s k).scan baseline).diagnostics

/-- None of the first looks shows exactly one new device of the expected size. -/
def Undecided (n : Nat) : Prop :=
  ∀ k < n, ∀ name, ¬ (host.sight s k).ShowsOnly baseline size name

theorem after_succ (k : Nat) : host.after s (k + 1) = (host.look (host.after s k)).2 := by
  induction k generalizing s with
  | zero => rfl
  | succ k ih => exact ih (host.look s).2

theorem shown_succ (n : Nat) : host.shown s baseline size (n + 1) =
    host.shown s baseline size n ++ ((host.sight s n).shown? baseline size).toList := by
  simp [shown, List.range_succ, List.filterMap_append, List.filterMap_cons]
  cases (host.sight s n).shown? baseline size <;> rfl

theorem lookDiagnostics_succ (n : Nat) : host.lookDiagnostics s baseline (n + 1) =
    host.lookDiagnostics s baseline n ++ ((host.sight s n).scan baseline).diagnostics := by
  simp [lookDiagnostics, List.range_succ]

variable {host s baseline size}

theorem Undecided.mono {m n : Nat} (h : host.Undecided s baseline size n) (le : m ≤ n) :
    host.Undecided s baseline size m :=
  fun k below => h k (Nat.lt_of_lt_of_le below le)

theorem Undecided.succ_iff {n : Nat} : host.Undecided s baseline size (n + 1) ↔
    (∀ name, ¬ (host.look s).1.ShowsOnly baseline size name) ∧
      host.Undecided (host.look s).2 baseline size n := by
  constructor
  · intro h
    exact ⟨h 0 (Nat.succ_pos n), fun k below => h (k + 1) (Nat.succ_lt_succ below)⟩
  · intro h k below
    cases k with
    | zero => exact h.1
    | succ k => exact h.2 k (Nat.lt_of_succ_lt_succ below)

/-- A look that is the only one to decide so far excludes all that would need more. -/
theorem Undecided.le_of_showsOnly {k n : Nat} {name : String}
    (h : host.Undecided s baseline size n)
    (only : (host.sight s k).ShowsOnly baseline size name) : n ≤ k := by
  apply Nat.le_of_not_lt
  intro below
  exact h k below name only

/-- Only one look is the first to decide. -/
theorem FirstShows.eq_of_showsOnly {j k : Nat} {name other : String}
    (first : host.FirstShows s baseline size k name) (before : host.Undecided s baseline size j)
    (only : (host.sight s j).ShowsOnly baseline size other) : j = k := by
  apply Nat.le_antisymm
  · exact before.le_of_showsOnly first.1
  · exact Undecided.le_of_showsOnly first.2 only

/-- As long as no look decides, none of the sets shown has a single member. -/
theorem Undecided.findSome?_shown {n : Nat} (h : host.Undecided s baseline size n) :
    (host.shown s baseline size n).findSome? NameSet.only? = none := by
  rw [List.findSome?_eq_none_iff]
  intro names inside
  obtain ⟨k, below, hshown⟩ := List.mem_filterMap.mp inside
  rw [Option.eq_none_iff_forall_ne_some]
  intro name only
  apply h k (List.mem_range.mp below) name
  rw [← Sight.only?_shown_eq_some_iff, hshown]
  exact only

/-- Among the looks up to a bound one is the first to decide, or none decides. -/
theorem firstShows_or_undecided (host : Host σ) (s : σ) (baseline : NameSet) (size : UInt64)
    (n : Nat) :
    (∃ k < n, ∃ name, host.FirstShows s baseline size k name) ∨
      host.Undecided s baseline size n := by
  induction n with
  | zero => exact .inr fun k below => absurd below (Nat.not_lt_zero k)
  | succ n ih =>
      rcases ih with ⟨k, below, name, first⟩ | undecided
      · exact .inl ⟨k, Nat.lt_succ_of_lt below, name, first⟩
      by_cases shows : ∃ name, (host.sight s n).ShowsOnly baseline size name
      · obtain ⟨name, shows⟩ := shows
        exact .inl ⟨n, Nat.lt_succ_self n, name, shows, undecided⟩
      · right
        intro k below name only
        rcases Nat.lt_succ_iff_lt_or_eq.mp below with earlier | rfl
        · exact undecided k earlier name only
        · exact shows ⟨name, only⟩

end Host

/-! ### Look by look -/

namespace Watch

/-- The watch after looks of which some could be read and showed these sets. -/
def remember (w : Watch) (shown : List NameSet) : Watch :=
  { w with candidates := (shown.getLast?.map NameSet.several?).getD w.candidates }

@[simp] theorem remember_baseline (w : Watch) (shown : List NameSet) :
    (w.remember shown).baseline = w.baseline := rfl

@[simp] theorem remember_size (w : Watch) (shown : List NameSet) :
    (w.remember shown).size = w.size := rfl

@[simp] theorem remember_interval (w : Watch) (shown : List NameSet) :
    (w.remember shown).interval = w.interval := rfl

@[simp] theorem remember_deadline (w : Watch) (shown : List NameSet) :
    (w.remember shown).deadline = w.deadline := rfl

theorem remember_remember (w : Watch) (first second : List NameSet) :
    (w.remember first).remember second = w.remember (first ++ second) := by
  simp only [remember, List.getLast?_append]
  cases second.getLast? <;> rfl

/-- The names that fit are the devices that a look shows. -/
theorem fitting_eq (sight : Sight) (baseline listed : NameSet) (size : UInt64)
    (h : sight.listing = .ok listed) :
    sight.shown? baseline size =
      some (fitting size
        ((listed.diff baseline).toList.map fun name => ⟨name, sight.size name⟩)) := by
  cases hshown : sight.shown? baseline size with
  | none => simp [Sight.shown?, h] at hshown
  | some shown =>
      have same : shown = fitting size
          ((listed.diff baseline).toList.map fun name => ⟨name, sight.size name⟩) := by
        apply NameSet.ext
        intro name
        rw [Sight.mem_shown hshown, mem_fitting_iff h]
      rw [same]

/-- A scan ends the watch with the one device that it shows.  Otherwise the watch sleeps,
at most until the deadline, and remembers what it was shown. -/
theorem afterScan_eq (w : Watch) (now : Nat) (sight : Sight) :
    w.afterScan now (sight.scan w.baseline) =
      match (sight.shown? w.baseline w.size).bind NameSet.only? with
      | some name => .ended (.found name)
      | none => .asleep (w.remember (sight.shown? w.baseline w.size).toList)
          (now + min w.interval (w.deadline - now)) := by
  unfold Sight.scan
  cases h : sight.listing with
  | error cause =>
      have unread : sight.shown? w.baseline w.size = none := by simp [Sight.shown?, h]
      rw [unread]
      rfl
  | ok listed =>
      rw [fitting_eq sight w.baseline listed w.size h]
      simp only [afterScan, Option.bind_some]
      generalize fitting w.size _ = names
      unfold NameSet.only?
      cases hnames : names.toList with
      | nil => simp [remember, NameSet.several?, hnames]
      | cons head rest =>
          cases rest with
          | nil => rfl
          | cons next others => simp [remember, NameSet.several?, hnames]

variable {σ : Type} (host : Host σ)

/-- Before the deadline a turn is a look. -/
theorem turn_of_lt {w : Watch} {now : Nat} (early : now < w.deadline) (s : σ) :
    w.turn host now s = ⟨(host.look s).2, ((host.look s).1.scan w.baseline).diagnostics,
      w.afterScan now ((host.look s).1.scan w.baseline)⟩ := by
  unfold turn
  rw [if_neg (Nat.not_le.mpr early)]

/-- A look that shows one device ends the watch. -/
theorem run_of_showsOnly {w : Watch} {now : Nat} {s : σ} {name : String}
    (early : now < w.deadline) (only : (host.look s).1.ShowsOnly w.baseline w.size name)
    (turns : Nat) (told : List Diagnostic) :
    run host (turns + 1) w now told s =
      some ⟨.found name, told.reverse ++ ((host.look s).1.scan w.baseline).diagnostics, now,
        (host.look s).2⟩ := by
  rw [run, turn_of_lt host early]
  simp only [afterScan_eq, Sight.only?_shown_eq_some_iff.mpr only]
  simp

/-- Any other look is followed by a sleep. -/
theorem run_of_undecided {w : Watch} {now : Nat} {s : σ} (early : now < w.deadline)
    (undecided : ∀ name, ¬ (host.look s).1.ShowsOnly w.baseline w.size name)
    (turns : Nat) (told : List Diagnostic) :
    run host (turns + 1) w now told s =
      run host turns (w.remember ((host.look s).1.shown? w.baseline w.size).toList)
        (now + min w.interval (w.deadline - now))
        (((host.look s).1.scan w.baseline).diagnostics.reverse ++ told) (host.look s).2 := by
  have none : ((host.look s).1.shown? w.baseline w.size).bind NameSet.only? = none := by
    rw [Option.eq_none_iff_forall_ne_some]
    intro name only
    exact undecided name (Sight.only?_shown_eq_some_iff.mp only)
  rw [run, turn_of_lt host early]
  simp only [afterScan_eq, none, List.reverseAux_eq]

/-- The turns of a watch up to a look that is reached without a decision. -/
theorem run_add (w : Watch) (now turns n : Nat) (told : List Diagnostic) (s : σ)
    (early : ∀ k < n, k * w.interval < w.deadline - now)
    (undecided : host.Undecided s w.baseline w.size n) :
    run host (turns + n) w now told s =
      run host turns (w.remember (host.shown s w.baseline w.size n))
        (now + min (n * w.interval) (w.deadline - now))
        ((host.lookDiagnostics s w.baseline n).reverse ++ told) (host.after s n) := by
  induction n generalizing turns with
  | zero => simp [Host.shown, Host.lookDiagnostics, remember, Host.after]
  | succ n ih =>
      have before := ih (turns + 1) (fun k below => early k (Nat.lt_succ_of_lt below))
        (undecided.mono (Nat.le_succ n))
      have time := early n (Nat.lt_succ_self n)
      have wake : now + n * w.interval + min w.interval (w.deadline - (now + n * w.interval)) =
          now + min ((n + 1) * w.interval) (w.deadline - now) := by
        rw [Nat.succ_mul]
        omega
      have inTime : now + n * w.interval <
          (w.remember (host.shown s w.baseline w.size n)).deadline := by
        rw [remember_deadline]
        omega
      -- The look with the number `n` leads from the state after `n` looks to the next one.
      have look := run_of_undecided host (s := host.after s n) inTime
        (undecided n (Nat.lt_succ_self n)) turns
        ((host.lookDiagnostics s w.baseline n).reverse ++ told)
      rw [Nat.add_right_comm] at before
      rw [← Nat.add_assoc, before, Nat.min_eq_left (Nat.le_of_lt time), look, remember_remember,
        host.shown_succ, host.lookDiagnostics_succ, host.after_succ, List.reverse_append,
        List.append_assoc]
      simp only [remember_baseline, remember_size, remember_interval, remember_deadline, wake]
      rfl

/-- The first look that decides ends the watch, if it begins before the deadline. -/
theorem run_of_firstShows {w : Watch} {now k : Nat} {s : σ} {name : String}
    (time : k * w.interval < w.deadline - now)
    (first : host.FirstShows s w.baseline w.size k name) (turns : Nat) :
    run host (turns + 1 + k) w now [] s =
      some ⟨.found name, host.lookDiagnostics s w.baseline (k + 1), now + k * w.interval,
        host.after s (k + 1)⟩ := by
  have early : ∀ j < k, j * w.interval < w.deadline - now := by
    intro j earlier
    exact Nat.lt_of_le_of_lt (Nat.mul_le_mul_right _ (Nat.le_of_lt earlier)) time
  have inTime : now + k * w.interval <
      (w.remember (host.shown s w.baseline w.size k)).deadline := by
    rw [remember_deadline]
    omega
  have decides := run_of_showsOnly host (s := host.after s k) inTime first.1 turns
  rw [run_add host w now (turns + 1) k [] s early first.2, Nat.min_eq_left (Nat.le_of_lt time),
    decides, host.lookDiagnostics_succ, host.after_succ]
  simp [Host.sight]

/-- Without one the watch lasts until the deadline, where what it remembers decides. -/
theorem run_of_all_undecided {w : Watch} {now n : Nat} {s : σ} (inTime : now ≤ w.deadline)
    (early : ∀ k < n, k * w.interval < w.deadline - now)
    (late : w.deadline - now ≤ n * w.interval)
    (undecided : host.Undecided s w.baseline w.size n) (turns : Nat) :
    run host (turns + 1 + n) w now [] s =
      some ⟨(w.remember (host.shown s w.baseline w.size n)).verdict.value,
        host.lookDiagnostics s w.baseline n ++
          (w.remember (host.shown s w.baseline w.size n)).verdict.diagnostics,
        w.deadline, host.after s n⟩ := by
  have ends := run_of_late host (w := w.remember (host.shown s w.baseline w.size n))
    (Nat.le_refl w.deadline) turns ((host.lookDiagnostics s w.baseline n).reverse ++ [])
    (host.after s n)
  rw [run_add host w now (turns + 1) n [] s early undecided, Nat.min_eq_right late,
    Nat.add_sub_cancel' inTime, ends]
  simp

end Watch

/-! ### The whole watch -/

namespace WatchSettings

/-- How many looks begin before the deadline: the limit divided by the interval, rounded
up. -/
def looks (settings : WatchSettings) : Nat :=
  (settings.effectiveLimit + settings.interval - 1) / settings.interval

theorem lt_looks_iff {settings : WatchSettings} (pause : 0 < settings.interval) {k : Nat} :
    k < settings.looks ↔ k * settings.interval < settings.effectiveLimit := by
  rw [looks, Nat.lt_iff_add_one_le, Nat.le_div_iff_mul_le pause, Nat.succ_mul]
  omega

theorem effectiveLimit_le_looks_mul {settings : WatchSettings} (pause : 0 < settings.interval) :
    settings.effectiveLimit ≤ settings.looks * settings.interval := by
  apply Nat.le_of_not_lt
  rw [← lt_looks_iff pause]
  exact Nat.lt_irrefl _

theorem looks_eq_zero {settings : WatchSettings} (pause : 0 < settings.interval)
    (noTime : settings.effectiveLimit = 0) : settings.looks = 0 := by
  apply Nat.eq_zero_of_not_pos
  rw [lt_looks_iff pause, noTime]
  exact Nat.not_lt_zero _

end WatchSettings

/-- A watch with pauses ends at the first look that decides, if there is one before the
deadline, and otherwise at the deadline with the verdict on what it remembers. -/
theorem watchHost_cases {σ : Type} (host : Host σ) {settings : WatchSettings}
    (pause : 0 < settings.interval) (baseline : NameSet) (size : UInt64) (now : Nat) (s : σ) :
    (∃ k < settings.looks, ∃ name, host.FirstShows s baseline size k name ∧
      watchHost host settings baseline size now s =
        some ⟨.found name, host.lookDiagnostics s baseline (k + 1),
          now + k * settings.interval, host.after s (k + 1)⟩) ∨
    (host.Undecided s baseline size settings.looks ∧
      watchHost host settings baseline size now s =
        some ⟨(((Watch.start settings baseline size now).remember
            (host.shown s baseline size settings.looks)).verdict).value,
          host.lookDiagnostics s baseline settings.looks ++
            (((Watch.start settings baseline size now).remember
              (host.shown s baseline size settings.looks)).verdict).diagnostics,
          now + settings.effectiveLimit, host.after s settings.looks⟩) := by
  have left : (Watch.start settings baseline size now).deadline - now = settings.effectiveLimit :=
    Nat.add_sub_cancel_left ..
  have bound : Watch.turnBound settings (host.horizon s) = settings.looks + 1 := by
    rw [Watch.turnBound, if_neg (Nat.ne_of_gt pause)]
    rfl
  have early : ∀ k < settings.looks, k * settings.interval <
      (Watch.start settings baseline size now).deadline - now := by
    intro k below
    rw [left]
    exact (WatchSettings.lt_looks_iff pause).mp below
  rw [watchHost, bound]
  rcases host.firstShows_or_undecided s baseline size settings.looks with
    ⟨k, below, name, first⟩ | undecided
  · left
    refine ⟨k, below, name, first, ?_⟩
    obtain ⟨turns, enough⟩ : ∃ turns, settings.looks + 1 = turns + 1 + k :=
      ⟨settings.looks - k, by omega⟩
    rw [enough]
    exact Watch.run_of_firstShows host (early k below) first turns
  · right
    refine ⟨undecided, ?_⟩
    have late : (Watch.start settings baseline size now).deadline - now ≤
        settings.looks * settings.interval := by
      rw [left]
      exact WatchSettings.effectiveLimit_le_looks_mul pause
    rw [Nat.add_comm]
    exact Watch.run_of_all_undecided host (Nat.le_add_right ..) early late undecided 0

end VolumeAttach
