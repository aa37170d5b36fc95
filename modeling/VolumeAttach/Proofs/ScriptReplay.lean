/-
Module: VolumeAttach.Proofs.ScriptReplay
Purpose: Which snapshot each listing of a script serves, however the script is continued
  between the listings.
Main exports: ScriptStep, Script.after, Script.scripted, Script.servings, Script.due?,
  Script.IsOvertaken, Script.Replayed, Script.replayed_after, Script.serving?_eq_due?_iff
-/
import Mathlib.Data.List.Induction
import VolumeAttach.Host.Script

namespace VolumeAttach

/-!
The bookmark of a script says two things at once.  As long as the script goes on behind it,
it lies on the snapshot that comes next; at the end of the script it lies on the one that
was served last.  Which of the two it was is decided by the listing that moves it, with the
script as it is then.  A snapshot that is appended afterwards finds the bookmark where it
is, so that the next listing is late by one.
-/

/-- A step of the history of a script. -/
inductive ScriptStep where
  | report (devices : Snapshot)
  | vanish (name : String)
  | list
deriving DecidableEq

namespace ScriptStep

/-- The script after a step. -/
def apply (s : Script) : ScriptStep → Script
  | report devices => s.report devices
  | vanish name => s.vanish name
  | list => s.list.2

/-- The snapshot that a step appends. -/
def reported? : ScriptStep → Option Snapshot
  | report devices => some devices
  | vanish _ => none
  | list => none

end ScriptStep

namespace Script

/-- The script after the steps of a history. -/
def after (history : List ScriptStep) : Script := history.foldl ScriptStep.apply {}

/-- The snapshots that a history appends, in order. -/
def scripted (history : List ScriptStep) : List Snapshot :=
  history.filterMap ScriptStep.reported?

/-- The number of the snapshot that the next listing serves, counted from zero. -/
def serving? (s : Script) : Option Nat :=
  if s.bookmark < s.snapshots.length then some s.bookmark else none

/-- The numbers of the snapshots that are served in the course of steps. -/
def servingsFrom (s : Script) : List ScriptStep → List Nat
  | [] => []
  | .list :: rest => s.serving?.toList ++ servingsFrom (ScriptStep.list.apply s) rest
  | step :: rest => servingsFrom (step.apply s) rest

/-- The numbers of the snapshots that the listings of a history serve, in order.  A listing
of an empty script serves none. -/
def servings (history : List ScriptStep) : List Nat := servingsFrom {} history

/-- The number of the snapshot whose turn it is: the first that was not served, and if all
were served the last. -/
def due? (snapshots : Nat) (served : List Nat) : Option Nat :=
  ((List.range snapshots).find? fun k => decide (k ∉ served)).or (List.range snapshots).getLast?

/-- The part of a history that ends with its last listing. -/
def toLastListing (history : List ScriptStep) : List ScriptStep :=
  (history.reverse.dropWhile fun step => decide (step ≠ .list)).reverse

/-- With the last listing the script had run out, and it was continued since then. -/
def IsOvertaken (history : List ScriptStep) : Prop :=
  scripted (toLastListing history) ≠ [] ∧
    (∀ k < (scripted (toLastListing history)).length, k ∈ servings history) ∧
    (scripted (toLastListing history)).length < (scripted history).length

instance (history : List ScriptStep) : Decidable (IsOvertaken history) :=
  inferInstanceAs (Decidable (_ ∧ _ ∧ _))

section

variable {history earlier later : List ScriptStep} {k n last : Nat} {served : List Nat}

/-! ### One more step -/

theorem after_concat (history : List ScriptStep) (step : ScriptStep) :
    after (history ++ [step]) = step.apply (after history) := by
  rw [after, List.foldl_append]
  rfl

theorem scripted_concat (history : List ScriptStep) (step : ScriptStep) :
    scripted (history ++ [step]) = scripted history ++ step.reported?.toList := by
  rw [scripted, List.filterMap_append]
  cases step <;> rfl

theorem servingsFrom_append (s : Script) (earlier later : List ScriptStep) :
    servingsFrom s (earlier ++ later) =
      servingsFrom s earlier ++ servingsFrom (earlier.foldl ScriptStep.apply s) later := by
  induction earlier generalizing s with
  | nil => rfl
  | cons step rest ih => cases step <;> simp [servingsFrom, ih]

/-- Steps without a listing serve nothing. -/
theorem servingsFrom_of_silent (s : Script) (silent : .list ∉ later) :
    servingsFrom s later = [] := by
  induction later generalizing s with
  | nil => rfl
  | cons step rest ih =>
      have quiet : .list ∉ rest := fun inside => silent (List.mem_cons_of_mem _ inside)
      cases step with
      | list => exact absurd List.mem_cons_self silent
      | report devices => exact ih _ quiet
      | vanish name => exact ih _ quiet

theorem servings_append_of_silent (silent : .list ∉ later) :
    servings (history ++ later) = servings history := by
  rw [servings, servingsFrom_append, servingsFrom_of_silent _ silent, List.append_nil, servings]

theorem servings_append_list (silent : .list ∉ later) :
    servings (history ++ .list :: later) =
      servings history ++ (after history).serving?.toList := by
  rw [servings, servingsFrom_append, servingsFrom, servingsFrom_of_silent _ silent,
    List.append_nil]
  rfl

theorem toLastListing_append_list (silent : .list ∉ later) :
    toLastListing (earlier ++ .list :: later) = earlier ++ [.list] := by
  have skipped : ∀ step ∈ later.reverse, decide (step ≠ .list) = true := by
    intro step inside
    apply decide_eq_true
    rintro rfl
    exact silent (List.mem_reverse.mp inside)
  have whole : (earlier ++ .list :: later).reverse =
      later.reverse ++ .list :: earlier.reverse := by
    simp
  rw [toLastListing, whole, List.dropWhile_append_of_pos skipped,
    List.dropWhile_cons_of_neg (by simp)]
  simp

theorem toLastListing_concat_of_ne {step : ScriptStep} (other : step ≠ .list) :
    toLastListing (history ++ [step]) = toLastListing history := by
  rw [toLastListing, List.reverse_concat, List.dropWhile_cons_of_pos (by simpa using other)]
  rfl

/-! ### Whose turn it is -/

/-- If the first snapshots were served, the one behind them is due, or the last of all. -/
theorem due?_of_initial (members : ∀ j, j ∈ served ↔ j ≤ last) (below : last < n) :
    due? n served = some (if last + 1 < n then last + 1 else last) := by
  unfold due?
  by_cases more : last + 1 < n
  · have first : (List.range n).find? (fun k => decide (k ∉ served)) = some (last + 1) := by
      rw [List.find?_range_eq_some]
      refine ⟨?_, ?_, ?_⟩
      · simp [members]
      · simpa using more
      · intro j before
        simpa [members] using Nat.lt_succ_iff.mp before
    rw [first, if_pos more]
    rfl
  · have none : (List.range n).find? (fun k => decide (k ∉ served)) = none := by
      rw [List.find?_range_eq_none]
      intro j inside
      simp [members]
      omega
    have all : last + 1 = n := by omega
    subst all
    rw [none, if_neg more, List.range_succ, List.getLast?_concat]
    rfl

theorem due?_nil (n : Nat) : due? n [] = if 0 < n then some 0 else none := by
  cases n with
  | zero => rfl
  | succ n => simp [due?, List.range_succ_eq_map]

/-! ### What a history leaves behind -/

/-- What is known of a script after a history.  As long as nothing was served the bookmark
is at the beginning.  From then on the first snapshots up to some last one have been served,
the bookmark lies on that one or on the next, and the script as it was at the last listing
decides on which. -/
structure Replayed (history : List ScriptStep) : Prop where
  snapshots : (after history).snapshots = scripted history
  current : (after history).current =
    ((servings history).getLast?.bind fun k => (scripted history)[k]?).getD []
  place : (servings history = [] ∧ (after history).bookmark = 0 ∧
      scripted (toLastListing history) = []) ∨
    ∃ last, (servings history).getLast? = some last ∧ (∀ j, j ∈ servings history ↔ j ≤ last) ∧
      last < (scripted (toLastListing history)).length ∧
      (scripted (toLastListing history)).length ≤ (scripted history).length ∧
      (after history).bookmark = min (last + 1) ((scripted (toLastListing history)).length - 1)

/-- A step that is no listing leaves the bookmark where it is. -/
theorem bookmark_apply_of_ne {s : Script} {step : ScriptStep} (other : step ≠ .list) :
    (step.apply s).bookmark = s.bookmark := by
  cases step with
  | list => exact absurd rfl other
  | _ => rfl

theorem current_apply_of_ne {s : Script} {step : ScriptStep} (other : step ≠ .list) :
    (step.apply s).current = s.current := by
  cases step with
  | list => exact absurd rfl other
  | _ => rfl

theorem snapshots_apply (s : Script) (step : ScriptStep) :
    (step.apply s).snapshots = s.snapshots ++ step.reported?.toList := by
  cases step with
  | report devices => rfl
  | vanish name => exact (List.append_nil _).symm
  | list => exact (List.append_nil _).symm

/-- What was served stays at its place when the script is continued. -/
theorem Replayed.of_ne {step : ScriptStep} (replayed : Replayed history) (other : step ≠ .list) :
    Replayed (history ++ [step]) := by
  obtain ⟨snapshots, current, place⟩ := replayed
  have silent : ScriptStep.list ∉ [step] := by
    rw [List.mem_singleton]
    exact Ne.symm other
  refine ⟨?_, ?_, ?_⟩
  · rw [after_concat, snapshots_apply, snapshots, scripted_concat]
  · rw [after_concat, current_apply_of_ne other, current, servings_append_of_silent silent,
      scripted_concat]
    rcases place with ⟨none, -⟩ | ⟨last, served, -, below, within, -⟩
    · rw [none]
      rfl
    · rw [served, Option.bind_some, Option.bind_some,
        List.getElem?_append_left (Nat.lt_of_lt_of_le below within)]
  · rw [after_concat, bookmark_apply_of_ne other, servings_append_of_silent silent,
      toLastListing_concat_of_ne other, scripted_concat, List.length_append]
    rcases place with none | ⟨last, served, members, below, within, bookmark⟩
    · exact .inl none
    · exact .inr ⟨last, served, members, below, Nat.le_add_right_of_le within, bookmark⟩

/-- A listing serves the snapshot at the bookmark. -/
theorem Replayed.list (replayed : Replayed history) : Replayed (history ++ [.list]) := by
  obtain ⟨snapshots, current, place⟩ := replayed
  have ends : toLastListing (history ++ [.list]) = history ++ [.list] := by
    apply toLastListing_append_list
    exact List.not_mem_nil
  have unchanged : scripted (history ++ [.list]) = scripted history := by
    rw [scripted_concat]
    exact List.append_nil _
  have moves : (after (history ++ [.list])).bookmark =
      if (after history).bookmark + 1 < (scripted history).length
      then (after history).bookmark + 1 else (after history).bookmark := by
    rw [after_concat, ← snapshots]
    rfl
  have shows : (after (history ++ [.list])).current =
      ((scripted history)[(after history).bookmark]?).getD (after history).current := by
    rw [after_concat, ← snapshots]
    rfl
  refine ⟨?_, ?_, ?_⟩
  · rw [after_concat, snapshots_apply, snapshots, unchanged]
    exact List.append_nil _
  · rw [shows, servings_append_list List.not_mem_nil, unchanged, serving?, snapshots]
    by_cases inside : (after history).bookmark < (scripted history).length
    · rw [if_pos inside, Option.toList_some, List.getLast?_concat, Option.bind_some,
        List.getElem?_eq_getElem inside]
      rfl
    · rw [if_neg inside, Option.toList_none, List.append_nil, ← current,
        List.getElem?_eq_none (Nat.le_of_not_lt inside)]
      rfl
  · rw [ends, unchanged, moves, servings_append_list List.not_mem_nil, serving?, snapshots]
    rcases place with ⟨none, start, -⟩ | ⟨last, served, members, below, within, bookmark⟩
    · rw [none, start]
      by_cases empty : scripted history = []
      · rw [empty]
        exact .inl ⟨rfl, rfl, rfl⟩
      · have filled : 0 < (scripted history).length := List.length_pos_iff.mpr empty
        refine .inr ⟨0, ?_, ?_, filled, Nat.le_refl _, ?_⟩
        · rw [if_pos filled]
          rfl
        · intro j
          rw [if_pos filled]
          simp
        · split <;> omega
    · have inside : (after history).bookmark < (scripted history).length := by omega
      rw [if_pos inside]
      refine .inr ⟨(after history).bookmark, ?_, ?_, inside, Nat.le_refl _, ?_⟩
      · rw [Option.toList_some, List.getLast?_concat]
      · intro j
        rw [Option.toList_some, List.mem_append, members, List.mem_singleton]
        omega
      · split <;> omega

theorem replayed_after (history : List ScriptStep) : Replayed history := by
  induction history using List.reverseRecOn with
  | nil => exact ⟨rfl, rfl, .inl ⟨rfl, rfl, rfl⟩⟩
  | append_singleton earlier step ih =>
      by_cases listing : step = .list
      · subst listing
        exact ih.list
      · exact ih.of_ne listing

/-! ### What the next listing serves -/

/-- The bookmark of a script with snapshots lies on one of them. -/
theorem bookmark_lt_length (filled : 0 < (scripted history).length) :
    (after history).bookmark < (scripted history).length := by
  rcases (replayed_after history).place with
    ⟨-, start, -⟩ | ⟨last, -, -, below, within, bookmark⟩
  · rw [start]
    exact filled
  · omega

/-- A listing serves nothing only if there is nothing to serve. -/
theorem serving?_after (history : List ScriptStep) :
    (after history).serving? = if 0 < (scripted history).length
      then some (after history).bookmark else none := by
  rw [serving?, (replayed_after history).snapshots]
  by_cases filled : 0 < (scripted history).length
  · rw [if_pos (bookmark_lt_length filled), if_pos filled]
  · rw [if_neg filled, if_neg (by omega)]

/-- The next listing serves the snapshot whose turn it is, unless the script had run out and
was continued: then it serves the last one again. -/
theorem serving?_cases (history : List ScriptStep) :
    (¬ IsOvertaken history ∧
      (after history).serving? = due? (scripted history).length (servings history)) ∨
    (IsOvertaken history ∧ ∃ last, (servings history).getLast? = some last ∧
      (∀ j, j ∈ servings history ↔ j ≤ last) ∧ last + 1 < (scripted history).length ∧
      (after history).serving? = some last) := by
  rw [serving?_after]
  rcases (replayed_after history).place with
    ⟨none, start, unscripted⟩ | ⟨last, served, members, below, within, bookmark⟩
  · left
    refine ⟨fun overtaken => overtaken.1 unscripted, ?_⟩
    rw [none, start, due?_nil]
  · have filled : 0 < (scripted history).length := by omega
    rw [if_pos filled, due?_of_initial members (Nat.lt_of_lt_of_le below within)]
    have overtaken_iff : IsOvertaken history ↔
        last + 1 = (scripted (toLastListing history)).length ∧
          (scripted (toLastListing history)).length < (scripted history).length := by
      rw [IsOvertaken, ← List.length_pos_iff]
      simp only [members]
      constructor
      · intro h
        obtain ⟨filled, all, continued⟩ := h
        have top := all ((scripted (toLastListing history)).length - 1) (by omega)
        exact ⟨by omega, continued⟩
      · intro h
        obtain ⟨all, continued⟩ := h
        exact ⟨by omega, fun k before => by omega, continued⟩
    rw [overtaken_iff]
    by_cases late : last + 1 = (scripted (toLastListing history)).length ∧
        (scripted (toLastListing history)).length < (scripted history).length
    · have there : (after history).bookmark = last := by omega
      exact .inr ⟨late, last, served, members, by omega, congrArg some there⟩
    · refine .inl ⟨late, congrArg some ?_⟩
      split <;> omega

/-- Each listing serves a snapshot before which all were served. -/
theorem mem_servings_of_serving {j : Nat} (h : (after history).serving? = some k)
    (before : j < k) : j ∈ servings history := by
  rw [serving?_after] at h
  split at h
  · obtain rfl := Option.some.inj h
    rcases (replayed_after history).place with
      ⟨-, start, -⟩ | ⟨last, -, members, -, -, bookmark⟩
    · rw [start] at before
      exact absurd before (Nat.not_lt_zero j)
    · rw [members]
      omega
  · cases h

/-- A listing that is late is followed by one that is not. -/
theorem not_isOvertaken_after_late (overtaken : IsOvertaken history) (silent : .list ∉ later) :
    ¬ IsOvertaken (history ++ .list :: later) := by
  rcases serving?_cases history with ⟨due, -⟩ | ⟨-, last, served, members, more, serves⟩
  · exact absurd overtaken due
  intro again
  have unchanged : scripted (history ++ [.list]) = scripted history := by
    rw [scripted_concat]
    exact List.append_nil _
  have all := again.2.1 (last + 1)
  rw [toLastListing_append_list silent, unchanged, servings_append_list silent, serves,
    Option.toList_some, List.mem_append, members, List.mem_singleton] at all
  have served := all more
  omega

/-! ### Further listings reach every snapshot -/

theorem scripted_append_replicate (history : List ScriptStep) (count : Nat) :
    scripted (history ++ List.replicate count .list) = scripted history := by
  have silent : (List.replicate count ScriptStep.list).filterMap ScriptStep.reported? = [] := by
    rw [List.filterMap_eq_nil_iff]
    intro step inside
    rw [List.eq_of_mem_replicate inside]
    rfl
  rw [scripted, List.filterMap_append, silent, List.append_nil, scripted]

/-- Each listing moves the bookmark on, up to the last snapshot. -/
theorem le_bookmark_after_replicate (history : List ScriptStep) (count : Nat) :
    min count ((scripted history).length - 1) ≤
      (after (history ++ List.replicate count .list)).bookmark := by
  induction count with
  | zero => omega
  | succ count ih =>
      have moves : (after (history ++ List.replicate (count + 1) .list)).bookmark =
          if (after (history ++ List.replicate count .list)).bookmark + 1 <
              (scripted history).length
          then (after (history ++ List.replicate count .list)).bookmark + 1
          else (after (history ++ List.replicate count .list)).bookmark := by
        rw [List.replicate_succ', ← List.append_assoc, after_concat,
          ← scripted_append_replicate history count, ← (replayed_after _).snapshots]
        rfl
      rw [moves]
      split <;> omega

/-- As many listings as there are snapshots serve all that are left. -/
theorem mem_servings_append_replicate (inside : k < (scripted history).length) :
    k ∈ servings (history ++ List.replicate (scripted history).length .list) := by
  obtain ⟨count, hcount⟩ : ∃ count, (scripted history).length = count + 1 :=
    Nat.exists_eq_add_one_of_ne_zero (by omega)
  have reached := le_bookmark_after_replicate history count
  have serves : (after (history ++ List.replicate count .list)).serving? =
      some (after (history ++ List.replicate count .list)).bookmark := by
    rw [serving?_after, scripted_append_replicate, if_pos (by omega)]
  rw [hcount, List.replicate_succ', ← List.append_assoc,
    servings_append_list List.not_mem_nil, serves, List.mem_append]
  by_cases now : k = (after (history ++ List.replicate count .list)).bookmark
  · exact .inr (List.mem_singleton.mpr now)
  · exact .inl (mem_servings_of_serving serves (by omega))

/-! ### Sizes -/

theorem mem_vanishing_after {name : String} :
    name ∈ (after history).vanishing ↔ .vanish name ∈ history := by
  induction history using List.reverseRecOn with
  | nil => simp [after]
  | append_singleton earlier step ih =>
      rw [after_concat, List.mem_append, ← ih, List.mem_singleton]
      cases step with
      | report devices => simp [ScriptStep.apply, report]
      | vanish other => simp [ScriptStep.apply, vanish, or_comm]
      | list => simp [ScriptStep.apply, list, next]

/-- A size is that of the snapshot that was served last, for a name that is not gone. -/
theorem size_eq_ok_iff {name : String} {bytes : UInt64} :
    (after history).size name = .ok bytes ↔ .vanish name ∉ history ∧
      ∃ k snapshot, (servings history).getLast? = some k ∧
        (scripted history)[k]? = some snapshot ∧ snapshot.size? name = some bytes := by
  have recorded : (after history).current.size? name =
      ((servings history).getLast?.bind fun k => (scripted history)[k]?).bind
        (·.size? name) := by
    rw [(replayed_after history).current]
    cases (servings history).getLast?.bind fun k => (scripted history)[k]? <;> rfl
  have gone_iff : (after history).vanishing.contains name = true ↔ .vanish name ∈ history := by
    rw [List.contains_iff_mem, mem_vanishing_after]
  unfold size
  rw [recorded]
  by_cases gone : .vanish name ∈ history
  · rw [if_pos (gone_iff.mpr gone)]
    simp [gone]
  · rw [if_neg (mt gone_iff.mp gone)]
    cases served : (servings history).getLast? with
    | none => simp
    | some k =>
        cases shown : (scripted history)[k]? with
        | none => simp [shown]
        | some snapshot => cases known : snapshot.size? name <;> simp [shown, known, gone]

/-- A name whose size is not known is said not to be there. -/
theorem size_eq_error {s : Script} {name : String} {cause : InventoryError}
    (h : s.size name = .error cause) : cause = .deviceNotFound name := by
  unfold size at h
  split at h
  · exact (Except.error.inj h).symm
  · split at h
    · cases h
    · exact (Except.error.inj h).symm

/-! ### The whole replay -/

/-- What a listing lists is the snapshot that it serves, and nothing of an empty script. -/
theorem list_after (history : List ScriptStep) :
    (after history).list.1 =
      (((after history).serving?.bind fun k => (scripted history)[k]?).getD []).names := by
  obtain ⟨snapshots, current, -⟩ := replayed_after history
  have shows : (after history).list.1 =
      (((scripted history)[(after history).bookmark]?).getD (after history).current).names := by
    rw [← snapshots]
    rfl
  rw [shows, serving?_after, current]
  by_cases filled : 0 < (scripted history).length
  · rw [if_pos filled, Option.bind_some, List.getElem?_eq_getElem (bookmark_lt_length filled)]
    rfl
  · obtain empty : scripted history = [] := List.length_eq_zero_iff.mp (by omega)
    rw [empty]
    cases (servings history).getLast? <;> rfl

/-- However a script is continued between its listings, a listing serves the snapshot whose
turn it is, the first that was not served or else the last, unless the script had run out
at the listing before and was continued since then.  Such a listing serves the last one
again, and the listing that follows it is in time.  What is listed are the names of the
snapshot that is served; none is served before all in front of it were; and further listings
reach every snapshot of the script.  A size is that of the snapshot that was served last,
and a name that is missing there or was said to vanish is told not to be found. -/
theorem serving?_eq_due?_iff (history : List ScriptStep) :
    ((after history).serving? = due? (scripted history).length (servings history) ↔
      ¬ IsOvertaken history) ∧
    (IsOvertaken history → (after history).serving? = (servings history).getLast? ∧
      ∀ later, .list ∉ later → ¬ IsOvertaken (history ++ .list :: later)) ∧
    (after history).list.1 =
      (((after history).serving?.bind fun k => (scripted history)[k]?).getD []).names ∧
    (∀ k, (after history).serving? = some k → ∀ j < k, j ∈ servings history) ∧
    (∀ k < (scripted history).length,
      k ∈ servings (history ++ List.replicate (scripted history).length .list)) ∧
    ∀ name,
      (∀ bytes, (after history).size name = .ok bytes ↔ .vanish name ∉ history ∧
        ∃ k snapshot, (servings history).getLast? = some k ∧
          (scripted history)[k]? = some snapshot ∧ snapshot.size? name = some bytes) ∧
      ∀ cause, (after history).size name = .error cause → cause = .deviceNotFound name := by
  refine ⟨?_, ?_, list_after history, ?_, ?_, ?_⟩
  · rcases serving?_cases history with
      ⟨inTime, due⟩ | ⟨overtaken, last, -, members, more, serves⟩
    · simp [inTime, due]
    · have late : some last ≠ some (last + 1) := by simp
      rw [serves, due?_of_initial members (by omega), if_pos more]
      simp [overtaken, late]
  · intro overtaken
    refine ⟨?_, fun later silent => not_isOvertaken_after_late overtaken silent⟩
    rcases serving?_cases history with ⟨inTime, -⟩ | ⟨-, last, served, -, -, serves⟩
    · exact absurd overtaken inTime
    · rw [serves, served]
  · intro k serves j before
    exact mem_servings_of_serving serves before
  · intro k inside
    exact mem_servings_append_replicate inside
  · intro name
    exact ⟨fun bytes => size_eq_ok_iff, fun cause fails => size_eq_error fails⟩

/-- A script that is continued after its end serves its first snapshot twice and then the
one that was appended. -/
theorem serving?_of_late_listing :
    let history : List ScriptStep :=
      [.report [("sda", 8)], .list, .report [("sda", 8), ("xvdj", 7)]]
    IsOvertaken history ∧ (after history).serving? = some 0 ∧
      (after (history ++ [.list])).serving? = some 1 := by
  intro history
  have overtaken : IsOvertaken history := by decide
  obtain ⟨-, late, -⟩ := serving?_eq_due?_iff history
  obtain ⟨again, after_it⟩ := late overtaken
  obtain ⟨inTime, -⟩ := serving?_eq_due?_iff (history ++ [.list])
  have due := inTime.mpr (after_it [] List.not_mem_nil)
  exact ⟨overtaken, again.trans (by decide), due.trans (by decide)⟩

/-- So a listing does not always serve the first snapshot that was not served: here that is
the second one, and the names of the first are listed again. -/
theorem serving?_ne_due?_of_continued :
    let history : List ScriptStep :=
      [.report [("sda", 8)], .list, .report [("sda", 8), ("xvdj", 7)]]
    due? (scripted history).length (servings history) = some 1 ∧
      ((scripted history)[1]?.map Snapshot.names) = some (.ofList ["sda", "xvdj"]) ∧
      (after history).serving? ≠ some 1 ∧ (after history).list.1 = .ofList ["sda"] := by
  decide

end
end Script
end VolumeAttach
