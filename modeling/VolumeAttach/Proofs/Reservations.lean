/-
Module: VolumeAttach.Proofs.Reservations
Purpose: Runs of reservations.  A slot that was taken stays taken until the kernel's name of
  it is removed, and takes alone go through the free letters in order.
Main exports: Naming.freeLetters_insert_kernelName, Reservation.apply_take_of_free,
  Reservation.applyAll_replicate_take, Reservation.inUseBefore, Reservation.exists_remove,
  Reservation.applyAll_reserves
-/
import Mathlib
import VolumeAttach.Proofs.FreeSlots

namespace VolumeAttach

/-!
A take leaves one trace, the kernel's name of the slot.  That name makes the letter taken
and no other letter, whatever the scheme, and no step but its own removal takes it out of
the set again.  Both facts are about one step; what is said of runs follows from them.
-/

namespace Naming

variable {n : Naming} {inUse : NameSet} {letter other : Char}

/-- A kernel name that is put in use takes its own letter and no other. -/
theorem isFree_insert_kernelName_iff :
    n.IsFree (inUse.insert (n.kernelName letter)) other ↔
      other ≠ letter ∧ n.IsFree inUse other := by
  unfold IsFree
  rw [NameSet.mem_insert, NameSet.mem_insert, not_or, not_or]
  by_cases same : other = letter
  · simp [same]
  · have unrequested : requestedName other ≠ n.kernelName letter :=
      requestedName_ne_kernelName same
    have unseen : n.kernelName other ≠ n.kernelName letter := by
      intro alike
      exact same
        (String.singleton_inj.mp ((String.append_right_inj n.scheme.kernelFamily).mp alike))
    simp [same, unrequested, unseen]

/-- When the slot of the first free letter is taken, the other free letters are left. -/
theorem freeLetters_insert_kernelName {rest : List Char}
    (h : n.freeLetters inUse = letter :: rest) :
    n.freeLetters (inUse.insert (n.kernelName letter)) = rest := by
  have kept : n.freeLetters (inUse.insert (n.kernelName letter)) =
      (n.freeLetters inUse).filter fun other => decide (other ≠ letter) := by
    unfold freeLetters
    rw [List.filter_filter]
    apply List.filter_congr
    intro other listed
    rw [← Bool.decide_and]
    exact decide_eq_decide.mpr isFree_insert_kernelName_iff
  have ascending : (letter :: rest).Pairwise (· < ·) := h ▸ freeLetters_ascending
  have above := (List.pairwise_cons.mp ascending).1
  rw [kept, h, List.filter_cons_of_neg (by simp), List.filter_eq_self]
  intro other inside
  apply decide_eq_true
  intro same
  exact absurd (same ▸ above other inside) (Char.lt_irrefl letter)

end Naming

namespace Reservation

variable {n : Naming} {start inUse : NameSet} {letter : Char} {step : Reservation}
  {steps : List Reservation} {name : String} {i j k : Nat}

/-! ### One step -/

/-- What a take of the slot of a letter answers. -/
def taking (n : Naming) (letter : Char) : Answer :=
  .taken (DeviceNaming.slot n letter) (.ok (n.root.under (n.kernelName letter)))

/-- A take chooses the first free letter and puts the kernel's name of it in use. -/
theorem apply_take_of_free {rest : List Char} (h : n.freeLetters inUse = letter :: rest) :
    apply n inUse .take = (taking n letter, inUse.insert (n.kernelName letter)) := by
  have listed := (Naming.listed_of_freeLetters_eq h).1
  have named := DevicePath.fileName?_under n.root (Naming.entry_kernelName (n := n) listed)
  simp only [apply, Naming.selectFree_eq, h, Naming.expected_slot listed, reserve, named, taking]

/-- Without a free letter it fails and leaves the set alone. -/
theorem apply_take_of_full (h : n.freeLetters inUse = []) :
    apply n inUse .take = (.selected (.error .allTaken), inUse) := by
  simp only [apply, Naming.selectFree_eq, h]

/-- A take that answers with a slot has taken that of the first free letter. -/
theorem free_of_taken {slot : DevicePath} {kernel : Except NameError DevicePath}
    (h : (apply n inUse step).1 = .taken slot kernel) :
    step = .take ∧ ∃ letter rest, n.freeLetters inUse = letter :: rest ∧
      slot = DeviceNaming.slot n letter ∧ kernel = .ok (n.root.under (n.kernelName letter)) := by
  cases step with
  | add other => cases h
  | remove other => cases h
  | select => cases h
  | take =>
      cases hfree : n.freeLetters inUse with
      | nil =>
          rw [apply_take_of_full hfree] at h
          cases h
      | cons letter rest =>
          rw [apply_take_of_free hfree] at h
          cases h
          exact ⟨rfl, letter, rest, rfl, rfl, rfl⟩

/-- No step but its removal takes a name out of the set. -/
theorem mem_apply (inside : name ∈ inUse) (kept : step ≠ .remove name) :
    name ∈ (apply n inUse step).2 := by
  cases step with
  | add other => exact NameSet.mem_insert.mpr (.inr inside)
  | remove other =>
      have differ : name ≠ other := fun same => kept (by rw [same])
      exact NameSet.mem_erase.mpr ⟨inside, differ⟩
  | select => exact inside
  | take =>
      cases hfree : n.freeLetters inUse with
      | nil =>
          rw [apply_take_of_full hfree]
          exact inside
      | cons letter rest =>
          rw [apply_take_of_free hfree]
          exact NameSet.mem_insert.mpr (.inr inside)

/-! ### The steps of a run -/

theorem applyAll_append (n : Naming) (start : NameSet) (earlier later : List Reservation) :
    applyAll n start (earlier ++ later) =
      ((applyAll n start earlier).1 ++ (applyAll n (applyAll n start earlier).2 later).1,
        (applyAll n (applyAll n start earlier).2 later).2) := by
  induction earlier generalizing start with
  | nil => rfl
  | cons step rest ih => simp only [List.cons_append, applyAll, ih]

/-- The names in use before the step with a number. -/
def inUseBefore (n : Naming) (start : NameSet) (steps : List Reservation) (k : Nat) : NameSet :=
  (applyAll n start (steps.take k)).2

/-- Each step is carried out on the set that the steps before it left. -/
theorem inUseBefore_succ (here : steps[k]? = some step) :
    inUseBefore n start steps (k + 1) = (apply n (inUseBefore n start steps k) step).2 := by
  unfold inUseBefore
  rw [List.take_add_one, here, applyAll_append]
  rfl

/-- Behind the last step nothing changes. -/
theorem inUseBefore_succ_of_none (past : steps[k]? = none) :
    inUseBefore n start steps (k + 1) = inUseBefore n start steps k := by
  unfold inUseBefore
  rw [List.take_add_one, past]
  simp

/-- It answers for that set, too. -/
theorem getElem?_answers (n : Naming) (start : NameSet) (steps : List Reservation) (k : Nat) :
    (applyAll n start steps).1[k]? =
      steps[k]?.map fun step => (apply n (inUseBefore n start steps k) step).1 := by
  induction steps generalizing start k with
  | nil => rfl
  | cons step rest ih =>
      cases k with
      | zero => rfl
      | succ k =>
          simp only [applyAll, List.getElem?_cons_succ, ih]
          rfl

/-- A name that gets lost in the course of a run is removed by one of its steps. -/
theorem exists_remove (early : i ≤ j) (inside : name ∈ inUseBefore n start steps i)
    (lost : name ∉ inUseBefore n start steps j) :
    ∃ k, i ≤ k ∧ k < j ∧ steps[k]? = some (.remove name) ∧
      name ∈ inUseBefore n start steps k := by
  induction early with
  | refl => exact absurd inside lost
  | @step j early ih =>
      by_cases still : name ∈ inUseBefore n start steps j
      · cases here : steps[j]? with
        | none =>
            rw [inUseBefore_succ_of_none here] at lost
            exact absurd still lost
        | some step =>
            rw [inUseBefore_succ here] at lost
            have removes : step = .remove name := by
              by_contra kept
              exact lost (mem_apply still kept)
            rw [removes] at here
            exact ⟨j, early, Nat.lt_succ_self j, here, still⟩
      · obtain ⟨k, after, before, removes, there⟩ := ih still
        exact ⟨k, after, Nat.lt_succ_of_lt before, removes, there⟩

/-- A slot is taken a second time only after the kernel's name of it was removed. -/
theorem exists_remove_of_taken_twice {first second : DevicePath}
    {device again : Except NameError DevicePath} (early : i < j)
    (takes : (applyAll n start steps).1[i]? = some (.taken first device))
    (takes_again : (applyAll n start steps).1[j]? = some (.taken second again))
    (same : first ≈ second) :
    ∃ k file name, i < k ∧ k < j ∧ device = .ok file ∧ file.fileName? = some name ∧
      steps[k]? = some (.remove name) ∧
      (applyAll n start steps).1[k]? = some (.changed true) := by
  rw [getElem?_answers, Option.map_eq_some_iff] at takes takes_again
  obtain ⟨step, here, answers⟩ := takes
  obtain ⟨later, there, answers_again⟩ := takes_again
  obtain ⟨rfl, letter, rest, free, rfl, rfl⟩ := free_of_taken answers
  obtain ⟨rfl, other, others, free_again, rfl, -⟩ := free_of_taken answers_again
  obtain ⟨listed, -⟩ := Naming.listed_of_freeLetters_eq free
  obtain ⟨too, isFree⟩ := Naming.listed_of_freeLetters_eq free_again
  obtain rfl := (Naming.slot_equiv_slot_iff listed too).mp same
  have reserved : n.kernelName letter ∈ inUseBefore n start steps (i + 1) := by
    rw [inUseBefore_succ here, apply_take_of_free free]
    exact NameSet.mem_insert.mpr (.inl rfl)
  obtain ⟨k, after, before, removes, inside⟩ := exists_remove early reserved isFree.2
  refine ⟨k, _, _, after, before, rfl,
    DevicePath.fileName?_under n.root (Naming.entry_kernelName listed), removes, ?_⟩
  rw [getElem?_answers, removes]
  simp [apply, inside]

/-! ### Takes alone -/

/-- Takes alone go through the free letters in ascending order, and fail from then on. -/
theorem applyAll_replicate_take (n : Naming) (inUse : NameSet) (count : Nat) :
    applyAll n inUse (List.replicate count .take) =
      (((n.freeLetters inUse).take count).map (taking n) ++
          List.replicate (count - (n.freeLetters inUse).length) (.selected (.error .allTaken)),
        ((n.freeLetters inUse).take count).foldl
          (fun names letter => names.insert (n.kernelName letter)) inUse) := by
  induction count generalizing inUse with
  | zero => simp [applyAll]
  | succ count ih =>
      rw [List.replicate_succ, applyAll]
      cases hfree : n.freeLetters inUse with
      | nil =>
          rw [apply_take_of_full hfree]
          simp [ih, hfree, List.replicate_succ]
      | cons letter rest =>
          rw [apply_take_of_free hfree]
          simp [ih, Naming.freeLetters_insert_kernelName hfree]

/-! ### All runs -/

/-- However names come and go, a take whose choice succeeds is translated, gives a slot
neither name of which was in use, and puts the kernel's name of it in use and nothing else.
No slot is taken twice unless the kernel's name of it was removed in between.  Takes alone
give each letter that was free at the start once, in ascending order, and from then on they
fail and leave the set as it is. -/
theorem applyAll_reserves (n : Naming) (start : NameSet) :
    (∀ (steps : List Reservation) (slot : DevicePath),
      n.selectFree (applyAll n start steps).2 = .ok slot →
        ∃ (device : DevicePath) (requested kernel : String),
          apply n (applyAll n start steps).2 .take =
            (.taken slot (.ok device), (applyAll n start steps).2.insert kernel) ∧
          slot.fileName? = some requested ∧ device.fileName? = some kernel ∧
          requested ∉ (applyAll n start steps).2 ∧ kernel ∉ (applyAll n start steps).2) ∧
    (∀ (steps : List Reservation) (i j : Nat) (first second : DevicePath)
        (device again : Except NameError DevicePath), i < j →
      (applyAll n start steps).1[i]? = some (.taken first device) →
      (applyAll n start steps).1[j]? = some (.taken second again) → first ≈ second →
      ∃ (k : Nat) (file : DevicePath) (name : String), i < k ∧ k < j ∧ device = .ok file ∧
        file.fileName? = some name ∧ steps[k]? = some (.remove name) ∧
        (applyAll n start steps).1[k]? = some (.changed true)) ∧
    ∃ letters : List Char, letters.Pairwise (· < ·) ∧
      (∀ letter, letter ∈ letters ↔ 'a' ≤ letter ∧ letter ≤ 'z' ∧
        requestedFamily ++ String.singleton letter ∉ start ∧
        n.scheme.kernelFamily ++ String.singleton letter ∉ start) ∧
      ∀ count, applyAll n start (List.replicate count .take) =
        ((letters.take count).map (fun letter =>
            .taken (n.root.under (requestedFamily ++ String.singleton letter))
              (.ok (n.root.under (n.scheme.kernelFamily ++ String.singleton letter)))) ++
          List.replicate (count - letters.length) (.selected (.error .allTaken)),
        (letters.take count).foldl
          (fun names letter => names.insert (n.scheme.kernelFamily ++ String.singleton letter))
          start) := by
  refine ⟨?_, ?_, n.freeLetters start, Naming.freeLetters_ascending, ?_, ?_⟩
  · intro steps slot chosen
    obtain ⟨letter, rest, free, rfl⟩ := Naming.selectFree_eq_ok_iff.mp chosen
    obtain ⟨listed, unrequested, unseen⟩ := Naming.listed_of_freeLetters_eq free
    exact ⟨_, _, _, apply_take_of_free free, Naming.fileName?_slot listed,
      DevicePath.fileName?_under n.root (Naming.entry_kernelName listed), unrequested, unseen⟩
  · intro steps i j first second device again early takes takes_again same
    exact exists_remove_of_taken_twice early takes takes_again same
  · intro letter
    rw [Naming.mem_freeLetters_iff, mem_slotLetters_iff, and_assoc]
    rfl
  · intro count
    exact applyAll_replicate_take n start count

/-- A slot that was taken and given up again is taken anew.  Of the letters before it and
after it, `b` is taken by a name of the requested family and `c` by one of the kernel's. -/
theorem applyAll_reserves_of_returned_slot :
    let n : Naming := {}
    let start := NameSet.ofList ["sdb", "xvdc"]
    let steps : List Reservation := [.take, .remove "xvda", .take]
    (∃ device requested kernel,
      apply n (applyAll n start steps).2 .take =
        (.taken ⟨"/dev/sdd"⟩ (.ok device), (applyAll n start steps).2.insert kernel) ∧
      DevicePath.fileName? ⟨"/dev/sdd"⟩ = some requested ∧ device.fileName? = some kernel ∧
      requested ∉ (applyAll n start steps).2 ∧ kernel ∉ (applyAll n start steps).2) ∧
    ∃ k name, 0 < k ∧ k < 2 ∧ DevicePath.fileName? ⟨"/dev/xvda"⟩ = some name ∧
      steps[k]? = some (.remove name) := by
  intro n start steps
  obtain ⟨takes, twice, -⟩ := applyAll_reserves n start
  have chosen : n.selectFree (applyAll n start steps).2 = .ok ⟨"/dev/sdd"⟩ := by decide +kernel
  have first : (applyAll n start steps).1[0]? =
      some (.taken ⟨"/dev/sda"⟩ (.ok ⟨"/dev/xvda"⟩)) := by cbv
  have second : (applyAll n start steps).1[2]? =
      some (.taken ⟨"/dev/sda"⟩ (.ok ⟨"/dev/xvda"⟩)) := by cbv
  obtain ⟨k, file, name, after, before, device, named, removes, -⟩ :=
    twice steps 0 2 _ _ _ _ (by decide) first second (Setoid.refl _)
  cases device
  exact ⟨takes steps _ chosen, k, name, after, before, named, removes⟩

end Reservation
end VolumeAttach
