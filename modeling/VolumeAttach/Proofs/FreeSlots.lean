/-
Module: VolumeAttach.Proofs.FreeSlots
Purpose: Which letters the names in use leave free, and that the slot of the lowest of
  them is the one that is chosen.
Main exports: requestedName, Naming.kernelName, Naming.IsFree, Naming.freeLetters,
  Naming.slotLetters?_eq_some_iff, Naming.selectFree_eq_ok_iff, Naming.selectFree_names,
  Naming.IsLowestFree, Naming.TakesNothing, Naming.selectFree_lowest
-/
import VolumeAttach.Proofs.NameTranslation
import VolumeAttach.Slot.Selection

namespace VolumeAttach

/-!
A choice reads the letters off all names in use and then looks for the first letter that
is not among them.  Seen from a letter this is simpler: it is free if neither of the two
names that its slot can have is in use.  No other name matters.
-/

/-! ### The letters of the slots -/

theorem slotLetters_eq_map : slotLetters = (List.range' 97 26).map Char.ofNat := rfl

/-- The slots have the letters from a to z. -/
theorem mem_slotLetters_iff {letter : Char} :
    letter ∈ slotLetters ↔ 'a' ≤ letter ∧ letter ≤ 'z' := by
  constructor
  · intro listed
    have within : slotLetters.all (fun c => 97 ≤ c.toNat ∧ c.toNat ≤ 122) = true := rfl
    exact of_decide_eq_true (List.all_eq_true.mp within letter listed)
  · intro within
    obtain ⟨low, high⟩ := within
    rw [slotLetters_eq_map, List.mem_map]
    refine ⟨letter.toNat, ?_, Char.ofNat_toNat letter⟩
    have first : 97 ≤ letter.toNat := low
    have last : letter.toNat ≤ 122 := high
    rw [List.mem_range'_1]
    omega

/-- They are tried in ascending order. -/
theorem slotLetters_ascending : slotLetters.Pairwise (· < ·) := by decide

/-- A slot letter may follow the family. -/
theorem isSlotLetters_singleton (letter : Char) (listed : letter ∈ slotLetters) :
    IsSlotLetters (String.singleton letter) := by
  have lower : slotLetters.all Char.isLower = true := rfl
  refine ⟨fun empty => ?_, fun c hc => ?_⟩
  · have none := congrArg String.toList empty
    simp at none
  · have same : c = letter := by simpa using hc
    rw [same]
    exact List.all_eq_true.mp lower letter listed

/-! ### The two names of a slot -/

/-- The families of a Xen guest differ in their first character. -/
theorem requestedFamily_append_ne (a b : String) :
    requestedFamily ++ a ≠ Scheme.xen.kernelFamily ++ b := by
  intro same
  have texts := congrArg String.toList same
  rw [String.toList_append, String.toList_append] at texts
  simp [requestedFamily, Scheme.kernelFamily] at texts

/-- The name under which the slot of a letter is requested. -/
def requestedName (letter : Char) : String := requestedFamily ++ String.singleton letter

namespace Naming

variable {n : Naming} {inUse second : NameSet} {letter other : Char} {p q : DevicePath}

/-- The name under which the kernel shows it. -/
def kernelName (n : Naming) (letter : Char) : String :=
  n.scheme.kernelFamily ++ String.singleton letter

/-- Slots of two letters share no name. -/
theorem requestedName_ne_kernelName (differ : letter ≠ other) :
    requestedName letter ≠ n.kernelName other := by
  intro same
  unfold requestedName kernelName at same
  cases hscheme : n.scheme with
  | xen =>
      rw [hscheme] at same
      exact requestedFamily_append_ne _ _ same
  | identity =>
      rw [hscheme] at same
      exact differ (String.singleton_inj.mp ((String.append_right_inj requestedFamily).mp same))

theorem entry_requestedName (listed : letter ∈ slotLetters) :
    IsEntryName (requestedName letter) :=
  (isSlotLetters_singleton letter listed).isEntryName requestedFamily_lower

theorem entry_kernelName (listed : letter ∈ slotLetters) : IsEntryName (n.kernelName letter) :=
  (isSlotLetters_singleton letter listed).isEntryName n.scheme.kernelFamily_lower

theorem fileName?_slot (listed : letter ∈ slotLetters) :
    (DeviceNaming.slot n letter).fileName? = some (requestedName letter) :=
  DevicePath.fileName?_under n.root (entry_requestedName listed)

/-- The kernel shows the slot of a letter under the kernel's name of it. -/
theorem expected_slot (listed : letter ∈ slotLetters) :
    n.expected (DeviceNaming.slot n letter) = .ok (n.root.under (n.kernelName letter)) := by
  rw [expected_eq_rename]
  exact rename_device (isSlotLetters_singleton letter listed) requestedFamily_lower

/-- Slots of two letters are two slots. -/
theorem slot_equiv_slot_iff (listed : letter ∈ slotLetters) (too : other ∈ slotLetters) :
    DeviceNaming.slot n letter ≈ DeviceNaming.slot n other ↔ letter = other :=
  (DevicePath.under_equiv_under_iff n.root (entry_requestedName listed)
    (entry_requestedName too)).trans
      ((String.append_right_inj requestedFamily).trans String.singleton_inj)

/-! ### Free letters -/

/-- A letter is free if neither name of its slot is in use. -/
def IsFree (n : Naming) (inUse : NameSet) (letter : Char) : Prop :=
  requestedName letter ∉ inUse ∧ n.kernelName letter ∉ inUse

instance (n : Naming) (inUse : NameSet) (letter : Char) : Decidable (n.IsFree inUse letter) :=
  inferInstanceAs (Decidable (_ ∧ _))

/-- The free letters in ascending order. -/
def freeLetters (n : Naming) (inUse : NameSet) : List Char :=
  slotLetters.filter fun letter => decide (n.IsFree inUse letter)

theorem mem_freeLetters_iff :
    letter ∈ n.freeLetters inUse ↔ letter ∈ slotLetters ∧ n.IsFree inUse letter := by
  simp [freeLetters]

theorem freeLetters_ascending : (n.freeLetters inUse).Pairwise (· < ·) :=
  slotLetters_ascending.filter _

/-- Nothing is free exactly if each letter is taken. -/
theorem freeLetters_eq_nil_iff :
    n.freeLetters inUse = [] ↔ ∀ letter ∈ slotLetters, ¬ n.IsFree inUse letter := by
  simp [freeLetters, List.filter_eq_nil_iff]

/-- The letters of a name are what follows the kernel's family or the requested one. -/
theorem slotLetters?_eq_some_iff {name letters : String} :
    n.slotLetters? name = some letters ↔
      IsSlotLetters letters ∧
        (name = n.scheme.kernelFamily ++ letters ∨ name = requestedFamily ++ letters) := by
  unfold slotLetters?
  rw [Option.or_eq_some_iff, familyLetters?_eq_some_iff, familyLetters?_eq_some_iff]
  constructor
  · intro h
    rcases h with ⟨kernel, slot⟩ | ⟨-, requested, slot⟩
    · exact ⟨slot, .inl kernel⟩
    · exact ⟨slot, .inr requested⟩
  · intro h
    obtain ⟨slot, kernel | requested⟩ := h
    · exact .inl ⟨kernel, slot⟩
    · cases hscheme : n.scheme with
      | identity => exact .inl ⟨requested, slot⟩
      | xen =>
          refine .inr ⟨?_, requested, slot⟩
          -- The kernel's family is tried first, but it does not open this name.
          cases hletters : familyLetters? Scheme.xen.kernelFamily name with
          | none => rfl
          | some found =>
              have kernel := (familyLetters?_eq_some_iff.mp hletters).1
              exact absurd (requested.symm.trans kernel) (requestedFamily_append_ne _ _)

/-- A letter is taken by one of the two names of its slot and by no other name. -/
theorem mem_takenLetters_iff (n : Naming) (inUse : NameSet) (listed : letter ∈ slotLetters) :
    String.singleton letter ∈ DeviceNaming.takenLetters n inUse ↔ ¬ n.IsFree inUse letter := by
  have slot := isSlotLetters_singleton letter listed
  have taken : String.singleton letter ∈ DeviceNaming.takenLetters n inUse ↔
      ∃ name ∈ inUse, n.slotLetters? name = some (String.singleton letter) :=
    List.mem_filterMap
  rw [taken, IsFree, not_and_or, not_not, not_not]
  constructor
  · intro h
    obtain ⟨name, inside, hname⟩ := h
    rcases (slotLetters?_eq_some_iff.mp hname).2 with rfl | rfl
    · exact .inr inside
    · exact .inl inside
  · intro h
    rcases h with inside | inside
    · exact ⟨_, inside, slotLetters?_eq_some_iff.mpr ⟨slot, .inr rfl⟩⟩
    · exact ⟨_, inside, slotLetters?_eq_some_iff.mpr ⟨slot, .inl rfl⟩⟩

/-- The chosen slot is that of the first free letter. -/
theorem selectFree_eq (n : Naming) (inUse : NameSet) :
    n.selectFree inUse =
      match n.freeLetters inUse with
      | [] => .error .allTaken
      | letter :: _ => .ok (DeviceNaming.slot n letter) := by
  have free : slotLetters.filter
        (fun c => !(DeviceNaming.takenLetters n inUse).contains (String.singleton c)) =
      n.freeLetters inUse := by
    apply List.filter_congr
    intro letter listed
    have taken := mem_takenLetters_iff n inUse listed
    by_cases isFree : n.IsFree inUse letter
    · simp [isFree, taken]
    · simp [isFree, taken]
  unfold selectFree DeviceNaming.selectFree
  rw [← List.head?_filter, free]
  cases n.freeLetters inUse with
  | nil => rfl
  | cons letter rest => rfl

theorem selectFree_eq_ok_iff :
    n.selectFree inUse = .ok p ↔
      ∃ letter rest, n.freeLetters inUse = letter :: rest ∧ p = DeviceNaming.slot n letter := by
  rw [selectFree_eq]
  cases n.freeLetters inUse with
  | nil => simp
  | cons letter rest => simp [eq_comm]

theorem listed_of_freeLetters_eq {rest : List Char} (h : n.freeLetters inUse = letter :: rest) :
    letter ∈ slotLetters ∧ n.IsFree inUse letter := by
  apply mem_freeLetters_iff.mp
  rw [h]
  exact List.mem_cons_self

/-- A slot that is chosen is translated, and neither of its two names is in use. -/
theorem selectFree_names (h : n.selectFree inUse = .ok p) :
    ∃ device requested kernel, n.expected p = .ok device ∧
      p.fileName? = some requested ∧ device.fileName? = some kernel ∧
      requested ∉ inUse ∧ kernel ∉ inUse := by
  obtain ⟨letter, rest, free, rfl⟩ := selectFree_eq_ok_iff.mp h
  obtain ⟨listed, unrequested, unseen⟩ := listed_of_freeLetters_eq free
  exact ⟨_, _, _, expected_slot listed, fileName?_slot listed,
    DevicePath.fileName?_under n.root (entry_kernelName listed), unrequested, unseen⟩

/-- Chosen slots that are one slot are spelled alike. -/
theorem eq_of_selectFree_equiv (hp : n.selectFree inUse = .ok p)
    (hq : n.selectFree second = .ok q) (same : p ≈ q) : p = q := by
  obtain ⟨a, _, first, rfl⟩ := selectFree_eq_ok_iff.mp hp
  obtain ⟨b, _, latter, rfl⟩ := selectFree_eq_ok_iff.mp hq
  have letters := (slot_equiv_slot_iff (listed_of_freeLetters_eq first).1
    (listed_of_freeLetters_eq latter).1).mp same
  rw [letters]

/-! ### The lowest free letter -/

/-- The lowest letter from a to z of which neither name is in use. -/
structure IsLowestFree (n : Naming) (inUse : NameSet) (letter : Char) : Prop where
  ranges : 'a' ≤ letter ∧ letter ≤ 'z'
  unrequested : requestedName letter ∉ inUse
  unseen : n.kernelName letter ∉ inUse
  lowest : ∀ other, 'a' ≤ other → other < letter →
    requestedName other ∈ inUse ∨ n.kernelName other ∈ inUse

/-- A letter that is not free is taken by one name or the other. -/
theorem not_isFree_iff :
    ¬ n.IsFree inUse letter ↔ requestedName letter ∈ inUse ∨ n.kernelName letter ∈ inUse := by
  rw [IsFree, not_and_or, not_not, not_not]

/-- The first of the free letters is the lowest one. -/
theorem exists_freeLetters_eq_cons_iff :
    (∃ rest, n.freeLetters inUse = letter :: rest) ↔ n.IsLowestFree inUse letter := by
  constructor
  · intro h
    obtain ⟨rest, first⟩ := h
    obtain ⟨listed, unrequested, unseen⟩ := listed_of_freeLetters_eq first
    have ranges := mem_slotLetters_iff.mp listed
    refine ⟨ranges, unrequested, unseen, ?_⟩
    intro other low below
    apply not_isFree_iff.mp
    intro free
    have inside : other ∈ n.freeLetters inUse :=
      mem_freeLetters_iff.mpr
        ⟨mem_slotLetters_iff.mpr
            ⟨low, Char.le_trans (Char.not_lt.mp (Char.lt_asymm below)) ranges.2⟩,
          free⟩
    have ascending : (letter :: rest).Pairwise (· < ·) := first ▸ freeLetters_ascending
    rw [first] at inside
    rcases List.mem_cons.mp inside with same | after
    · exact absurd (same ▸ below) (Char.lt_irrefl letter)
    · exact Char.lt_asymm below ((List.pairwise_cons.mp ascending).1 other after)
  · intro h
    have inside : letter ∈ n.freeLetters inUse :=
      mem_freeLetters_iff.mpr ⟨mem_slotLetters_iff.mpr h.ranges, h.unrequested, h.unseen⟩
    obtain ⟨first, rest, whole⟩ := List.exists_cons_of_ne_nil (List.ne_nil_of_mem inside)
    have ascending : (first :: rest).Pairwise (· < ·) := whole ▸ freeLetters_ascending
    obtain ⟨listed, free⟩ := listed_of_freeLetters_eq whole
    rw [whole] at inside
    rcases List.mem_cons.mp inside with rfl | after
    · exact ⟨rest, whole⟩
    · have below := (List.pairwise_cons.mp ascending).1 letter after
      have taken := h.lowest first (mem_slotLetters_iff.mp listed).1 below
      exact absurd free (not_isFree_iff.mpr taken)

/-! ### Names that take no slot

A name that looks like that of a slot may miss it by a character.  What such a name looks
like is said here without the two names that a slot has. -/

/-- A name that belongs to no slot: it has more letters than one or none, it has a character
that is no lower-case letter, or it is of no family at all. -/
inductive TakesNothing (n : Naming) : String → Prop where
  | suffix {family letters : String}
      (known : family = requestedFamily ∨ family = n.scheme.kernelFamily)
      (many : letters.length ≠ 1) : TakesNothing n (family ++ letters)
  | character {name : String} {c : Char} (inside : c ∈ name.toList)
      (other : c.isLower = false) : TakesNothing n name
  | family {name : String} (unrequested : ∀ rest, name ≠ requestedFamily ++ rest)
      (unseen : ∀ rest, name ≠ n.scheme.kernelFamily ++ rest) : TakesNothing n name

/-- Such a name is neither name of any slot. -/
theorem TakesNothing.ne_names {name : String} (miss : n.TakesNothing name)
    (listed : letter ∈ slotLetters) : name ≠ requestedName letter ∧ name ≠ n.kernelName letter := by
  have single : (String.singleton letter).length = 1 := by simp
  cases miss with
  | @suffix family letters known many =>
      have same : ∀ other : String, family ++ letters = other ++ String.singleton letter →
          family ≠ other := by
        rintro other whole rfl
        exact many ((String.append_right_inj family).mp whole ▸ single)
      cases hscheme : n.scheme with
      | identity =>
          rw [hscheme] at known
          have requested : family = requestedFamily := known.elim id id
          unfold kernelName
          rw [hscheme]
          exact ⟨fun whole => same _ whole requested, fun whole => same _ whole requested⟩
      | xen =>
          rw [hscheme] at known
          unfold kernelName
          rw [hscheme]
          rcases known with rfl | rfl
          · exact ⟨fun whole => same _ whole rfl, requestedFamily_append_ne _ _⟩
          · exact ⟨(requestedFamily_append_ne _ _).symm, fun whole => same _ whole rfl⟩
  | @character _ c inside other =>
      have lower : ∀ family : String, (∀ d ∈ family.toList, d.isLower = true) →
          name ≠ family ++ String.singleton letter := by
        rintro family ofFamily rfl
        rw [String.toList_append, List.mem_append] at inside
        rcases inside with inside | inside
        · simp [ofFamily c inside] at other
        · simp [(isSlotLetters_singleton letter listed).2 c inside] at other
      exact ⟨lower _ requestedFamily_lower, lower _ n.scheme.kernelFamily_lower⟩
  | family unrequested unseen => exact ⟨unrequested _, unseen _⟩

/-- A choice depends on nothing but the names of the slots. -/
theorem selectFree_congr
    (same : ∀ name, (name ∈ second ↔ name ∈ inUse) ∨ n.TakesNothing name) :
    n.selectFree second = n.selectFree inUse := by
  have free : n.freeLetters second = n.freeLetters inUse := by
    apply List.filter_congr
    intro letter listed
    have requested : requestedName letter ∈ second ↔ requestedName letter ∈ inUse :=
      (same _).resolve_right fun miss => (miss.ne_names listed).1 rfl
    have kernel : n.kernelName letter ∈ second ↔ n.kernelName letter ∈ inUse :=
      (same _).resolve_right fun miss => (miss.ne_names listed).2 rfl
    exact decide_eq_decide.mpr (and_congr (not_congr requested) (not_congr kernel))
  rw [selectFree_eq, selectFree_eq, free]

/-- Where the kernel keeps the requested names, a name of the other family takes nothing. -/
theorem takesNothing_of_identity (keeps : n.scheme = .identity) (rest : String) :
    n.TakesNothing (Scheme.xen.kernelFamily ++ rest) := by
  apply TakesNothing.family
  · exact fun other => (requestedFamily_append_ne other rest).symm
  · rw [keeps]
    exact fun other => (requestedFamily_append_ne other rest).symm

/-- A choice gives the slot of the lowest letter from a to z of which neither name is in use.
It fails exactly if each of these letters has a name in use.  Names that belong to no slot
play no part in it, and those of the family `xvd` play none where the kernel keeps the
requested names. -/
theorem selectFree_lowest (n : Naming) (inUse : NameSet) :
    (∀ p, n.selectFree inUse = .ok p ↔
      ∃ letter, n.IsLowestFree inUse letter ∧
        p = n.root.under (requestedFamily ++ String.singleton letter)) ∧
    (n.selectFree inUse = .error .allTaken ↔
      ∀ letter, 'a' ≤ letter → letter ≤ 'z' →
        requestedName letter ∈ inUse ∨ n.kernelName letter ∈ inUse) ∧
    (∀ second : NameSet, (∀ name, (name ∈ second ↔ name ∈ inUse) ∨ n.TakesNothing name) →
      n.selectFree second = n.selectFree inUse) ∧
    (n.scheme = .identity → ∀ rest, n.TakesNothing (Scheme.xen.kernelFamily ++ rest)) := by
  refine ⟨?_, ?_, fun second => selectFree_congr, takesNothing_of_identity⟩
  · intro p
    simp only [selectFree_eq_ok_iff, ← exists_freeLetters_eq_cons_iff, exists_and_right]
    rfl
  · have none : n.selectFree inUse = .error .allTaken ↔ n.freeLetters inUse = [] := by
      rw [selectFree_eq]
      cases n.freeLetters inUse <;> simp
    rw [none, freeLetters_eq_nil_iff]
    constructor
    · intro taken letter low high
      exact not_isFree_iff.mp (taken letter (mem_slotLetters_iff.mpr ⟨low, high⟩))
    · intro taken letter listed
      obtain ⟨low, high⟩ := mem_slotLetters_iff.mp listed
      exact not_isFree_iff.mpr (taken letter low high)

/-- Beside a requested name and a kernel name, four names that miss a slot change nothing. -/
theorem selectFree_lowest_of_near_misses :
    let n : Naming := {}
    let inUse := NameSet.ofList ["sda", "xvdb"]
    let more := NameSet.ofList ["sda", "xvdb", "sdca", "xvdc1", "sdC", "nvmec"]
    n.selectFree inUse = .ok ⟨"/dev/sdc"⟩ ∧ n.selectFree more = .ok ⟨"/dev/sdc"⟩ ∧
      Naming.TakesNothing ⟨.identity, ⟨"/dev"⟩⟩ "xvdb" := by
  intro n inUse more
  have chosen : n.selectFree inUse = .ok ⟨"/dev/sdc"⟩ := by decide +kernel
  have misses : ∀ name, (name ∈ more ↔ name ∈ inUse) ∨ n.TakesNothing name := by
    intro name
    by_cases added : name ∈ ["sdca", "xvdc1", "sdC", "nvmec"]
    · right
      simp only [List.mem_cons, List.not_mem_nil, or_false] at added
      rcases added with rfl | rfl | rfl | rfl
      · exact @TakesNothing.suffix n "sd" "ca" (.inl rfl) (by decide)
      · exact @TakesNothing.character n "xvdc1" '1' (by decide) rfl
      · exact @TakesNothing.character n "sdC" 'C' (by decide) rfl
      · refine .family (fun rest same => ?_) (fun rest same => ?_)
        · have first : _ = ("sd" ++ rest).toList.head? := congrArg (·.toList.head?) same
          simp at first
        · have first : _ = ("xvd" ++ rest).toList.head? := congrArg (·.toList.head?) same
          simp at first
    · left
      simp only [more, inUse, NameSet.mem_ofList]
      simp only [List.mem_cons, List.not_mem_nil, or_false, not_or] at added ⊢
      tauto
  obtain ⟨-, -, unmoved, -⟩ := selectFree_lowest n inUse
  obtain ⟨-, -, -, keeps⟩ := selectFree_lowest ⟨.identity, ⟨"/dev"⟩⟩ inUse
  exact ⟨chosen, (unmoved more misses).trans chosen, keeps rfl "b"⟩

end Naming
end VolumeAttach
