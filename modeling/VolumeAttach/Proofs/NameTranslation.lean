/-
Module: VolumeAttach.Proofs.NameTranslation
Purpose: Which paths are translated into what, and that slots and device files
  belong together one by one.
Main exports: IsSlotLetters, Naming.lettersOf_eq_ok_iff, Naming.rename, Naming.expected_eq_ok,
  Naming.equiv_of_expected_equiv, Naming.expected_requested_bijective, Naming.Translates,
  Naming.expected_requested_translate
-/
import VolumeAttach.Proofs.DevicePaths
import VolumeAttach.Slot.Naming

namespace VolumeAttach

/-! ### Names of a family -/

/-- What may follow the family in a name that is translated. -/
def IsSlotLetters (letters : String) : Prop :=
  letters ≠ "" ∧ ∀ c ∈ letters.toList, c.isLower = true

/-- A name of lower-case letters is one step of a path. -/
theorem isEntryName_of_lower {name : String} (ne : name ≠ "")
    (lower : ∀ c ∈ name.toList, c.isLower = true) : IsEntryName name := by
  refine ⟨ne, ?_, ?_, ?_⟩
  · rintro rfl
    exact absurd (lower '.' (by decide)) (by decide)
  · rintro rfl
    exact absurd (lower '.' (by decide)) (by decide)
  · intro slash
    exact absurd (lower '/' slash) (by decide)

/-- Letters behind a family of lower-case letters make one step of a path. -/
theorem IsSlotLetters.isEntryName {letters : String} (slot : IsSlotLetters letters)
    {family : String} (lower : ∀ c ∈ family.toList, c.isLower = true) :
    IsEntryName (family ++ letters) := by
  obtain ⟨ne, all⟩ := slot
  apply isEntryName_of_lower
  · intro empty
    exact ne (String.append_eq_empty_iff.mp empty).2
  · intro c hc
    rw [String.toList_append, List.mem_append] at hc
    rcases hc with hc | hc
    · exact lower c hc
    · exact all c hc

/-- The requested family is made of lower-case letters. -/
theorem requestedFamily_lower : ∀ c ∈ requestedFamily.toList, c.isLower = true :=
  List.all_eq_true.mp rfl

/-- So is every family that a kernel shows. -/
theorem Scheme.kernelFamily_lower (scheme : Scheme) :
    ∀ c ∈ scheme.kernelFamily.toList, c.isLower = true := by
  cases scheme with
  | xen => exact List.all_eq_true.mp rfl
  | identity => exact requestedFamily_lower

/-- What is left behind a beginning. -/
theorem isPrefixOf?_eq_some_iff {front whole rest : List Char} :
    front.isPrefixOf? whole = some rest ↔ whole = front ++ rest := by
  induction front generalizing whole with
  | nil => simp [List.isPrefixOf?]
  | cons c front ih =>
      cases whole with
      | nil => simp [List.isPrefixOf?]
      | cons d whole =>
          by_cases same : c = d
          · subst same
            simp [List.isPrefixOf?, ih]
          · simp [List.isPrefixOf?, same, Ne.symm same]

/-- The letters of a name in a family are what follows the family. -/
theorem familyLetters?_eq_some_iff {family name letters : String} :
    familyLetters? family name = some letters ↔
      name = family ++ letters ∧ IsSlotLetters letters := by
  have after : ∀ cs, lettersAfter? family.toList name.toList = some cs ↔
      name.toList = family.toList ++ cs ∧ cs ≠ [] ∧ cs.all Char.isLower = true := by
    intro cs
    unfold lettersAfter?
    cases h : family.toList.isPrefixOf? name.toList with
    | none =>
        have other : name.toList ≠ family.toList ++ cs := by
          intro e
          rw [isPrefixOf?_eq_some_iff.mpr e] at h
          cases h
        simp [other]
    | some rest =>
        have whole := isPrefixOf?_eq_some_iff.mp h
        simp only [whole, List.append_cancel_left_eq]
        split <;> grind
  constructor
  · intro h
    obtain ⟨cs, hcs, rfl⟩ := Option.map_eq_some_iff.mp h
    obtain ⟨whole, ne, lower⟩ := (after cs).mp hcs
    refine ⟨String.toList_inj.mp ?_, ?_, ?_⟩
    · rw [String.toList_append, String.toList_ofList, whole]
    · intro empty
      exact ne (by simpa using congrArg String.toList empty)
    · rw [String.toList_ofList]
      exact List.all_eq_true.mp lower
  · rintro ⟨rfl, ne, lower⟩
    refine Option.map_eq_some_iff.mpr ⟨letters.toList, (after _).mpr ⟨?_, ?_, ?_⟩, ?_⟩
    · rw [String.toList_append]
    · exact fun empty => ne (String.toList_inj.mp empty)
    · exact List.all_eq_true.mpr lower
    · rw [String.ofList_toList]

/-! ### Paths that are translated -/

namespace Naming

variable {n : Naming} {family source target letters : String} {p q e f : DevicePath}

/-- A path that is not directly below the root has letters in no family. -/
theorem lettersOf_of_outside
    (outside : ¬ ∃ parent, p.parent? = some parent ∧ parent ≈ n.root) :
    n.lettersOf family p = .error ⟨p, .outsideRoot n.root⟩ := by
  unfold lettersOf
  cases hparent : p.parent? with
  | none => rfl
  | some parent =>
      have elsewhere : ¬ parent ≈ n.root := fun below => outside ⟨parent, hparent, below⟩
      simp only [if_neg elsewhere]

/-- Directly below the root the letters of a path are those of its name. -/
theorem lettersOf_of_below {parent : DevicePath} (hparent : p.parent? = some parent)
    (below : parent ≈ n.root) :
    n.lettersOf family p =
      match p.fileName?.bind (familyLetters? family) with
      | some letters => .ok letters
      | none => .error ⟨p, .unrecognisedFamily family⟩ := by
  unfold lettersOf
  simp only [hparent]
  exact if_pos below

/-- A path has letters in a family exactly if it is the entry of the root that the family
and the letters name. -/
theorem lettersOf_eq_ok_iff :
    n.lettersOf family p = .ok letters ↔
      p.components = n.root.components ++ [.name (family ++ letters)] ∧
        IsSlotLetters letters := by
  constructor
  · intro h
    by_cases below : ∃ parent, p.parent? = some parent ∧ parent ≈ n.root
    · obtain ⟨parent, hparent, same⟩ := below
      rw [lettersOf_of_below hparent same] at h
      split at h
      · rename_i found hfound
        cases h
        obtain ⟨name, hname, hletters⟩ := Option.bind_eq_some_iff.mp hfound
        obtain ⟨rfl, slot⟩ := familyLetters?_eq_some_iff.mp hletters
        exact ⟨DevicePath.splits_iff.mp ⟨hname, parent, hparent, same⟩, slot⟩
      · cases h
    · rw [lettersOf_of_outside below] at h
      cases h
  · intro h
    obtain ⟨whole, slot⟩ := h
    obtain ⟨named, parent, hparent, below⟩ := DevicePath.splits_iff.mpr whole
    have spelled : familyLetters? family (family ++ letters) = some letters :=
      familyLetters?_eq_some_iff.mpr ⟨rfl, slot⟩
    rw [lettersOf_of_below hparent below]
    simp only [named, Option.bind_some, spelled]

/-- The spelling of a path plays no part: of two spellings both have the same letters, or
both are rejected for the same reason. -/
theorem lettersOf_congr (n : Naming) (family : String) (same : p ≈ q) :
    (∃ letters, n.lettersOf family p = .ok letters ∧ n.lettersOf family q = .ok letters) ∨
    (∃ fault, n.lettersOf family p = .error ⟨p, fault⟩ ∧
      n.lettersOf family q = .error ⟨q, fault⟩) := by
  have place : (∃ parent, p.parent? = some parent ∧ parent ≈ n.root) ↔
      ∃ parent, q.parent? = some parent ∧ parent ≈ n.root := by
    rw [DevicePath.parent?_equiv_iff, DevicePath.parent?_equiv_iff, DevicePath.equiv_iff.mp same]
  by_cases below : ∃ parent, p.parent? = some parent ∧ parent ≈ n.root
  · obtain ⟨first, hfirst, near⟩ := below
    obtain ⟨second, hsecond, too⟩ := place.mp ⟨first, hfirst, near⟩
    rw [lettersOf_of_below hfirst near, lettersOf_of_below hsecond too,
      DevicePath.fileName?_congr same]
    cases q.fileName?.bind (familyLetters? family) with
    | some letters => exact .inl ⟨letters, rfl, rfl⟩
    | none => exact .inr ⟨_, rfl, rfl⟩
  · rw [lettersOf_of_outside below, lettersOf_of_outside (fun there => below (place.mpr there))]
    exact .inr ⟨_, rfl, rfl⟩

/-! ### Another family with the same letters

Both directions of the translation put one family in place of another. -/

/-- The path with the same letters in another family. -/
def rename (n : Naming) (source target : String) (path : DevicePath) :
    Except NameError DevicePath :=
  (n.lettersOf source path).map (n.device target)

theorem expected_eq_rename (n : Naming) :
    n.expected = n.rename requestedFamily n.scheme.kernelFamily := rfl

theorem requested_eq_rename (n : Naming) :
    n.requested = n.rename n.scheme.kernelFamily requestedFamily := rfl

/-- What is renamed is an entry of the root, and so is what it becomes. -/
theorem rename_eq_ok (h : n.rename source target p = .ok e) :
    ∃ letters, IsSlotLetters letters ∧
      p.components = n.root.components ++ [.name (source ++ letters)] ∧
      e = n.device target letters := by
  unfold rename at h
  cases hletters : n.lettersOf source p with
  | error cause =>
      rw [hletters] at h
      cases h
  | ok letters =>
      rw [hletters] at h
      obtain ⟨whole, slot⟩ := lettersOf_eq_ok_iff.mp hletters
      exact ⟨letters, slot, whole, (Except.ok.inj h).symm⟩

/-- The device file of any letters is renamed. -/
theorem rename_device (slot : IsSlotLetters letters)
    (lower : ∀ c ∈ source.toList, c.isLower = true) :
    n.rename source target (n.device source letters) = .ok (n.device target letters) := by
  have found : n.lettersOf source (n.device source letters) = .ok letters :=
    lettersOf_eq_ok_iff.mpr ⟨DevicePath.components_under n.root (slot.isEntryName lower), slot⟩
  rw [rename, found]
  rfl

/-- Renaming back gives the path again, though perhaps in another spelling. -/
theorem rename_rename (h : n.rename source target p = .ok e)
    (from_lower : ∀ c ∈ source.toList, c.isLower = true)
    (to_lower : ∀ c ∈ target.toList, c.isLower = true) :
    ∃ back, n.rename target source e = .ok back ∧ back ≈ p := by
  obtain ⟨letters, slot, whole, rfl⟩ := rename_eq_ok h
  refine ⟨n.device source letters, rename_device slot to_lower, ?_⟩
  rw [DevicePath.equiv_iff, whole]
  exact DevicePath.components_under n.root (slot.isEntryName from_lower)

/-- Paths that are renamed alike are one path. -/
theorem equiv_of_rename_equiv (hp : n.rename source target p = .ok e)
    (hq : n.rename source target q = .ok f) (same : e ≈ f)
    (to_lower : ∀ c ∈ target.toList, c.isLower = true) : p ≈ q := by
  obtain ⟨a, slotA, wholeP, rfl⟩ := rename_eq_ok hp
  obtain ⟨b, slotB, wholeQ, rfl⟩ := rename_eq_ok hq
  have names : target ++ a = target ++ b :=
    (DevicePath.under_equiv_under_iff n.root (slotA.isEntryName to_lower)
      (slotB.isEntryName to_lower)).mp same
  have letters : a = b := (String.append_right_inj target).mp names
  rw [DevicePath.equiv_iff, wholeP, wholeQ, letters]

/-- Two spellings of one path are renamed alike or rejected alike. -/
theorem rename_congr (same : p ≈ q) :
    (∃ e, n.rename source target p = .ok e ∧ n.rename source target q = .ok e) ∨
    (∃ fault, n.rename source target p = .error ⟨p, fault⟩ ∧
      n.rename source target q = .error ⟨q, fault⟩) := by
  unfold rename
  rcases lettersOf_congr n source same with
    ⟨letters, first, second⟩ | ⟨fault, first, second⟩
  · rw [first, second]
    exact .inl ⟨_, rfl, rfl⟩
  · rw [first, second]
    exact .inr ⟨fault, rfl, rfl⟩

/-- A slot that is translated is an entry of the root, and so is its device file,
in the kernel's family and with the same letters. -/
theorem expected_eq_ok (h : n.expected p = .ok e) :
    ∃ letters, IsSlotLetters letters ∧
      p.components = n.root.components ++ [.name (requestedFamily ++ letters)] ∧
      e = n.device n.scheme.kernelFamily letters := by
  rw [expected_eq_rename] at h
  exact rename_eq_ok h

/-- The name of the device file that the kernel shows. -/
theorem fileName?_of_expected (h : n.expected p = .ok e) :
    ∃ name, IsEntryName name ∧ e = n.root.under name ∧ e.fileName? = some name := by
  obtain ⟨letters, slot, -, rfl⟩ := expected_eq_ok h
  have entry := slot.isEntryName n.scheme.kernelFamily_lower
  exact ⟨_, entry, rfl, DevicePath.fileName?_under n.root entry⟩

/-- Slots that are shown as one device file are one slot. -/
theorem equiv_of_expected_equiv (hp : n.expected p = .ok e) (hq : n.expected q = .ok f)
    (same : e ≈ f) : p ≈ q := by
  rw [expected_eq_rename] at hp hq
  exact equiv_of_rename_equiv hp hq same n.scheme.kernelFamily_lower

/-! ### Both directions -/

/-- Slots and the device files that the kernel shows belong together one by one.  Each
direction of the translation undoes the other, up to the spelling of the path; slots that
are shown as one device file are one slot; and two spellings of one path are translated
alike, or both are rejected for the same reason. -/
theorem expected_requested_bijective (n : Naming) (p q : DevicePath) :
    (∀ e, n.expected p = .ok e → ∃ back, n.requested e = .ok back ∧ back ≈ p) ∧
    (∀ slot, n.requested p = .ok slot → ∃ back, n.expected slot = .ok back ∧ back ≈ p) ∧
    (∀ e f, n.expected p = .ok e → n.expected q = .ok f → e ≈ f → p ≈ q) ∧
    (p ≈ q →
      ((∃ e, n.expected p = .ok e ∧ n.expected q = .ok e) ∨
        ∃ fault, n.expected p = .error ⟨p, fault⟩ ∧ n.expected q = .error ⟨q, fault⟩) ∧
      ((∃ slot, n.requested p = .ok slot ∧ n.requested q = .ok slot) ∨
        ∃ fault, n.requested p = .error ⟨p, fault⟩ ∧ n.requested q = .error ⟨q, fault⟩)) := by
  have kernel := n.scheme.kernelFamily_lower
  rw [expected_eq_rename, requested_eq_rename]
  refine ⟨?_, ?_, ?_, ?_⟩
  · intro e h
    exact rename_rename h requestedFamily_lower kernel
  · intro slot h
    exact rename_rename h kernel requestedFamily_lower
  · intro e f hp hq same
    exact equiv_of_rename_equiv hp hq same kernel
  · intro same
    exact ⟨rename_congr same, rename_congr same⟩

/-- Below a root with a dot and a slash at its end, from a slot with too many slashes. -/
theorem expected_requested_of_spellings :
    let n : Naming := ⟨.xen, ⟨"/dev/./"⟩⟩
    let spelled : DevicePath := ⟨"//dev/sdab/"⟩
    let plain : DevicePath := ⟨"/dev/sdab"⟩
    let seen : DevicePath := ⟨"/dev/./xvdab"⟩
    (n.expected spelled = .ok seen ∧ ∃ back, n.requested seen = .ok back ∧ back ≈ spelled) ∧
    (n.requested seen = .ok ⟨"/dev/./sdab"⟩ ∧
      ∃ back, n.expected ⟨"/dev/./sdab"⟩ = .ok back ∧ back ≈ seen) ∧
    (n.expected plain = .ok seen ∧ spelled ≈ plain) ∧
    ∃ e, n.expected spelled = .ok e ∧ n.expected plain = .ok e := by
  intro n spelled plain seen
  have translated : n.expected spelled = .ok seen := by decide +kernel
  have too : n.expected plain = .ok seen := by decide +kernel
  have returns : n.requested seen = .ok ⟨"/dev/./sdab"⟩ := by decide +kernel
  obtain ⟨back, -, injective, spelling⟩ := expected_requested_bijective n spelled plain
  obtain ⟨-, forth, -, -⟩ := expected_requested_bijective n seen seen
  have same : spelled ≈ plain := injective seen seen translated too (Setoid.refl seen)
  refine ⟨⟨translated, back seen translated⟩, ⟨returns, forth _ returns⟩, ⟨too, same⟩, ?_⟩
  rcases (spelling same).1 with alike | ⟨fault, rejected, -⟩
  · exact alike
  · rw [translated] at rejected
    cases rejected

/-! ### Which paths are rejected, and why

The directory of a path is looked at before its name.  A path in the wrong place is told so
even if its name is wrong as well, and a path in the right place can only have a wrong name. -/

/-- What is rejected is outside the root exactly if no parent of it is the root. -/
theorem lettersOf_eq_outsideRoot_iff :
    n.lettersOf family p = .error ⟨p, .outsideRoot n.root⟩ ↔
      p.parent? = none ∨
        ∃ parent, p.parent? = some parent ∧ parent.components ≠ n.root.components := by
  cases hparent : p.parent? with
  | none =>
      have outside : ¬ ∃ parent, p.parent? = some parent ∧ parent ≈ n.root := by
        simp [hparent]
      simp [lettersOf_of_outside outside]
  | some parent =>
      by_cases below : parent ≈ n.root
      · have same : parent.components = n.root.components := below
        rw [lettersOf_of_below hparent below]
        cases p.fileName?.bind (familyLetters? family) <;> simp [same]
      · have elsewhere : parent.components ≠ n.root.components := below
        have outside : ¬ ∃ parent, p.parent? = some parent ∧ parent ≈ n.root := by
          rw [hparent]
          simpa using below
        simp [lettersOf_of_outside outside, elsewhere]

/-- A path that is rejected is outside the root or has no name of the family. -/
theorem lettersOf_eq_error {cause : NameError} (h : n.lettersOf family p = .error cause) :
    cause = ⟨p, .outsideRoot n.root⟩ ∨ cause = ⟨p, .unrecognisedFamily family⟩ := by
  by_cases below : ∃ parent, p.parent? = some parent ∧ parent ≈ n.root
  · obtain ⟨parent, hparent, same⟩ := below
    rw [lettersOf_of_below hparent same] at h
    split at h
    · cases h
    · exact .inr (Except.error.inj h).symm
  · rw [lettersOf_of_outside below] at h
    exact .inl (Except.error.inj h).symm

/-- What is rejected has no name of the family exactly if it is in the right place and is none
of the entries that the family names. -/
theorem lettersOf_eq_unrecognisedFamily_iff :
    n.lettersOf family p = .error ⟨p, .unrecognisedFamily family⟩ ↔
      (∃ parent, p.parent? = some parent ∧ parent.components = n.root.components) ∧
        ∀ letters, IsSlotLetters letters →
          p.components ≠ n.root.components ++ [.name (family ++ letters)] := by
  constructor
  · intro wrong
    constructor
    · by_contra elsewhere
      rw [lettersOf_of_outside elsewhere] at wrong
      cases wrong
    · intro letters slot whole
      rw [lettersOf_eq_ok_iff.mpr ⟨whole, slot⟩] at wrong
      cases wrong
  · intro h
    obtain ⟨⟨parent, hparent, same⟩, unnamed⟩ := h
    cases answer : n.lettersOf family p with
    | ok letters =>
        obtain ⟨whole, slot⟩ := lettersOf_eq_ok_iff.mp answer
        exact absurd whole (unnamed letters slot)
    | error cause =>
        rcases lettersOf_eq_error answer with rfl | rfl
        · rcases lettersOf_eq_outsideRoot_iff.mp answer with none | ⟨other, hother, differ⟩
          · rw [hparent] at none
            cases none
          · rw [hparent] at hother
            exact absurd (Option.some.inj hother ▸ same) differ
        · rfl

theorem rename_eq_ok_iff :
    n.rename source target p = .ok e ↔
      ∃ letters, IsSlotLetters letters ∧
        p.components = n.root.components ++ [.name (source ++ letters)] ∧
        e = n.root.under (target ++ letters) := by
  constructor
  · exact rename_eq_ok
  · intro h
    obtain ⟨letters, slot, whole, rfl⟩ := h
    rw [rename, lettersOf_eq_ok_iff.mpr ⟨whole, slot⟩]
    rfl

theorem rename_eq_error_iff {cause : NameError} :
    n.rename source target p = .error cause ↔ n.lettersOf source p = .error cause := by
  unfold rename
  cases n.lettersOf source p <;> simp [Except.map]

/-- An exact translation of the letters of one family into the same letters of another. -/
structure Translates (n : Naming) (source target : String)
    (translate : DevicePath → Except NameError DevicePath) (p : DevicePath) : Prop where
  /-- An entry of the root with letters of the one family is translated, and nothing else. -/
  accepted : ∀ e, translate p = .ok e ↔
    ∃ letters, IsSlotLetters letters ∧
      p.components = n.root.components ++ [.name (source ++ letters)] ∧
      e = n.root.under (target ++ letters)
  /-- A path is told to be in the wrong place exactly if its parent is not the root. -/
  outside : translate p = .error ⟨p, .outsideRoot n.root⟩ ↔
    p.parent? = none ∨
      ∃ parent, p.parent? = some parent ∧ parent.components ≠ n.root.components
  /-- It is told to have a wrong name in every other case. -/
  unrecognised : translate p = .error ⟨p, .unrecognisedFamily source⟩ ↔
    (∃ parent, p.parent? = some parent ∧ parent.components = n.root.components) ∧
      ∀ letters, IsSlotLetters letters →
        p.components ≠ n.root.components ++ [.name (source ++ letters)]
  /-- No path is rejected in another way. -/
  answered : (∃ e, translate p = .ok e) ∨
    translate p = .error ⟨p, .outsideRoot n.root⟩ ∨
    translate p = .error ⟨p, .unrecognisedFamily source⟩

/-- Another family with the same letters is an exact translation. -/
theorem rename_translates (n : Naming) (source target : String) (p : DevicePath) :
    n.Translates source target (n.rename source target) p where
  accepted _ := rename_eq_ok_iff
  outside := rename_eq_error_iff.trans lettersOf_eq_outsideRoot_iff
  unrecognised := rename_eq_error_iff.trans lettersOf_eq_unrecognisedFamily_iff
  answered := by
    cases answer : n.rename source target p with
    | ok e => exact .inl ⟨e, rfl⟩
    | error cause =>
        rcases lettersOf_eq_error (rename_eq_error_iff.mp answer) with rfl | rfl
        · exact .inr (.inl rfl)
        · exact .inr (.inr rfl)

/-- Both directions of the translation are exact: from the requested family into the
kernel's, and back.  A path keeps its text in every rejection. -/
theorem expected_requested_translate (n : Naming) (p : DevicePath) :
    n.Translates requestedFamily n.scheme.kernelFamily n.expected p ∧
      n.Translates n.scheme.kernelFamily requestedFamily n.requested p :=
  ⟨n.rename_translates requestedFamily n.scheme.kernelFamily p,
    n.rename_translates n.scheme.kernelFamily requestedFamily p⟩

/-- Two dots are no name, and the letters of a family are ASCII letters. -/
example :
    let n : Naming := {}
    n.expected ⟨"/dev/.."⟩ = .error ⟨⟨"/dev/.."⟩, .unrecognisedFamily "sd"⟩ ∧
    n.expected ⟨"/dev/sdé"⟩ = .error ⟨⟨"/dev/sdé"⟩, .unrecognisedFamily "sd"⟩ ∧
    n.expected ⟨"/"⟩ = .error ⟨⟨"/"⟩, .outsideRoot ⟨"/dev"⟩⟩ := by
  decide +kernel

end Naming
end VolumeAttach
