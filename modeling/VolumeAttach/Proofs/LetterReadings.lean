/-
Module: VolumeAttach.Proofs.LetterReadings
Purpose: The letters that are read off a bare name are those by which its path is translated.
Main exports: isEntryName_family_append, Naming.exists_rename_under_iff,
  Naming.slotLetters?_translated
-/
import VolumeAttach.Proofs.FreeSlots

namespace VolumeAttach

/-!
A choice of a slot reads letters off bare names and tries both families.  A translation is
given a path and tries one family only.  What joins the two views is the name of a path:
below the root a name has letters exactly if one of the two directions of the translation
accepts its path, and no slash in the letters can make another path of the result.
-/

/-- Whatever stands behind a family of lower-case letters makes one step of a path, if there
is no slash in it. -/
theorem isEntryName_family_append {family rest : String} (ne : family ≠ "")
    (lower : ∀ c ∈ family.toList, c.isLower = true) (noSlash : '/' ∉ rest.toList) :
    IsEntryName (family ++ rest) := by
  obtain ⟨first, others, hfamily⟩ : ∃ first others, family.toList = first :: others := by
    apply List.exists_cons_of_ne_nil
    intro empty
    exact ne (String.toList_inj.mp empty)
  have whole : (family ++ rest).toList = first :: (others ++ rest.toList) := by
    rw [String.toList_append, hfamily, List.cons_append]
  have letter : first.isLower = true := lower first (hfamily ▸ List.mem_cons_self)
  have noDot : first ≠ '.' := by
    rintro rfl
    exact absurd letter (by decide)
  refine ⟨?_, ?_, ?_, ?_⟩
  · intro empty
    exact ne (String.append_eq_empty_iff.mp empty).1
  · intro dot
    rw [dot] at whole
    exact noDot (List.cons.inj whole).1.symm
  · intro dots
    rw [dots] at whole
    exact noDot (List.cons.inj whole).1.symm
  · rw [String.toList_append, List.mem_append, not_or]
    refine ⟨?_, noSlash⟩
    intro slash
    exact absurd (lower '/' slash) (by decide)

namespace Naming

variable {n : Naming} {source target name letters : String}

/-- An entry of the root is renamed into the entry with given letters exactly if these are
its own letters in the family from which it is renamed. -/
theorem exists_rename_under_iff (entry : IsEntryName name)
    (renamed : IsEntryName (target ++ letters))
    (lower : ∀ c ∈ target.toList, c.isLower = true) :
    (∃ e, n.rename source target (n.root.under name) = .ok e ∧
        e ≈ n.root.under (target ++ letters)) ↔
      IsSlotLetters letters ∧ name = source ++ letters := by
  constructor
  · intro h
    obtain ⟨e, accepted, same⟩ := h
    obtain ⟨found, slot, whole, rfl⟩ := rename_eq_ok_iff.mp accepted
    have spelled : target ++ found = target ++ letters :=
      (DevicePath.under_equiv_under_iff n.root (slot.isEntryName lower) renamed).mp same
    obtain rfl := (String.append_right_inj target).mp spelled
    rw [DevicePath.components_under n.root entry] at whole
    have lasts := (List.append_cancel_left whole)
    exact ⟨slot, by simpa using lasts⟩
  · intro h
    obtain ⟨slot, rfl⟩ := h
    refine ⟨n.root.under (target ++ letters), ?_, Setoid.refl _⟩
    exact rename_eq_ok_iff.mpr
      ⟨letters, slot, DevicePath.components_under n.root entry, rfl⟩

/-- A slot that is translated has the letters that its device file has. -/
theorem slotLetters?_of_expected {p e : DevicePath} (h : n.expected p = .ok e) :
    ∃ slot device letters, p.fileName? = some slot ∧ e.fileName? = some device ∧
      n.slotLetters? slot = some letters ∧ n.slotLetters? device = some letters := by
  obtain ⟨letters, slot, whole, rfl⟩ := expected_eq_ok h
  refine ⟨requestedFamily ++ letters, n.scheme.kernelFamily ++ letters, letters, ?_, ?_, ?_, ?_⟩
  · simp [DevicePath.fileName?, whole]
  · exact DevicePath.fileName?_under n.root (slot.isEntryName n.scheme.kernelFamily_lower)
  · exact slotLetters?_eq_some_iff.mpr ⟨slot, .inr rfl⟩
  · exact slotLetters?_eq_some_iff.mpr ⟨slot, .inl rfl⟩

/-- The letters that are read off a name are those of the translation.  Below any root, a
name has given letters exactly if its path is translated into the kernel's device file with
these letters, or back into the requested slot with them; and a slot that is translated has
by its name the letters that its device file has by its own. -/
theorem slotLetters?_translated (n : Naming) :
    (∀ name letters : String, IsEntryName name → '/' ∉ letters.toList →
      (n.slotLetters? name = some letters ↔
        (∃ e, n.expected (n.root.under name) = .ok e ∧
          e ≈ n.root.under (n.scheme.kernelFamily ++ letters)) ∨
        (∃ slot, n.requested (n.root.under name) = .ok slot ∧
          slot ≈ n.root.under (requestedFamily ++ letters)))) ∧
    (∀ p e : DevicePath, n.expected p = .ok e →
      ∃ slot device letters, p.fileName? = some slot ∧ e.fileName? = some device ∧
        n.slotLetters? slot = some letters ∧ n.slotLetters? device = some letters) := by
  refine ⟨?_, fun p e h => slotLetters?_of_expected h⟩
  intro name letters entry noSlash
  have kernelNe : n.scheme.kernelFamily ≠ "" := by
    cases n.scheme <;> decide
  have requestedNe : requestedFamily ≠ "" := by decide
  have kernel := isEntryName_family_append kernelNe n.scheme.kernelFamily_lower noSlash
  have requested := isEntryName_family_append requestedNe requestedFamily_lower noSlash
  rw [expected_eq_rename, requested_eq_rename,
    exists_rename_under_iff entry kernel n.scheme.kernelFamily_lower,
    exists_rename_under_iff entry requested requestedFamily_lower, slotLetters?_eq_some_iff,
    and_or_left, or_comm]

/-- Below a relative root with a dot behind it, a name of the kernel's family has its letters
by way of the slot. -/
theorem slotLetters?_translated_of_dotted_root :
    let n : Naming := ⟨.xen, ⟨"dev/."⟩⟩
    (∃ slot, n.requested (n.root.under "xvdab") = .ok slot ∧
      slot ≈ n.root.under (requestedFamily ++ "ab")) ∧
    n.slotLetters? "xvdab" = some "ab" ∧
    ∃ slot device letters, DevicePath.fileName? ⟨"dev//sdq/"⟩ = some slot ∧
      DevicePath.fileName? ⟨"dev/./xvdq"⟩ = some device ∧
      n.slotLetters? slot = some letters ∧ n.slotLetters? device = some letters := by
  intro n
  obtain ⟨readings, alike⟩ := slotLetters?_translated n
  have back : n.requested (n.root.under "xvdab") = .ok (n.root.under "sdab") := by
    decide +kernel
  have reading := (readings "xvdab" "ab" (by decide) (by decide)).mpr
    (.inr ⟨_, back, Setoid.refl _⟩)
  have translated : n.expected ⟨"dev//sdq/"⟩ = .ok ⟨"dev/./xvdq"⟩ := by decide +kernel
  exact ⟨⟨_, back, Setoid.refl _⟩, reading, alike _ _ translated⟩

end Naming
end VolumeAttach
