/-
Module: VolumeAttach.Proofs.Trimming
Purpose: What is left of a text when the blanks around it are taken away.
Main exports: IsAllBlank, IsTrimmed, trimBlank_eq_iff, trim_eq_empty_iff
-/
import Mathlib.Data.List.DropRight
import VolumeAttach.Text.Blank

namespace VolumeAttach.Text

/-!
Trimming takes one end after the other.  Seen from its result it has no order: what is
left has no blank at either end, and only blanks stand around it.  A text has one such
part only, so trimming may be read off any way of putting the text together.
-/

variable {cs core front back : List Char} {s : String}

/-- Blanks and nothing else. -/
def IsAllBlank (cs : List Char) : Prop := ∀ c ∈ cs, isBlank c = true

instance (cs : List Char) : Decidable (IsAllBlank cs) := List.decidableBAll _ cs

/-- Neither the first nor the last character is a blank. -/
def IsTrimmed (cs : List Char) : Prop :=
  (∀ c, cs.head? = some c → isBlank c = false) ∧ ∀ c, cs.getLast? = some c → isBlank c = false

/-- A text without blanks has none at its ends. -/
theorem isTrimmed_of_forall (visible : ∀ c ∈ cs, isBlank c = false) : IsTrimmed cs :=
  ⟨fun c first => visible c (List.mem_of_mem_head? first),
    fun c last => visible c (List.mem_of_mem_getLast? last)⟩

/-- Trimming the end is Mathlib's way of dropping from the right. -/
theorem trimEnd_eq_rdropWhile (cs : List Char) : trimEnd cs = cs.rdropWhile isBlank := rfl

/-- Only blanks stand around what trimming leaves. -/
theorem exists_padding (cs : List Char) :
    ∃ front back, IsAllBlank front ∧ IsAllBlank back ∧ cs = front ++ trimBlank cs ++ back := by
  refine ⟨cs.takeWhile isBlank, (cs.dropWhile isBlank).rtakeWhile isBlank, ?_, ?_, ?_⟩
  · intro c hc
    exact List.mem_takeWhile_imp hc
  · intro c hc
    exact List.mem_rtakeWhile_imp hc
  · rw [trimBlank, trimEnd_eq_rdropWhile, List.append_assoc, List.rdropWhile_append_rtakeWhile,
      List.takeWhile_append_dropWhile]

/-- What trimming leaves has no blank at either end. -/
theorem isTrimmed_trimBlank (cs : List Char) : IsTrimmed (trimBlank cs) := by
  constructor
  · intro c first
    -- Trimming the end keeps a beginning, so the first character is that of the middle step.
    have kept : trimBlank cs <+: cs.dropWhile isBlank := List.rdropWhile_prefix isBlank _
    have head := List.head?_dropWhile_not isBlank cs
    obtain ⟨rest, whole⟩ := kept
    rw [← whole, List.head?_append, first] at head
    simpa using head
  · intro c last
    have ne : (cs.dropWhile isBlank).rdropWhile isBlank ≠ [] := by
      intro empty
      rw [trimBlank, trimEnd_eq_rdropWhile, empty] at last
      cases last
    have notBlank := List.rdropWhile_last_not isBlank _ ne
    have same : ((cs.dropWhile isBlank).rdropWhile isBlank).getLast ne = c :=
      Option.some.inj ((List.getLast?_eq_some_getLast ne).symm.trans last)
    rw [same] at notBlank
    simpa using notBlank

/-- Blanks around a text without blanks at its ends are trimmed. -/
theorem trimBlank_padded (before : IsAllBlank front) (behind : IsAllBlank back)
    (trimmed : IsTrimmed core) : trimBlank (front ++ core ++ back) = core := by
  have start : (front ++ core ++ back).dropWhile isBlank = (core ++ back).dropWhile isBlank := by
    rw [List.append_assoc]
    exact List.dropWhile_append_of_pos before
  rw [trimBlank, start, trimEnd]
  cases core with
  | nil =>
      have nothing : back.dropWhile isBlank = [] := List.dropWhile_eq_nil_iff.mpr behind
      rw [List.nil_append, nothing]
      rfl
  | cons first rest =>
      have visible : isBlank first = false := trimmed.1 first rfl
      rw [List.cons_append, List.dropWhile_cons_of_neg (by simp [visible]), ← List.cons_append,
        List.reverse_append,
        List.dropWhile_append_of_pos fun c hc => behind c (List.mem_reverse.mp hc)]
      -- The last character is the first one from behind, and it is no blank.
      obtain ⟨early, last, whole⟩ := List.eq_nil_or_concat (first :: rest) |>.resolve_left nofun
      have ends : isBlank last = false := trimmed.2 last (by simp [whole])
      rw [whole, List.concat_eq_append, List.reverse_append, List.reverse_singleton,
        List.singleton_append, List.dropWhile_cons_of_neg (by simp [ends])]
      simp

/-- What trimming leaves is the one part of the text without blanks at its ends that has
only blanks around it. -/
theorem trimBlank_eq_iff :
    trimBlank cs = core ↔
      IsTrimmed core ∧
        ∃ front back, IsAllBlank front ∧ IsAllBlank back ∧ cs = front ++ core ++ back := by
  constructor
  · intro same
    subst same
    exact ⟨isTrimmed_trimBlank cs, exists_padding cs⟩
  · intro h
    obtain ⟨trimmed, front, back, before, behind, rfl⟩ := h
    exact trimBlank_padded before behind trimmed

/-- A text that is trimmed is left as it is. -/
theorem trimBlank_of_isTrimmed (trimmed : IsTrimmed cs) : trimBlank cs = cs :=
  trimBlank_eq_iff.mpr ⟨trimmed, [], [], nofun, nofun, by simp⟩

/-- Trimming leaves nothing of blanks only. -/
theorem trimBlank_eq_nil_iff : trimBlank cs = [] ↔ IsAllBlank cs := by
  rw [trimBlank_eq_iff]
  constructor
  · intro h
    obtain ⟨-, front, back, before, behind, rfl⟩ := h
    intro c hc
    rw [List.append_nil, List.mem_append] at hc
    rcases hc with hc | hc
    · exact before c hc
    · exact behind c hc
  · intro blank
    exact ⟨⟨nofun, nofun⟩, cs, [], blank, nofun, by simp⟩

@[simp] theorem toList_trim (s : String) : (trim s).toList = trimBlank s.toList :=
  String.toList_ofList

/-- Trimming a text twice is trimming it once. -/
theorem trim_trim (s : String) : trim (trim s) = trim s := by
  apply String.toList_inj.mp
  rw [toList_trim, toList_trim, trimBlank_of_isTrimmed (isTrimmed_trimBlank _)]

/-- A text is blank throughout exactly if trimming leaves nothing of it. -/
theorem trim_eq_empty_iff : trim s = "" ↔ IsAllBlank s.toList := by
  rw [← String.toList_inj, toList_trim]
  exact trimBlank_eq_nil_iff

end VolumeAttach.Text
