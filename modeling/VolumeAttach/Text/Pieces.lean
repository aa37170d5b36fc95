/-
Module: VolumeAttach.Text.Pieces
Purpose: Cutting a list at every occurrence of a separator, and joining again.
Main exports: pieces, joinPieces, joinPieces_pieces, pieces_joinPieces, not_mem_of_mem_pieces
-/

namespace VolumeAttach.Text

variable {α : Type} [DecidableEq α]

/-!
`n` separators cut a list into `n + 1` pieces, some of which may be empty.
Joining with the separator undoes the cut.
-/

/-- The pieces of a list between the occurrences of a separator. -/
def pieces (separator : α) : List α → List (List α)
  | [] => [[]]
  | x :: rest =>
      match pieces separator rest with
      | [] => [[x]]
      | first :: others =>
          if x = separator then [] :: first :: others else (x :: first) :: others

/-- One list from pieces, with the separator between them. -/
def joinPieces (separator : α) : List (List α) → List α
  | [] => []
  | [piece] => piece
  | piece :: next :: others => piece ++ separator :: joinPieces separator (next :: others)

/-- There is always a first piece. -/
theorem exists_pieces (separator : α) (xs : List α) :
    ∃ first others, pieces separator xs = first :: others := by
  cases xs with
  | nil => exact ⟨[], [], rfl⟩
  | cons x rest =>
      rw [pieces]
      split
      · exact ⟨_, _, rfl⟩
      · split <;> exact ⟨_, _, rfl⟩

/-- A separator in front opens an empty piece. -/
theorem pieces_cons_separator (separator : α) (rest : List α) :
    pieces separator (separator :: rest) = [] :: pieces separator rest := by
  obtain ⟨first, others, h⟩ := exists_pieces separator rest
  simp [pieces, h]

/-- Any other element belongs to the first piece. -/
theorem pieces_cons_of_ne {separator x : α} (ne : x ≠ separator) {rest first : List α}
    {others : List (List α)} (h : pieces separator rest = first :: others) :
    pieces separator (x :: rest) = (x :: first) :: others := by
  simp [pieces, h, ne]

/-- Joining the pieces gives the list back. -/
theorem joinPieces_pieces (separator : α) (xs : List α) :
    joinPieces separator (pieces separator xs) = xs := by
  induction xs with
  | nil => rfl
  | cons x rest ih =>
      obtain ⟨first, others, h⟩ := exists_pieces separator rest
      rw [h] at ih
      by_cases hx : x = separator
      · subst hx
        rw [pieces_cons_separator, h]
        simp [joinPieces, ih]
      · rw [pieces_cons_of_ne hx h]
        cases others <;> simp_all [joinPieces]

/-- No piece holds the separator. -/
theorem not_mem_of_mem_pieces {separator : α} {xs piece : List α}
    (h : piece ∈ pieces separator xs) : separator ∉ piece := by
  induction xs generalizing piece with
  | nil => simp_all [pieces]
  | cons x rest ih =>
      obtain ⟨first, others, hp⟩ := exists_pieces separator rest
      rw [hp] at ih
      by_cases hx : x = separator
      · subst hx
        rw [pieces_cons_separator, hp] at h
        rcases List.mem_cons.mp h with rfl | h
        · simp
        · exact ih h
      · rw [pieces_cons_of_ne hx hp] at h
        rcases List.mem_cons.mp h with rfl | h
        · have clean := ih (List.mem_cons_self ..)
          simp [clean, Ne.symm hx]
        · exact ih (List.mem_cons_of_mem _ h)

/-- A list without the separator is one piece. -/
theorem pieces_of_not_mem {separator : α} {xs : List α} (h : separator ∉ xs) :
    pieces separator xs = [xs] := by
  induction xs with
  | nil => rfl
  | cons x rest ih =>
      rw [List.mem_cons, not_or] at h
      exact pieces_cons_of_ne (Ne.symm h.1) (ih h.2)

/-- A separator between two lists separates their pieces. -/
theorem pieces_append (separator : α) (xs ys : List α) :
    pieces separator (xs ++ separator :: ys) = pieces separator xs ++ pieces separator ys := by
  induction xs with
  | nil => simp [pieces_cons_separator, pieces]
  | cons x rest ih =>
      obtain ⟨first, others, h⟩ := exists_pieces separator rest
      rw [h, List.cons_append] at ih
      by_cases hx : x = separator
      · subst hx
        rw [List.cons_append, pieces_cons_separator, pieces_cons_separator, ih, h]
        rfl
      · rw [List.cons_append, pieces_cons_of_ne hx ih, pieces_cons_of_ne hx h]
        rfl

/-- Pieces without separators come back from the list that joins them. -/
theorem pieces_joinPieces {separator : α} {parts : List (List α)} (ne : parts ≠ [])
    (clean : ∀ piece ∈ parts, separator ∉ piece) :
    pieces separator (joinPieces separator parts) = parts := by
  induction parts with
  | nil => exact absurd rfl ne
  | cons piece rest ih =>
      have alone : pieces separator piece = [piece] :=
        pieces_of_not_mem (clean piece (List.mem_cons_self ..))
      cases rest with
      | nil => exact alone
      | cons next others =>
          have back := ih (List.cons_ne_nil _ _) fun p hp => clean p (List.mem_cons_of_mem _ hp)
          rw [joinPieces, pieces_append, alone, back]
          rfl

end VolumeAttach.Text
