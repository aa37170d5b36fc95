/-
Module: VolumeAttach.Proofs.DevicePaths
Purpose: What joining and splitting mean for the components of a path, whatever
  the spelling of the texts.
Main exports: IsEntryName, componentsOf_append_slash, DevicePath.components_under,
  DevicePath.under_equiv_under_iff, DevicePath.components_eq_of_parent,
  DevicePath.parent?_equiv_iff, DevicePath.splits_iff, DevicePath.join_split_inverse
-/
import Mathlib.Data.List.Basic
import Mathlib.Data.List.TakeWhile
import VolumeAttach.Device.Path

namespace VolumeAttach

open Text

/-!
The text of a path is cut at its slashes only after its opening was taken off, so
every law about joining has to say first that joining leaves the opening alone.
It does, because a slash stands between the two texts: no opening reaches across
one.
-/

/-- A name that is one step of a path. -/
def IsEntryName (name : String) : Prop :=
  name ≠ "" ∧ name ≠ "." ∧ name ≠ ".." ∧ '/' ∉ name.toList

instance (name : String) : Decidable (IsEntryName name) :=
  inferInstanceAs (Decidable (_ ∧ _ ∧ _ ∧ _))

namespace IsEntryName

/-- Such a name is a component as it stands. -/
theorem ofPiece? {name : String} (entry : IsEntryName name) :
    Component.ofPiece? name.toList = some (.name name) := by
  obtain ⟨notEmpty, notDot, notDots, -⟩ := entry
  have h₁ : name.toList ≠ [] := fun h => notEmpty (String.toList_inj.mp h)
  have h₂ : name.toList ≠ ['.'] := fun h => notDot (String.toList_inj.mp h)
  have h₃ : name.toList ≠ ['.', '.'] := fun h => notDots (String.toList_inj.mp h)
  unfold Component.ofPiece?
  split <;> simp_all

/-- It has one piece, which is all of it. -/
theorem pieces {name : String} (entry : IsEntryName name) :
    Text.pieces '/' name.toList = [name.toList] :=
  pieces_of_not_mem entry.2.2.2

end IsEntryName

/-! ### Joining -/

/-- A slash behind a text that is not empty leaves its opening alone. -/
theorem opening_append_slash {base : List Char} (ne : base ≠ []) (rest : List Char) :
    opening (base ++ '/' :: rest) = ((opening base).1, (opening base).2 ++ '/' :: rest) := by
  match base with
  | [] => exact absurd rfl ne
  | [c] =>
      by_cases slash : c = '/'
      · subst slash
        rfl
      · by_cases dot : c = '.'
        · subst dot
          rfl
        · simp [opening, slash, dot]
  | c :: d :: body =>
      by_cases slash : c = '/'
      · subst slash
        rfl
      · by_cases dot : c = '.'
        · subst dot
          by_cases next : d = '/'
          · subst next
            rfl
          · simp [opening, next]
        · simp [opening, slash, dot]

/-- Behind a slash a text adds the components of its pieces. -/
theorem componentsOf_append_slash {base : List Char} (ne : base ≠ []) (rest : List Char) :
    componentsOf (base ++ '/' :: rest) =
      componentsOf base ++ (pieces '/' rest).filterMap Component.ofPiece? := by
  rw [componentsOf, opening_append_slash ne, pieces_append, List.filterMap_append,
    ← List.append_assoc]
  rfl

/-- A slash at the end of a text says nothing. -/
theorem componentsOf_append_singleton_slash {base : List Char} (ne : base ≠ []) :
    componentsOf (base ++ ['/']) = componentsOf base := by
  rw [componentsOf_append_slash ne []]
  simp [pieces, Component.ofPiece?]

/-- The components of a name on its own. -/
theorem componentsOf_entry {name : String} (entry : IsEntryName name) :
    componentsOf name.toList = [.name name] := by
  have plain : opening name.toList = (.plain, name.toList) := by
    obtain ⟨-, notDot, -, noSlash⟩ := entry
    have notDot' : name.toList ≠ ['.'] := fun h => notDot (String.toList_inj.mp h)
    unfold opening
    split <;> simp_all
  rw [componentsOf, plain, entry.pieces]
  simp [Opening.components, entry.ofPiece?]

/-- An entry of a directory has the components of the directory and its name. -/
theorem DevicePath.components_under (root : DevicePath) {name : String}
    (entry : IsEntryName name) :
    (root.under name).components = root.components ++ [.name name] := by
  have relative : name.toList.head? ≠ some '/' := by
    intro h
    exact entry.2.2.2 (List.mem_of_mem_head? (by rw [h]; rfl))
  have pieceOf : (pieces '/' name.toList).filterMap Component.ofPiece? = [.name name] := by
    rw [entry.pieces]
    simp [entry.ofPiece?]
  simp only [DevicePath.components, DevicePath.under, String.toList_ofList, joinOf,
    if_neg relative]
  split
  · rename_i ends
    rcases ends with empty | slash
    · rw [empty, List.nil_append, componentsOf_entry entry]
      rfl
    · obtain ⟨front, hfront⟩ := List.getLast?_eq_some_iff.mp slash
      rw [hfront, List.append_assoc, List.singleton_append]
      by_cases empty : front = []
      · -- The root alone: its slash is the opening, and nothing separates it from the name.
        subst empty
        simp [componentsOf, opening, Opening.components, pieceOf, pieces, Component.ofPiece?]
      · rw [componentsOf_append_slash empty, componentsOf_append_singleton_slash empty, pieceOf]
  · rename_i inside
    rw [componentsOf_append_slash (fun h => inside (.inl h)), pieceOf]

/-- Two entries of one directory are the same device file only under one name. -/
theorem DevicePath.under_equiv_under_iff (root : DevicePath) {a b : String}
    (ha : IsEntryName a) (hb : IsEntryName b) : root.under a ≈ root.under b ↔ a = b := by
  rw [equiv_iff, components_under root ha, components_under root hb]
  simp

/-- The name of an entry is its last component. -/
theorem DevicePath.fileName?_under (root : DevicePath) {name : String}
    (entry : IsEntryName name) : (root.under name).fileName? = some name := by
  simp [DevicePath.fileName?, components_under root entry]

/-- Device files that are the same have the same name. -/
theorem DevicePath.fileName?_congr {p q : DevicePath} (same : p ≈ q) :
    p.fileName? = q.fileName? := by
  rw [DevicePath.fileName?, equiv_iff.mp same, DevicePath.fileName?]

/-! ### Splitting

The text of a parent is put together again from the pieces before the last.  What
has to be shown is that putting them together opens the text as the path itself
was opened: an opening that the path did not have would turn a name into a
component of another kind. -/

/-- A piece that adds no component is one that has none. -/
theorem ofPiece?_eq_none_iff {piece : List Char} :
    Component.ofPiece? piece = none ↔ isIdle piece = true := by
  unfold Component.ofPiece?
  split <;> simp_all [isIdle]

/-- The slash that opens a path is the component of no piece. -/
theorem ne_root_of_ofPiece? {piece : List Char} {c : Component}
    (h : Component.ofPiece? piece = some c) : c ≠ .root := by
  unfold Component.ofPiece? at h
  split at h <;> simp_all only [Option.some.injEq, reduceCtorEq] <;> simp [← h]

/-- Pieces without a component do not count. -/
theorem filterMap_dropIdle (parts : List (List Char)) :
    (dropIdle parts).filterMap Component.ofPiece? = parts.filterMap Component.ofPiece? := by
  have idle : (parts.reverse.takeWhile isIdle).filterMap Component.ofPiece? = [] := by
    rw [List.filterMap_eq_nil_iff]
    intro piece hp
    exact ofPiece?_eq_none_iff.mpr (List.mem_takeWhile_imp hp)
  have split := congrArg (List.filterMap Component.ofPiece?)
    (List.takeWhile_append_dropWhile (p := isIdle) (l := parts.reverse))
  rw [List.filterMap_append, idle, List.nil_append] at split
  rw [dropIdle, List.filterMap_reverse, split, ← List.filterMap_reverse, List.reverse_reverse]

/-- The components of a text are those of its opening and of the pieces that count. -/
theorem componentsOf_eq_dropIdle (cs : List Char) :
    componentsOf cs = (opening cs).1.components ++
      (dropIdle (pieces '/' (opening cs).2)).filterMap Component.ofPiece? := by
  rw [filterMap_dropIdle]
  rfl

/-- Pieces that are left stand in front of those that were dropped. -/
theorem prefix_dropIdle (parts : List (List Char)) : dropIdle parts <+: parts := by
  rw [dropIdle, ← List.reverse_suffix, List.reverse_reverse]
  exact List.dropWhile_suffix _

/-- The last piece that is left has a component. -/
theorem isIdle_of_dropIdle_eq {parts front : List (List Char)} {last : List Char}
    (h : dropIdle parts = front ++ [last]) : isIdle last = false := by
  have first : parts.reverse.dropWhile isIdle = last :: front.reverse := by
    rw [← List.reverse_reverse (parts.reverse.dropWhile isIdle), ← dropIdle, h]
    simp
  have head := List.head?_dropWhile_not isIdle parts.reverse
  rw [first] at head
  simpa using head

/-- Pieces come back from the text that joins them, as far as they have components. -/
theorem filterMap_pieces_joinPieces {parts : List (List Char)}
    (clean : ∀ piece ∈ parts, '/' ∉ piece) :
    (pieces '/' (joinPieces '/' parts)).filterMap Component.ofPiece? =
      parts.filterMap Component.ofPiece? := by
  by_cases empty : parts = []
  · subst empty
    rfl
  · rw [pieces_joinPieces empty clean]

/-- Joining two lists of pieces puts one separator between the two texts. -/
theorem joinPieces_append {front back : List (List Char)} (hf : front ≠ []) (hb : back ≠ []) :
    joinPieces '/' (front ++ back) = joinPieces '/' front ++ '/' :: joinPieces '/' back := by
  induction front with
  | nil => exact absurd rfl hf
  | cons piece rest ih =>
      cases rest with
      | nil =>
          obtain ⟨next, others, rfl⟩ := List.exists_cons_of_ne_nil hb
          rfl
      | cons next others =>
          have deeper := ih (List.cons_ne_nil _ _)
          simp only [List.cons_append, joinPieces] at deeper ⊢
          rw [deeper, List.append_assoc, List.cons_append]

/-- A text is its opening and what follows it. -/
theorem chars_append_opening (cs : List Char) :
    (opening cs).1.chars ++ (opening cs).2 = cs := by
  unfold opening
  split <;> rfl

/-- The text of the first pieces of a path opens as the path does. -/
theorem opening_joinPieces_of_front {cs : List Char} {front : List (List Char)}
    (h : front <+: pieces '/' (opening cs).2) :
    opening ((opening cs).1.chars ++ joinPieces '/' front) =
      ((opening cs).1, joinPieces '/' front) := by
  obtain ⟨back, hback⟩ := h
  have body : joinPieces '/' (front ++ back) = (opening cs).2 := by
    rw [hback, joinPieces_pieces]
  have whole := chars_append_opening cs
  by_cases hf : front = []
  · subst hf
    cases (opening cs).1 <;> rfl
  by_cases hb : back = []
  · rw [hb, List.append_nil] at body
    rw [body, whole]
  rw [joinPieces_append hf hb] at body
  rw [← body, ← List.append_assoc] at whole
  by_cases empty : (opening cs).1.chars ++ joinPieces '/' front = []
  · -- A slash in front is an opening and so would not be left over.
    rw [empty, List.nil_append] at whole
    have root : (opening cs).1 = .root := by
      rw [← whole]
      rfl
    rw [root] at empty
    cases empty
  · have longer := opening_append_slash empty (joinPieces '/' back)
    rw [whole] at longer
    have first := congrArg Prod.fst longer
    have second := congrArg Prod.snd longer
    rw [← body] at second
    exact Prod.ext first.symm (List.append_cancel_right second).symm

/-- The text of the first pieces of a path has the components of the path's opening and of
these pieces. -/
theorem componentsOf_joinPieces_of_front {cs : List Char} {front : List (List Char)}
    (h : front <+: pieces '/' (opening cs).2) :
    componentsOf ((opening cs).1.chars ++ joinPieces '/' front) =
      (opening cs).1.components ++ front.filterMap Component.ofPiece? := by
  have clean : ∀ piece ∈ front, '/' ∉ piece := fun piece hp =>
    not_mem_of_mem_pieces (h.subset hp)
  rw [componentsOf, opening_joinPieces_of_front h, filterMap_pieces_joinPieces clean]

/-- The parent of a path with a piece that counts is made of the pieces before the last such. -/
theorem parentOf?_of_dropIdle_eq {cs : List Char} {front : List (List Char)} {last : List Char}
    (h : dropIdle (pieces '/' (opening cs).2) = front ++ [last]) :
    parentOf? cs = some ((opening cs).1.chars ++ joinPieces '/' (dropIdle front)) := by
  unfold parentOf?
  rw [h]
  split
  · rename_i empty
    simp at empty
  · rw [List.dropLast_concat]

/-- A path with a parent has the parent's components and one more, which is not the slash
that opens an absolute path. -/
theorem DevicePath.exists_last_of_parent {p q : DevicePath} (hq : p.parent? = some q) :
    ∃ last, last ≠ .root ∧ p.components = q.components ++ [last] := by
  obtain ⟨cs, hcs, rfl⟩ := Option.map_eq_some_iff.mp hq
  have components : p.components = _ := componentsOf_eq_dropIdle p.text.toList
  rw [components, DevicePath.components, String.toList_ofList]
  rcases List.eq_nil_or_concat' (dropIdle (pieces '/' (opening p.text.toList).2)) with
    hparts | ⟨front, last, hparts⟩
  · -- Only the dot that opens a relative path is a component without a piece.
    simp only [parentOf?, hparts] at hcs
    split at hcs
    · rename_i here
      obtain rfl := Option.some.inj hcs
      refine ⟨.here, nofun, ?_⟩
      rw [hparts, here]
      rfl
    · cases hcs
  · rw [parentOf?_of_dropIdle_eq hparts] at hcs
    obtain rfl := Option.some.inj hcs
    obtain ⟨c, hc⟩ : ∃ c, Component.ofPiece? last = some c := by
      have busy := isIdle_of_dropIdle_eq hparts
      cases h : Component.ofPiece? last with
      | some c => exact ⟨c, rfl⟩
      | none => rw [ofPiece?_eq_none_iff.mp h] at busy; cases busy
    have early : dropIdle front <+: pieces '/' (opening p.text.toList).2 := by
      refine (prefix_dropIdle front).trans (List.IsPrefix.trans ?_ (prefix_dropIdle _))
      rw [hparts]
      exact List.prefix_append _ _
    refine ⟨c, ne_root_of_ofPiece? hc, ?_⟩
    rw [hparts, List.filterMap_append, componentsOf_joinPieces_of_front early,
      filterMap_dropIdle, ← List.append_assoc]
    simp [hc]

/-- A path with a parent and a name has the parent's components and the name. -/
theorem DevicePath.components_eq_of_parent {p q : DevicePath} {name : String}
    (hq : p.parent? = some q) (hname : p.fileName? = some name) :
    p.components = q.components ++ [.name name] := by
  obtain ⟨last, -, whole⟩ := exists_last_of_parent hq
  rw [DevicePath.fileName?, whole, List.getLast?_concat] at hname
  cases last with
  | name text => rw [whole, Option.some.inj hname]
  | _ => cases hname

/-- Nothing but the root and a path without components lacks a parent. -/
theorem DevicePath.components_of_parent?_eq_none {p : DevicePath} (h : p.parent? = none) :
    p.components = [] ∨ p.components = [.root] := by
  have orphan := Option.map_eq_none_iff.mp h
  have components : p.components = _ := componentsOf_eq_dropIdle p.text.toList
  unfold parentOf? at orphan
  split at orphan
  · rename_i idle
    rw [components, idle]
    cases hopen : (opening p.text.toList).1 with
    | root => exact .inr rfl
    | plain => exact .inl rfl
    | here => simp [hopen] at orphan
  · cases orphan

/-- A path lies directly below a directory exactly if it has the components of the
directory and one more. -/
theorem DevicePath.parent?_equiv_iff {p directory : DevicePath} :
    (∃ q, p.parent? = some q ∧ q ≈ directory) ↔
      ∃ last, last ≠ .root ∧ p.components = directory.components ++ [last] := by
  constructor
  · intro below
    obtain ⟨q, hq, same⟩ := below
    obtain ⟨last, entry, whole⟩ := exists_last_of_parent hq
    rw [equiv_iff.mp same] at whole
    exact ⟨last, entry, whole⟩
  · intro below
    obtain ⟨last, entry, whole⟩ := below
    cases hq : p.parent? with
    | none =>
        rcases components_of_parent?_eq_none hq with empty | root
        · simp [empty] at whole
        · have lasts := congrArg List.getLast? (root.symm.trans whole)
          rw [List.getLast?_concat] at lasts
          exact absurd (Option.some.inj lasts).symm entry
    | some q =>
        obtain ⟨other, -, too⟩ := exists_last_of_parent hq
        exact ⟨q, rfl, (List.append_inj' (too.symm.trans whole) rfl).1⟩

/-! ### One undoes the other

A path is joined and split as text, but only its components come back.  The text of a parent has
lost the slashes and dots at its end, and a join puts in a slash where there were several.

Nothing has to be asked of a path that is split.  What it gives as its name was a piece between
slashes, and so it is a name that can be joined again. -/

/-- A component that is a name came from a piece that is the name of an entry. -/
theorem IsEntryName.of_ofPiece? {piece : List Char} {name : String} (clean : '/' ∉ piece)
    (h : Component.ofPiece? piece = some (.name name)) : IsEntryName name := by
  unfold Component.ofPiece? at h
  split at h
  · cases h
  · cases h
  · cases h
  · rename_i notEmpty notDot notDots
    cases h
    refine ⟨?_, ?_, ?_, by rwa [String.toList_ofList]⟩
    · exact fun empty => notEmpty (by simpa using congrArg String.toList empty)
    · exact fun dot => notDot (by simpa using congrArg String.toList dot)
    · exact fun dots => notDots (by simpa using congrArg String.toList dots)

/-- The names in a path are names of entries. -/
theorem IsEntryName.of_mem_componentsOf {cs : List Char} {name : String}
    (h : .name name ∈ componentsOf cs) : IsEntryName name := by
  rcases List.mem_append.mp h with first | later
  · cases hopen : (opening cs).1 <;> simp [hopen, Opening.components] at first
  · obtain ⟨piece, cut, read⟩ := List.mem_filterMap.mp later
    exact of_ofPiece? (not_mem_of_mem_pieces cut) read

namespace DevicePath

variable {p directory : DevicePath} {name : String}

/-- A path names an entry or nothing. -/
theorem isEntryName_of_fileName? (h : p.fileName? = some name) : IsEntryName name := by
  unfold fileName? at h
  split at h
  · rename_i text last
    cases h
    exact .of_mem_componentsOf (List.mem_of_getLast? last)
  · cases h

/-- A path that has a name has a parent. -/
theorem exists_parent_of_fileName? (h : p.fileName? = some name) :
    ∃ q, p.parent? = some q := by
  cases hq : p.parent? with
  | some q => exact ⟨q, rfl⟩
  | none =>
      rcases components_of_parent?_eq_none hq with empty | root
      · simp [fileName?, empty] at h
      · simp [fileName?, root] at h

/-- A path splits into a directory and a name exactly if it has the components of the
directory and the name behind them. -/
theorem splits_iff :
    (p.fileName? = some name ∧ ∃ q, p.parent? = some q ∧ q ≈ directory) ↔
      p.components = directory.components ++ [.name name] := by
  constructor
  · intro h
    obtain ⟨hname, q, hq, same⟩ := h
    have whole := components_eq_of_parent hq hname
    rwa [equiv_iff.mp same] at whole
  · intro whole
    refine ⟨?_, parent?_equiv_iff.mpr ⟨.name name, nofun, whole⟩⟩
    rw [fileName?, whole, List.getLast?_concat]

/-- It does so exactly if the two join to the path, and only the name of an entry is split off. -/
theorem splits_iff_equiv_under :
    (p.fileName? = some name ∧ ∃ q, p.parent? = some q ∧ q ≈ directory) ↔
      IsEntryName name ∧ p ≈ directory.under name := by
  constructor
  · intro h
    have entry := isEntryName_of_fileName? h.1
    exact ⟨entry, (splits_iff.mp h).trans (components_under directory entry).symm⟩
  · intro h
    obtain ⟨entry, same⟩ := h
    exact splits_iff.mpr ((equiv_iff.mp same).trans (components_under directory entry))

/-- Joining and splitting are inverse, up to the spelling of the path.  The entry of any
directory under any name has that name, and its parent is the directory; and a path with a
name and a parent is the entry of the parent under the name.  Every path that has a name has a
parent, and its name is one that the first law speaks of. -/
theorem join_split_inverse :
    (∀ (root : DevicePath) (name : String), IsEntryName name →
      (root.under name).fileName? = some name ∧
      ∃ directory, (root.under name).parent? = some directory ∧ directory ≈ root) ∧
    (∀ (p q : DevicePath) (name : String), p.fileName? = some name → p.parent? = some q →
      q.under name ≈ p) ∧
    (∀ (p : DevicePath) (name : String), p.fileName? = some name →
      IsEntryName name ∧ ∃ q, p.parent? = some q) := by
  refine ⟨?_, ?_, ?_⟩
  · intro root name entry
    exact splits_iff_equiv_under.mpr ⟨entry, Setoid.refl _⟩
  · intro p q name hname hq
    have joined := splits_iff_equiv_under.mp ⟨hname, q, hq, Setoid.refl q⟩
    exact Setoid.symm joined.2
  · intro p name hname
    exact ⟨isEntryName_of_fileName? hname, exists_parent_of_fileName? hname⟩

/-- Below a relative directory with dots at both ends, and above a name with a dot in front. -/
theorem join_split_inverse_of_dots :
    let root : DevicePath := ⟨"./dev//."⟩
    let p : DevicePath := ⟨"..//.sdq/./"⟩
    (IsEntryName "..." ∧ (root.under "...").fileName? = some "..." ∧
      ∃ directory, (root.under "...").parent? = some directory ∧ directory ≈ root) ∧
    (p.fileName? = some ".sdq" ∧ p.parent? = some ⟨".."⟩ ∧ DevicePath.under ⟨".."⟩ ".sdq" ≈ p) ∧
    IsEntryName ".sdq" := by
  intro root p
  obtain ⟨joined, split, named⟩ := join_split_inverse
  have entry : IsEntryName "..." := by decide
  have hname : p.fileName? = some ".sdq" := by decide +kernel
  have parent : p.parent? = some ⟨".."⟩ := by decide +kernel
  exact ⟨⟨entry, joined root "..." entry⟩, ⟨hname, parent, split p ⟨".."⟩ ".sdq" hname parent⟩,
    (named p ".sdq" hname).1⟩

end DevicePath
end VolumeAttach
