/-
Module: VolumeAttach.Proofs.EntryNames
Purpose: Whatever changes made a tree, its names are names that an entry can have.
Main exports: IsFileName, isFileName_encode_iff, FileTree.IsNamed, FileTree.isNamed_changed,
  FileTree.isNamed_applyAll
-/
import VolumeAttach.Host.TreeChange
import VolumeAttach.Proofs.EntryPaths

namespace VolumeAttach

open Text

/-!
A change names what it makes by a step of a path: of its own path, or of the target of a link
that it writes through.  A step is a piece between slashes that is not empty and neither a dot
nor two.  So no change brings a name into a tree that no path could ask for.
-/

/-- A name that a step of a path asks for. -/
def IsFileName (name : FileName) : Prop :=
  Step.ofPiece? name = some (.enter name) ∧ slash ∉ name

theorem isFileName_of_mem_ofPath {path : Bytes} {name : FileName}
    (asked : .enter name ∈ Step.ofPath path) : IsFileName name := by
  rcases List.mem_append.mp asked with among | last
  · obtain ⟨piece, cut, read⟩ := List.mem_filterMap.mp among
    have same : piece = name := by
      unfold Step.ofPiece? at read
      split at read <;> simp_all
    subst same
    exact ⟨read, not_mem_of_mem_pieces cut⟩
  · split at last <;> simp at last

/-- As a text it is the name of an entry. -/
theorem isFileName_encode_iff {name : String} : IsFileName (encode name) ↔ IsEntryName name := by
  constructor
  · intro h
    obtain ⟨asked, noSlash⟩ := h
    refine ⟨?_, ?_, ?_, fun inside => noSlash (slash_mem_encode_iff.mpr inside)⟩
    · rintro rfl
      cases asked
    · rintro rfl
      cases asked
    · rintro rfl
      cases asked
  · intro entry
    exact ⟨entry.ofPiece?_encode, fun inside => entry.2.2.2 (slash_mem_encode_iff.mp inside)⟩

namespace FileTree

/-- Every name in a directory of the tree is one that a path can ask for. -/
def IsNamed (t : FileTree) : Prop := ∀ l, ∀ name ∈ t.names l, IsFileName name

variable {t made after : FileTree} {base l place : Location} {name : FileName} {entry : Entry}
  {steps : List Step} {path content : Bytes}

/-! ### One change -/

theorem isNamed_put (named : t.IsNamed) (fine : IsFileName name) :
    (t.put (l ++ [name]) entry).IsNamed := by
  intro other shown inside
  rw [mem_names] at inside
  by_cases same : other ++ [shown] = l ++ [name]
  · obtain ⟨-, rfl⟩ := List.append_singleton_inj.mp same
    exact fine
  · rw [at?_put_of_ne same] at inside
    exact named other shown (mem_names.mpr inside)

theorem isNamed_cut (named : t.IsNamed) : (t.cut l).IsNamed := by
  intro other shown inside
  obtain ⟨held, kept, found⟩ := List.mem_filterMap.mp inside
  exact named other shown (List.mem_filterMap.mpr ⟨held, List.mem_of_mem_filter kept, found⟩)

theorem isNamed_makeDirectories (named : t.IsNamed)
    (fine : ∀ name, .enter name ∈ steps → IsFileName name)
    (h : t.makeDirectories l steps = some (made, place)) : made.IsNamed := by
  fun_induction makeDirectories t l steps with
  | case1 t l here =>
      cases h
      exact named
  | case2 => cases h
  | case3 t l name rest absent ih =>
      have after : (t.put (l ++ [name]) .directory).IsNamed :=
        isNamed_put named (fine name List.mem_cons_self)
      exact ih after (fun other asked => fine other (List.mem_cons_of_mem _ asked)) h
  | case4 t l name rest _ _ next _ ih =>
      exact ih named (fun other asked => fine other (List.mem_cons_of_mem _ asked)) h
  | case5 => cases h
  | case6 t l step rest _ next _ ih =>
      exact ih named (fun other asked => fine other (List.mem_cons_of_mem _ asked)) h
  | case7 => cases h

/-- The last step of a path names what is made. -/
theorem isNamed_makeParent (named : t.IsNamed)
    (h : t.makeParent base path = some (made, l, name)) : made.IsNamed ∧ IsFileName name := by
  unfold makeParent at h
  split at h
  · rename_i last asked
    obtain ⟨⟨parent, place⟩, found, same⟩ := Option.map_eq_some_iff.mp h
    cases same
    refine ⟨isNamed_makeDirectories named ?_ found, ?_⟩
    · intro other inside
      exact isFileName_of_mem_ofPath (List.mem_of_mem_dropLast inside)
    · exact isFileName_of_mem_ofPath (List.mem_of_getLast? asked)
  · cases h

theorem isNamed_write {links : Nat} (named : t.IsNamed) (fine : IsFileName name)
    (h : t.write content links l name = some after) : after.IsNamed := by
  fun_induction write t content links l name with
  | case1 links l name absent =>
      obtain rfl := Option.some.inj h
      exact isNamed_put named fine
  | case2 links l name old found =>
      obtain rfl := Option.some.inj h
      exact isNamed_put named fine
  | case3 => cases h
  | case4 l name target found fewer last asked place _ ih =>
      exact ih (isFileName_of_mem_ofPath (List.mem_of_getLast? asked)) h
  | case5 => cases h
  | case6 => cases h

/-- A change brings no other names into the tree. -/
theorem isNamed_changed {change : TreeChange} (named : t.IsNamed)
    (h : t.changed? base change = some after) : after.IsNamed := by
  cases change with
  | makeDirectory path =>
      obtain ⟨⟨made, place⟩, found, rfl⟩ := Option.map_eq_some_iff.mp h
      exact isNamed_makeDirectories named (fun _ asked => isFileName_of_mem_ofPath asked) found
  | writeFile path content =>
      obtain ⟨⟨made, l, name⟩, found, written⟩ := Option.bind_eq_some_iff.mp h
      obtain ⟨namedParent, fine⟩ := isNamed_makeParent named found
      exact isNamed_write namedParent fine written
  | makeLink path target =>
      obtain ⟨⟨made, l, name⟩, found, linked⟩ := Option.bind_eq_some_iff.mp h
      obtain ⟨namedParent, fine⟩ := isNamed_makeParent named found
      dsimp only at linked
      split at linked
      · obtain rfl := Option.some.inj linked
        exact isNamed_put namedParent fine
      · cases linked
  | remove path =>
      simp only [changed?] at h
      split at h
      · split at h
        · obtain rfl := Option.some.inj h
          exact isNamed_cut named
        · cases h
      · cases h

/-! ### All changes -/

theorem isNamed_apply (named : t.IsNamed) (change : TreeChange) :
    (t.apply base change).IsNamed := by
  unfold apply
  cases h : t.changed? base change with
  | none => exact named
  | some after => exact isNamed_changed named h

/-- A tree that changes made from an empty one holds only names that an entry can have. -/
theorem isNamed_applyAll (named : t.IsNamed) (changes : List TreeChange) :
    (t.applyAll base changes).IsNamed := by
  unfold applyAll
  induction changes generalizing t with
  | nil => exact named
  | cons change rest ih => exact ih (isNamed_apply named change)

theorem isNamed_empty : ({} : FileTree).IsNamed := by
  intro l name inside
  cases inside

end FileTree
end VolumeAttach
