/-
Module: VolumeAttach.NameSet
Purpose: Finite sets of names, listed in ascending order without repetition.
Main exports: NameSet, NameSet.ofList, NameSet.insert, NameSet.erase,
  NameSet.filter, NameSet.diff
-/

namespace VolumeAttach

/-!
A set of names is its ascending list.  Two sets with the same members are
therefore equal, and whoever walks over a set meets the names in one fixed
order: character by character, by code point, which is also the order of their
bytes.
-/

/-- Put a name into an ascending list, unless it is there already. -/
def insertName (name : String) : List String → List String
  | [] => [name]
  | head :: rest =>
      if name < head then name :: head :: rest
      else if head < name then head :: insertName name rest
      else head :: rest

/-- A name that is neither below nor above another is that other name. -/
theorem eq_of_not_lt {a b : String} (below : ¬ a < b) (above : ¬ b < a) : a = b :=
  String.le_antisymm (String.not_lt.mp above) (String.not_lt.mp below)

/-- Inserting adds exactly the one name. -/
@[simp] theorem mem_insertName {x name : String} {names : List String} :
    x ∈ insertName name names ↔ x = name ∨ x ∈ names := by
  induction names with
  | nil => simp [insertName]
  | cons head rest ih =>
      rw [insertName]
      split
      · simp
      · split
        · simp only [List.mem_cons, ih]
          grind
        · rename_i below above
          have same : name = head := eq_of_not_lt below above
          subst same
          simp

/-- An ascending list stays ascending. -/
theorem pairwise_insertName {name : String} {names : List String}
    (ascending : names.Pairwise (· < ·)) : (insertName name names).Pairwise (· < ·) := by
  induction names with
  | nil => simp [insertName]
  | cons head rest ih =>
      rw [List.pairwise_cons] at ascending
      obtain ⟨least, tail⟩ := ascending
      rw [insertName]
      split
      · rename_i below
        refine List.pairwise_cons.mpr ⟨?_, List.pairwise_cons.mpr ⟨least, tail⟩⟩
        intro x hx
        rcases List.mem_cons.mp hx with rfl | hx
        · exact below
        · exact String.lt_trans below (least x hx)
      · split
        · rename_i above
          refine List.pairwise_cons.mpr ⟨?_, ih tail⟩
          intro x hx
          rcases mem_insertName.mp hx with rfl | hx
          · exact above
          · exact least x hx
        · exact List.pairwise_cons.mpr ⟨least, tail⟩

/-- A finite set of names. -/
structure NameSet where
  /-- The members in ascending order. -/
  toList : List String
  ascending : toList.Pairwise (· < ·) := by simp
deriving DecidableEq

namespace NameSet

instance : Repr NameSet where
  reprPrec s n := reprPrec s.toList n

/-- The set without members. -/
def empty : NameSet := ⟨[], .nil⟩

instance : EmptyCollection NameSet := ⟨empty⟩

instance : Inhabited NameSet := ⟨empty⟩

instance : Membership String NameSet := ⟨fun s name => name ∈ s.toList⟩

instance (name : String) (s : NameSet) : Decidable (name ∈ s) :=
  inferInstanceAs (Decidable (name ∈ s.toList))

/-- Add a name. -/
def insert (s : NameSet) (name : String) : NameSet :=
  ⟨insertName name s.toList, pairwise_insertName s.ascending⟩

/-- The members that satisfy a test. -/
def filter (s : NameSet) (test : String → Bool) : NameSet :=
  ⟨s.toList.filter test, s.ascending.filter test⟩

/-- Take a name out. -/
def erase (s : NameSet) (name : String) : NameSet :=
  s.filter fun member => member != name

/-- The members of one set that the other lacks. -/
def diff (s other : NameSet) : NameSet :=
  s.filter fun member => decide (member ∉ other)

/-- The set of the names in a list. -/
def ofList (names : List String) : NameSet :=
  names.foldl insert empty

theorem mem_toList {name : String} {s : NameSet} : name ∈ s.toList ↔ name ∈ s := Iff.rfl

@[simp] theorem not_mem_empty (name : String) : name ∉ (∅ : NameSet) := List.not_mem_nil

@[simp] theorem mem_insert {x name : String} {s : NameSet} :
    x ∈ s.insert name ↔ x = name ∨ x ∈ s := mem_insertName

@[simp] theorem mem_filter {x : String} {s : NameSet} {test : String → Bool} :
    x ∈ s.filter test ↔ x ∈ s ∧ test x = true := List.mem_filter

@[simp] theorem mem_erase {x name : String} {s : NameSet} :
    x ∈ s.erase name ↔ x ∈ s ∧ x ≠ name := by
  simp [erase]

@[simp] theorem mem_diff {x : String} {s other : NameSet} :
    x ∈ s.diff other ↔ x ∈ s ∧ x ∉ other := by
  simp [diff]

theorem mem_foldl_insert {x : String} {names : List String} {s : NameSet} :
    x ∈ names.foldl insert s ↔ x ∈ names ∨ x ∈ s := by
  induction names generalizing s with
  | nil => simp
  | cons head rest ih =>
      simp only [List.foldl_cons, ih, mem_insert, List.mem_cons]
      grind

@[simp] theorem mem_ofList {x : String} {names : List String} :
    x ∈ ofList names ↔ x ∈ names := by
  rw [ofList, mem_foldl_insert]
  exact or_iff_left (not_mem_empty x)

end NameSet
end VolumeAttach
