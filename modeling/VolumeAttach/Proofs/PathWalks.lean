/-
Module: VolumeAttach.Proofs.PathWalks
Purpose: Following a path one step at a time: where a walk ends, why it stops on the way, and
  that a walk with a fence stays in its directory.
Main exports: Walker, FileTree.Move, FileTree.Halts, FileTree.Leads, FileTree.walk_eq_iff,
  FileTree.Misses, FileTree.walk_eq_notFound_iff, FileTree.walk_append, FileTree.IsWithin,
  FileTree.Leads.isWithin, FileTree.readBelow_eq_ok_iff, FileTree.readBelow_eq_notFound_iff
-/
import Mathlib.Data.List.Infix
import Mathlib.Logic.Relation
import VolumeAttach.Host.FileTree

namespace VolumeAttach

open Text

/-!
A walk is told here by what one step of it does.  A step goes to another place or puts the
steps of a link in front of those that are left; where no step can be taken the walk halts,
and how it halts is its result.  Steps say nothing of those that come after them, so a walk
can be cut at any place, and what each step keeps the whole walk keeps.
-/

/-- A walk on its way: the links that it may still pass, its place, and the steps ahead. -/
structure Walker where
  links : Nat
  place : Location
  ahead : List Step

/-- The same place with more steps to come. -/
def Walker.before (w : Walker) (rest : List Step) : Walker :=
  { w with ahead := w.ahead ++ rest }

namespace FileTree

/-- Taking one step. -/
inductive Move (t : FileTree) (fence : Option Location) : Walker → Walker → Prop where
  | stay {links : Nat} {l : Location} {rest : List Step} (here : t.at? l = some .directory) :
      Move t fence ⟨links, l, .stay :: rest⟩ ⟨links, l, rest⟩
  | up {links : Nat} {l : Location} {rest : List Step} (here : t.at? l = some .directory)
      (inside : fence ≠ some l) : Move t fence ⟨links, l, .up :: rest⟩ ⟨links, l.dropLast, rest⟩
  | enter {links : Nat} {l : Location} {rest : List Step} {name : FileName} {entry : Entry}
      (here : t.at? l = some .directory) (fits : name.length ≤ longestName)
      (found : t.at? (l ++ [name]) = some entry) (solid : ∀ target, entry ≠ .link target) :
      Move t fence ⟨links, l, .enter name :: rest⟩ ⟨links, l ++ [name], rest⟩
  | follow {links : Nat} {l : Location} {rest : List Step} {name : FileName} {target : Bytes}
      (here : t.at? l = some .directory) (fits : name.length ≤ longestName)
      (found : t.at? (l ++ [name]) = some (.link target))
      (relative : target.head? ≠ some slash) :
      Move t fence ⟨links + 1, l, .enter name :: rest⟩ ⟨links, l, Step.ofPath target ++ rest⟩
  | restart {links : Nat} {l : Location} {rest : List Step} {name : FileName} {target : Bytes}
      (here : t.at? l = some .directory) (fits : name.length ≤ longestName)
      (found : t.at? (l ++ [name]) = some (.link target))
      (absolute : target.head? = some slash) (free : fence = none) :
      Move t fence ⟨links + 1, l, .enter name :: rest⟩ ⟨links, [], Step.ofPath target ++ rest⟩

/-- Having no step to take, because none is left or because the next one is not possible. -/
inductive Halts (t : FileTree) (fence : Option Location) :
    Walker → Except FileError Location → Prop where
  | arrived {links : Nat} {l : Location} : Halts t fence ⟨links, l, []⟩ (.ok l)
  | notDirectory {links : Nat} {l : Location} {step : Step} {rest : List Step}
      (here : t.at? l ≠ some .directory) :
      Halts t fence ⟨links, l, step :: rest⟩ (.error .notDirectory)
  | climbs {links : Nat} {l : Location} {rest : List Step} (here : t.at? l = some .directory)
      (fenced : fence = some l) : Halts t fence ⟨links, l, .up :: rest⟩ (.error .leadsOutside)
  | nameTooLong {links : Nat} {l : Location} {rest : List Step} {name : FileName}
      (here : t.at? l = some .directory) (long : longestName < name.length) :
      Halts t fence ⟨links, l, .enter name :: rest⟩ (.error .nameTooLong)
  | missing {links : Nat} {l : Location} {rest : List Step} {name : FileName}
      (here : t.at? l = some .directory) (fits : name.length ≤ longestName)
      (absent : t.at? (l ++ [name]) = none) :
      Halts t fence ⟨links, l, .enter name :: rest⟩ (.error .notFound)
  | tooManyLinks {l : Location} {rest : List Step} {name : FileName} {target : Bytes}
      (here : t.at? l = some .directory) (fits : name.length ≤ longestName)
      (found : t.at? (l ++ [name]) = some (.link target)) :
      Halts t fence ⟨0, l, .enter name :: rest⟩ (.error .tooManyLinks)
  | escapes {links : Nat} {l : Location} {rest : List Step} {name : FileName} {target : Bytes}
      (here : t.at? l = some .directory) (fits : name.length ≤ longestName)
      (found : t.at? (l ++ [name]) = some (.link target))
      (absolute : target.head? = some slash) (fenced : fence.isSome = true) :
      Halts t fence ⟨links + 1, l, .enter name :: rest⟩ (.error .leadsOutside)

/-- Taking any number of steps. -/
def Leads (t : FileTree) (fence : Option Location) : Walker → Walker → Prop :=
  Relation.ReflTransGen (t.Move fence)

variable {t : FileTree} {fence : Option Location} {links : Nat} {l place base : Location}
  {steps rest : List Step} {v w : Walker} {result : Except FileError Location}

/-! ### The result of a walk -/

/-- A step leaves the result as it is. -/
theorem Move.walk_eq (move : t.Move fence v w) :
    t.walk fence v.links v.place v.ahead = t.walk fence w.links w.place w.ahead := by
  cases move with
  | stay here => simp [walk, here]
  | up here inside => simp [walk, here, inside]
  | @enter _ _ _ _ entry here fits found solid =>
      cases entry with
      | link target => exact absurd rfl (solid target)
      | _ => simp [walk, here, found, Nat.not_lt.mpr fits]
  | follow here fits found relative =>
      simp [walk, here, found, Nat.not_lt.mpr fits, relative]
  | restart here fits found absolute free =>
      simp [walk, here, found, Nat.not_lt.mpr fits, absolute, free]

theorem Leads.walk_eq (leads : t.Leads fence v w) :
    t.walk fence v.links v.place v.ahead = t.walk fence w.links w.place w.ahead := by
  induction leads with
  | refl => rfl
  | tail _ move ih => exact ih.trans move.walk_eq

/-- Where a walk halts its result is told. -/
theorem Halts.walk_eq (halts : t.Halts fence w result) :
    t.walk fence w.links w.place w.ahead = result := by
  cases halts with
  | arrived => rw [walk]
  | @notDirectory _ _ step _ here => cases step <;> simp [walk, here]
  | climbs here fenced => simp [walk, here, fenced]
  | nameTooLong here long => simp [walk, here, long]
  | missing here fits absent => simp [walk, here, Nat.not_lt.mpr fits, absent]
  | tooManyLinks here fits found => simp [walk, here, Nat.not_lt.mpr fits, found]
  | escapes here fits found absolute fenced =>
      simp [walk, here, Nat.not_lt.mpr fits, found, absolute, fenced]

/-- Every walk halts: each link that is passed is one link fewer, and between two links each
step is one step fewer. -/
theorem exists_halts (t : FileTree) (fence : Option Location) (links : Nat) (l : Location)
    (steps : List Step) :
    ∃ w result, t.Leads fence ⟨links, l, steps⟩ w ∧ t.Halts fence w result := by
  have ahead : ∀ {v w : Walker}, t.Move fence v w →
      (∃ last result, t.Leads fence w last ∧ t.Halts fence last result) →
      ∃ last result, t.Leads fence v last ∧ t.Halts fence last result := by
    intro v w move ends
    obtain ⟨last, result, leads, halts⟩ := ends
    exact ⟨last, result, leads.head move, halts⟩
  fun_induction walk t fence links l steps with
  | case1 links l => exact ⟨_, _, .refl, .arrived⟩
  | case2 links l step rest here => exact ⟨_, _, .refl, .notDirectory here⟩
  | case3 links l rest here ih => exact ahead (.stay (not_not.mp here)) ih
  | case4 links l rest here fenced => exact ⟨_, _, .refl, .climbs (not_not.mp here) fenced⟩
  | case5 links l rest here inside ih => exact ahead (.up (not_not.mp here) inside) ih
  | case6 links l rest here name long => exact ⟨_, _, .refl, .nameTooLong (not_not.mp here) long⟩
  | case7 links l rest here name fits absent =>
      exact ⟨_, _, .refl, .missing (not_not.mp here) (Nat.not_lt.mp fits) absent⟩
  | case8 l rest here name fits target found =>
      exact ⟨_, _, .refl, .tooManyLinks (not_not.mp here) (Nat.not_lt.mp fits) found⟩
  | case9 l rest here name fits target found fewer absolute fenced =>
      exact ⟨_, _, .refl, .escapes (not_not.mp here) (Nat.not_lt.mp fits) found absolute fenced⟩
  | case10 l rest here name fits target found fewer absolute free ih =>
      have unfenced : fence = none := by simpa using free
      exact ahead (.restart (not_not.mp here) (Nat.not_lt.mp fits) found absolute unfenced) ih
  | case11 l rest here name fits target found fewer relative ih =>
      exact ahead (.follow (not_not.mp here) (Nat.not_lt.mp fits) found relative) ih
  | case12 links l rest here name fits entry solid found ih =>
      exact ahead (.enter (not_not.mp here) (Nat.not_lt.mp fits) found solid) ih

/-- The result of a walk is how it halts. -/
theorem walk_eq_iff :
    t.walk fence links l steps = result ↔
      ∃ w, t.Leads fence ⟨links, l, steps⟩ w ∧ t.Halts fence w result := by
  constructor
  · rintro rfl
    obtain ⟨w, result, leads, halts⟩ := t.exists_halts fence links l steps
    exact ⟨w, leads, leads.walk_eq ▸ halts.walk_eq ▸ halts⟩
  · intro h
    obtain ⟨w, leads, halts⟩ := h
    exact leads.walk_eq.trans halts.walk_eq

/-- A walk ends well at the place that it leads to. -/
theorem walk_eq_ok_iff :
    t.walk fence links l steps = .ok place ↔
      ∃ fewer, t.Leads fence ⟨links, l, steps⟩ ⟨fewer, place, []⟩ := by
  rw [walk_eq_iff]
  constructor
  · intro h
    obtain ⟨w, leads, halts⟩ := h
    cases halts with
    | arrived => exact ⟨_, leads⟩
  · intro h
    obtain ⟨fewer, leads⟩ := h
    exact ⟨_, leads, .arrived⟩

/-- A walk comes to a directory that has no entry of the name that is next. -/
def Misses (t : FileTree) (fence : Option Location) (w : Walker) : Prop :=
  ∃ links l name rest, t.Leads fence w ⟨links, l, .enter name :: rest⟩ ∧
    t.at? l = some .directory ∧ name.length ≤ longestName ∧ t.at? (l ++ [name]) = none

/-- What is not found is an entry that the walk misses. -/
theorem walk_eq_notFound_iff :
    t.walk fence links l steps = .error .notFound ↔ t.Misses fence ⟨links, l, steps⟩ := by
  rw [walk_eq_iff]
  constructor
  · intro h
    obtain ⟨w, leads, halts⟩ := h
    cases halts with
    | missing here fits absent => exact ⟨_, _, _, _, leads, here, fits, absent⟩
  · intro h
    obtain ⟨links, l, name, rest, leads, here, fits, absent⟩ := h
    exact ⟨_, leads, .missing here fits absent⟩

/-- What is missed can be missed from any place on the way. -/
theorem Leads.misses_iff (leads : t.Leads fence v w) : t.Misses fence v ↔ t.Misses fence w := by
  constructor
  · intro misses
    exact walk_eq_notFound_iff.mp (leads.walk_eq.symm.trans (walk_eq_notFound_iff.mpr misses))
  · intro h
    obtain ⟨links, l, name, rest, onwards, missing⟩ := h
    exact ⟨links, l, name, rest, leads.trans onwards, missing⟩

/-! ### The first step -/

/-- A walk that ends well has found what its first step enters. -/
theorem Leads.entry_ne_none {fewer : Nat} {name : FileName}
    (leads : t.Leads fence ⟨links, l, [.enter name]⟩ ⟨fewer, place, []⟩) :
    t.at? (l ++ [name]) ≠ none := by
  rcases Relation.ReflTransGen.cases_head leads with same | ⟨next, move, -⟩
  · cases same
  · cases move with
    | enter here fits found solid => simp [found]
    | follow here fits found relative => simp [found]
    | restart here fits found absolute free => simp [found]

/-- What is there and still leads to something missing is a link. -/
theorem Misses.exists_link {name : FileName} (misses : t.Misses fence ⟨links, l, [.enter name]⟩)
    (found : t.at? (l ++ [name]) ≠ none) : ∃ target, t.at? (l ++ [name]) = some (.link target) := by
  obtain ⟨left, last, next, rest, leads, here, fits, absent⟩ := misses
  rcases Relation.ReflTransGen.cases_head leads with same | ⟨w, move, onwards⟩
  · cases same
    exact absurd absent found
  · cases move with
    | enter here fits found solid =>
        -- With no step left there is nothing to miss.
        rcases Relation.ReflTransGen.cases_head onwards with same | ⟨_, move, -⟩
        · cases same
        · cases move
    | follow here fits found relative => exact ⟨_, found⟩
    | restart here fits found absolute free => exact ⟨_, found⟩

/-! ### A walk in two parts -/

/-- A step does not depend on the steps that come after it. -/
theorem Move.before (move : t.Move fence v w) (rest : List Step) :
    t.Move fence (v.before rest) (w.before rest) := by
  cases move with
  | stay here => exact .stay here
  | up here inside => exact .up here inside
  | enter here fits found solid => exact .enter here fits found solid
  | follow here fits found relative =>
      unfold Walker.before
      rw [List.append_assoc]
      exact .follow here fits found relative
  | restart here fits found absolute free =>
      unfold Walker.before
      rw [List.append_assoc]
      exact .restart here fits found absolute free

theorem Leads.before (leads : t.Leads fence v w) (rest : List Step) :
    t.Leads fence (v.before rest) (w.before rest) := by
  induction leads with
  | refl => exact .refl
  | tail _ move ih => exact ih.tail (move.before rest)

/-- A walk that fails does so whatever steps would come after. -/
theorem Halts.before {cause : FileError} (halts : t.Halts fence w (.error cause))
    (rest : List Step) : t.Halts fence (w.before rest) (.error cause) := by
  cases halts with
  | notDirectory here => exact .notDirectory here
  | climbs here fenced => exact .climbs here fenced
  | nameTooLong here long => exact .nameTooLong here long
  | missing here fits absent => exact .missing here fits absent
  | tooManyLinks here fits found => exact .tooManyLinks here fits found
  | escapes here fits found absolute fenced => exact .escapes here fits found absolute fenced

theorem walk_append_of_error {cause : FileError}
    (failed : t.walk fence links l steps = .error cause) (rest : List Step) :
    t.walk fence links l (steps ++ rest) = .error cause := by
  obtain ⟨w, leads, halts⟩ := walk_eq_iff.mp failed
  exact walk_eq_iff.mpr ⟨_, leads.before rest, halts.before rest⟩

/-- If its first part ends well, a walk goes on from there, with the links that are left. -/
theorem walk_append (first : t.walk fence links l steps = .ok place) :
    ∃ fewer, ∀ rest, t.Leads fence ⟨links, l, steps ++ rest⟩ ⟨fewer, place, rest⟩ := by
  obtain ⟨fewer, leads⟩ := walk_eq_ok_iff.mp first
  exact ⟨fewer, leads.before⟩

/-- Staying where it is at its end changes nothing of a walk that ends well. -/
theorem walk_of_append_stay (whole : t.walk fence links l (steps ++ [.stay]) = .ok place) :
    t.walk fence links l steps = .ok place := by
  cases first : t.walk fence links l steps with
  | error cause => exact nomatch (walk_append_of_error first _).symm.trans whole
  | ok reached =>
      obtain ⟨fewer, goesOn⟩ := walk_append first
      have stays := (goesOn [.stay]).walk_eq.symm.trans whole
      simp only [walk] at stays
      split at stays
      · cases stays
      · exact stays

/-! ### A fence

The fence is only asked about when a walk would climb out of it and when a link would start
again at the top.  That is enough to keep the whole walk inside. -/

/-- Something stands there that is no link. -/
def IsSolid (t : FileTree) (l : Location) : Prop :=
  t.at? l = some .directory ∨ ∃ content, t.at? l = some (.file content)

/-- A place in a directory, with no link and nothing missing on the way to it. -/
def IsWithin (t : FileTree) (base l : Location) : Prop :=
  base <+: l ∧ ∀ place, base <+: place → place <+: l → t.IsSolid place

theorem isWithin_self (here : t.at? base = some .directory) : t.IsWithin base base := by
  refine ⟨List.prefix_refl base, ?_⟩
  intro place above below
  rw [above.eq_of_length_le below.length_le] at here
  exact .inl here

/-- A step of a fenced walk stays inside the fence. -/
theorem Move.isWithin (move : t.Move (some base) v w) (within : t.IsWithin base v.place) :
    t.IsWithin base w.place := by
  cases move with
  | stay here => exact within
  | @up _ l _ here inside =>
      have differ : base ≠ l := fun same => inside (congrArg some same)
      obtain ⟨names, rfl⟩ := within.1
      have deeper : names ≠ [] := by
        rintro rfl
        exact differ (List.append_nil base).symm
      refine ⟨?_, ?_⟩
      · rw [List.dropLast_append_of_ne_nil deeper]
        exact List.prefix_append base _
      · intro place above below
        exact within.2 place above (below.trans (List.dropLast_prefix _))
  | @enter _ l _ name entry here fits found solid =>
      refine ⟨within.1.trans (List.prefix_append l [name]), ?_⟩
      intro place above below
      rcases List.prefix_concat_iff.mp below with rfl | shorter
      · cases entry with
        | directory => exact .inl found
        | file content => exact .inr ⟨content, found⟩
        | link target => exact absurd rfl (solid target)
      · exact within.2 place above shorter
  | follow here fits found relative => exact within
  | restart here fits found absolute free => cases free

/-- So does the walk. -/
theorem Leads.isWithin (leads : t.Leads (some base) v w) (within : t.IsWithin base v.place) :
    t.IsWithin base w.place := by
  induction leads with
  | refl => exact within
  | tail _ move ih => exact move.isWithin ih

/-! ### Reading below a directory -/

variable {name : FileName} {content : Bytes}

/-- What is read is the content of the file that the name leads to. -/
theorem readBelow_eq_ok_iff :
    t.readBelow base name = .ok content ↔
      ∃ fewer file, t.Leads (some base) ⟨linkLimit, base, [.enter name]⟩ ⟨fewer, file, []⟩ ∧
        t.at? file = some (.file content) := by
  unfold readBelow
  constructor
  · intro read
    split at read
    · cases read
    · rename_i file reached
      obtain ⟨fewer, leads⟩ := walk_eq_ok_iff.mp reached
      refine ⟨fewer, file, leads, ?_⟩
      unfold contentAt at read
      split at read <;> simp_all
  · intro h
    obtain ⟨fewer, file, leads, found⟩ := h
    simp only [walk_eq_ok_iff.mpr ⟨fewer, leads⟩, contentAt, found]

/-- Nothing is found exactly if an entry is missed on the way: at its end there is always
something that is no link. -/
theorem readBelow_eq_notFound_iff (here : t.at? base = some .directory) :
    t.readBelow base name = .error .notFound ↔
      t.Misses (some base) ⟨linkLimit, base, [.enter name]⟩ := by
  rw [← walk_eq_notFound_iff, readBelow]
  cases reached : t.walk (some base) linkLimit base [.enter name] with
  | error cause => simp
  | ok file =>
      obtain ⟨fewer, leads⟩ := walk_eq_ok_iff.mp reached
      have within : t.IsWithin base file := leads.isWithin (isWithin_self here)
      rcases within.2 file within.1 (List.prefix_refl file) with directory | ⟨content, found⟩
      · simp [contentAt, directory]
      · simp [contentAt, found]

end FileTree
end VolumeAttach
