/-
Module: VolumeAttach.Proofs.EntryPaths
Purpose: The way to an entry by its path: through its directory, and then into the entry of
  that name.
Main exports: isPlainName_iff, DevicePath.exists_encode_under, DevicePath.exists_steps_under,
  FileTree.IsPassable, FileTree.openDirectory_eq_ok_iff, FileTree.openDirectory_eq_notFound_iff,
  FileTree.leads_under, FileTree.Refuses, FileTree.openDirectory_under_of_absent,
  FileTree.openDirectory_append_slashes
-/
import VolumeAttach.Host.BlockDirectory
import VolumeAttach.Proofs.ByteOrder
import VolumeAttach.Proofs.DevicePaths
import VolumeAttach.Proofs.PathWalks

namespace VolumeAttach

open Text

/-!
A path is put together as a text and cut as bytes.  Below a directory the text gets a slash
and a name, or the name alone if the directory's text ends in a slash, and the bytes of the
whole are cut at that slash.  So the way to an entry is the way to its directory, as far as it
goes, and one step more.
-/

/-! ### Bytes of a name -/

/-- The byte of an ASCII character stands in the UTF-8 form of a text exactly if the character
stands in the text. -/
theorem ofNat_mem_encode_iff {c : Char} (ascii : c.toNat < 128) {s : String} :
    UInt8.ofNat c.toNat ∈ encode s ↔ c ∈ s.toList := by
  have low : (UInt8.ofNat c.toNat).toNat = c.toNat :=
    UInt8.toNat_ofNat_of_lt' (ascii.trans (by decide))
  have alone : ∀ d : Char, UInt8.ofNat c.toNat ∈ String.utf8EncodeChar d ↔ d = c := by
    intro d
    rw [String.utf8EncodeChar, ← Char.toNat_inj]
    show _ ↔ d.val.toNat = _
    -- A byte of any other form is one hundred and twenty-eight or more.
    split_ifs <;>
    · simp only [List.mem_cons, List.not_mem_nil, or_false, ← UInt8.toNat_inj, low,
        UInt8.toNat_ofNat']
      omega
  rw [encode_eq_flatMap, List.mem_flatMap]
  constructor
  · intro h
    obtain ⟨d, inside, found⟩ := h
    rwa [(alone d).mp found] at inside
  · exact fun inside => ⟨c, inside, (alone c).mpr rfl⟩

theorem slash_mem_encode_iff {s : String} : slash ∈ encode s ↔ '/' ∈ s.toList :=
  ofNat_mem_encode_iff (c := '/') (by decide)

theorem zero_mem_encode_iff {s : String} : 0 ∈ encode s ↔ '\x00' ∈ s.toList :=
  ofNat_mem_encode_iff (c := '\x00') (by decide)

theorem encode_slash : encode "/" = [slash] := rfl

theorem encode_slashes (n : Nat) :
    encode (String.ofList (List.replicate n '/')) = List.replicate n slash := by
  rw [encode_eq_flatMap, String.toList_ofList]
  induction n with
  | zero => rfl
  | succ n ih =>
      rw [List.replicate_succ, List.flatMap_cons, ih]
      rfl

/-- A plain name is one step of a path. -/
theorem isPlainName_iff {name : String} : isPlainName name = true ↔ IsEntryName name := by
  simp [isPlainName, IsEntryName, and_assoc]

/-- The step that such a name asks for is the one into the entry. -/
theorem IsEntryName.ofPiece?_encode {name : String} (entry : IsEntryName name) :
    Step.ofPiece? (encode name) = some (.enter (encode name)) := by
  obtain ⟨notEmpty, notDot, notDots, -⟩ := entry
  have h₁ : encode name ≠ [] := fun h => notEmpty (encode_inj.mp (h.trans rfl))
  have h₂ : encode name ≠ [46] := fun h => notDot (encode_inj.mp (h.trans rfl))
  have h₃ : encode name ≠ [46, 46] := fun h => notDots (encode_inj.mp (h.trans rfl))
  unfold Step.ofPiece?
  split <;> simp_all

/-! ### The text and its steps -/

/-- A slash at the end asks for one step that stays. -/
theorem Step.ofPath_append_slash (front : Bytes) :
    Step.ofPath (front ++ [slash]) = (pieces slash front).filterMap Step.ofPiece? ++ [.stay] := by
  rw [Step.ofPath, if_pos (by simp), pieces_append, List.filterMap_append]
  simp [pieces, Step.ofPiece?]

/-- Behind a slash a name is one step more. -/
theorem Step.ofPath_append_entry {name : String} (front : Bytes) (entry : IsEntryName name) :
    Step.ofPath (front ++ slash :: encode name) =
      (pieces slash front).filterMap Step.ofPiece? ++ [.enter (encode name)] := by
  have clean : slash ∉ encode name := fun inside => entry.2.2.2 (slash_mem_encode_iff.mp inside)
  have filled : encode name ≠ [] := fun h => entry.1 (encode_inj.mp (h.trans rfl))
  have last : (front ++ slash :: encode name).getLast? ≠ some slash := by
    rw [List.getLast?_append_of_ne_nil _ (List.cons_ne_nil _ _),
      List.getLast?_cons_of_ne_nil filled]
    exact fun h => clean (List.mem_of_mem_getLast? h)
  rw [Step.ofPath, if_neg last, pieces_append, pieces_of_not_mem clean, List.filterMap_append]
  simp [entry.ofPiece?_encode]

namespace DevicePath

variable {root : DevicePath} {name : String}

/-- Below a directory a name stands behind one slash, the directory's own or a new one. -/
theorem exists_text_under (entry : IsEntryName name) (ne : root.text ≠ "") :
    ∃ front, (root.text = front ∨ root.text = front ++ "/") ∧
      (root.under name).text = front ++ "/" ++ name := by
  have relative : name.toList.head? ≠ some '/' :=
    fun h => entry.2.2.2 (List.mem_of_mem_head? (by rw [h]; rfl))
  have filled : root.text.toList ≠ [] := fun h => ne (String.toList_inj.mp h)
  simp only [under, joinOf, if_neg relative, filled, false_or]
  split
  · rename_i ends
    obtain ⟨front, hfront⟩ := List.getLast?_eq_some_iff.mp ends
    refine ⟨String.ofList front, .inr ?_, ?_⟩
    · apply String.toList_inj.mp
      simp [hfront]
    · apply String.toList_inj.mp
      simp [hfront]
  · refine ⟨root.text, .inl rfl, ?_⟩
    apply String.toList_inj.mp
    simp

/-- The path of an entry is that of its directory and its name, with a slash between them if
none is there. -/
theorem exists_encode_under (entry : IsEntryName name) (ne : root.text ≠ "") :
    ∃ between, (between = [] ∨ between = [slash]) ∧
      encode (root.under name).text = encode root.text ++ (between ++ encode name) := by
  obtain ⟨front, spelled, whole⟩ := exists_text_under entry ne
  rcases spelled with spelled | spelled
  · exact ⟨[slash], .inr rfl, by rw [whole, spelled]; simp [encode_slash]⟩
  · exact ⟨[], .inl rfl, by rw [whole, spelled]; simp⟩

/-- The steps to an entry are those to its directory, but for a last one that stays there, and
the step into the entry. -/
theorem exists_steps_under (entry : IsEntryName name) (ne : root.text ≠ "") :
    ∃ steps, (Step.ofPath (encode root.text) = steps ∨
        Step.ofPath (encode root.text) = steps ++ [.stay]) ∧
      Step.ofPath (encode (root.under name).text) = steps ++ [.enter (encode name)] := by
  obtain ⟨front, spelled, whole⟩ := exists_text_under entry ne
  refine ⟨(pieces slash (encode front)).filterMap Step.ofPiece?, ?_, ?_⟩
  · rcases spelled with spelled | spelled
    · rw [spelled, Step.ofPath]
      split
      · exact .inr rfl
      · exact .inl (List.append_nil _)
    · right
      rw [spelled, encode_append, encode_slash, Step.ofPath_append_slash]
  · rw [whole, encode_append, encode_append, encode_slash, List.append_assoc, List.singleton_append]
    exact Step.ofPath_append_entry _ entry

end DevicePath

/-- Setting out on a path, in the directory where it begins. -/
def Walker.setOut (work : Location) (path : Bytes) : Walker :=
  ⟨linkLimit, FileTree.origin work path, Step.ofPath path⟩

namespace FileTree

variable {t : FileTree} {work home l : Location} {root : DevicePath} {name : String}
  {path : Bytes}

/-! ### The way to an entry -/

/-- A path that is looked at: it has no zero byte, and it is neither empty nor too long. -/
def IsPassable (path : Bytes) : Prop := 0 ∉ path ∧ path ≠ [] ∧ path.length < pathLimit

theorem resolve_of_passable (passable : IsPassable path) :
    t.resolve work path = t.walk none linkLimit (origin work path) (Step.ofPath path) := by
  obtain ⟨clean, ne, short⟩ := passable
  rw [resolve, if_neg clean, if_neg ne, if_neg (Nat.not_le.mpr short)]

/-- A path is looked at, or it is refused for what it is. -/
theorem passable_or_refused (t : FileTree) (work : Location) (path : Bytes) :
    IsPassable path ∨
      (0 ∈ path ∧ t.resolve work path = .error .nulInPath) ∨
      (path = [] ∧ t.resolve work path = .error .notFound) ∨
      (pathLimit ≤ path.length ∧ t.resolve work path = .error .nameTooLong) := by
  by_cases zero : 0 ∈ path
  · exact .inr (.inl ⟨zero, if_pos zero⟩)
  by_cases empty : path = []
  · exact .inr (.inr (.inl ⟨empty, by rw [resolve, if_neg zero, if_pos empty]⟩))
  by_cases long : pathLimit ≤ path.length
  · exact .inr (.inr (.inr ⟨long, by rw [resolve, if_neg zero, if_neg empty, if_pos long]⟩))
  · exact .inl ⟨zero, empty, Nat.not_le.mp long⟩

theorem isPassable_of_resolve (resolved : t.resolve work path = .ok l) : IsPassable path := by
  rcases passable_or_refused t work path with passable | ⟨-, refused⟩ | ⟨-, refused⟩ | ⟨-, refused⟩
  · exact passable
  · exact nomatch refused.symm.trans resolved
  · exact nomatch refused.symm.trans resolved
  · exact nomatch refused.symm.trans resolved

theorem openDirectory_eq_ok_iff :
    t.openDirectory work path = .ok l ↔
      t.resolve work path = .ok l ∧ t.at? l = some .directory := by
  unfold openDirectory
  cases t.resolve work path with
  | error cause => simp
  | ok reached =>
      by_cases here : t.at? reached = some .directory
      · simp only [if_pos here, Except.ok.injEq]
        constructor
        · rintro rfl
          exact ⟨rfl, here⟩
        · exact And.left
      · simp only [if_neg here, Except.ok.injEq, reduceCtorEq, false_iff]
        intro h
        obtain ⟨rfl, there⟩ := h
        exact here there

theorem isPassable_of_openDirectory (opened : t.openDirectory work path = .ok l) :
    IsPassable path :=
  isPassable_of_resolve (openDirectory_eq_ok_iff.mp opened).1

/-- A path that goes on begins where it began. -/
theorem origin_append (ne : path ≠ []) (rest : Bytes) :
    origin work (path ++ rest) = origin work path := by
  rw [origin, origin, List.head?_append_of_ne_nil _ ne]

/-- On a path that is looked at, nothing is found exactly if the walk misses an entry. -/
theorem openDirectory_eq_notFound_iff (ne : path ≠ []) :
    t.openDirectory work path = .error .notFound ↔
      IsPassable path ∧ t.Misses none (.setOut work path) := by
  have ofResolve : t.openDirectory work path = .error .notFound ↔
      t.resolve work path = .error .notFound := by
    unfold openDirectory
    split
    · rename_i cause failed
      rw [failed]
    · rename_i reached resolved
      rw [resolved]
      split <;> simp
  rw [ofResolve]
  constructor
  · intro missing
    have passable : IsPassable path := by
      rcases passable_or_refused t work path with
        passable | ⟨-, refused⟩ | ⟨empty, -⟩ | ⟨-, refused⟩
      · exact passable
      · exact nomatch refused.symm.trans missing
      · exact absurd empty ne
      · exact nomatch refused.symm.trans missing
    rw [resolve_of_passable passable] at missing
    exact ⟨passable, walk_eq_notFound_iff.mp missing⟩
  · intro h
    obtain ⟨passable, misses⟩ := h
    rw [resolve_of_passable passable]
    exact walk_eq_notFound_iff.mpr misses

theorem ne_of_openDirectory (opened : t.openDirectory work (encode root.text) = .ok home) :
    root.text ≠ "" := by
  intro empty
  have passable := isPassable_of_openDirectory opened
  exact passable.2.1 (by rw [empty]; rfl)

/-- The path of an entry is not empty. -/
theorem encode_under_ne (opened : t.openDirectory work (encode root.text) = .ok home)
    (entry : IsEntryName name) : encode (root.under name).text ≠ [] := by
  have passable := isPassable_of_openDirectory opened
  obtain ⟨between, -, longer⟩ := DevicePath.exists_encode_under entry (ne_of_openDirectory opened)
  rw [longer]
  exact List.append_ne_nil_of_left_ne_nil passable.2.1 _

/-- The way to an entry of a directory comes to that directory, with one step left. -/
theorem leads_under (opened : t.openDirectory work (encode root.text) = .ok home)
    (entry : IsEntryName name) :
    ∃ links, t.Leads none (.setOut work (encode (root.under name).text))
      ⟨links, home, [.enter (encode name)]⟩ := by
  have resolved := (openDirectory_eq_ok_iff.mp opened).1
  have passable := isPassable_of_openDirectory opened
  have ne := ne_of_openDirectory opened
  obtain ⟨steps, spelled, whole⟩ := DevicePath.exists_steps_under entry ne
  obtain ⟨between, -, longer⟩ := DevicePath.exists_encode_under entry ne
  have start : origin work (encode (root.under name).text) = origin work (encode root.text) := by
    rw [longer, origin_append passable.2.1]
  rw [resolve_of_passable passable] at resolved
  have first : t.walk none linkLimit (origin work (encode root.text)) steps = .ok home := by
    rcases spelled with spelled | spelled
    · rwa [spelled] at resolved
    · rw [spelled] at resolved
      exact walk_of_append_stay resolved
  obtain ⟨links, goesOn⟩ := walk_append first
  rw [Walker.setOut, start, whole]
  exact ⟨links, goesOn _⟩

/-- A path of an entry that is looked at leads where its directory's entry leads. -/
theorem exists_resolve_under (opened : t.openDirectory work (encode root.text) = .ok home)
    (entry : IsEntryName name) (passable : IsPassable (encode (root.under name).text)) :
    ∃ links, t.resolve work (encode (root.under name).text) =
      t.walk none links home [.enter (encode name)] := by
  obtain ⟨links, leads⟩ := leads_under opened entry
  exact ⟨links, (resolve_of_passable passable).trans leads.walk_eq⟩

/-! ### Entries that are not there -/

/-- What keeps a name from being looked up: a zero byte in it, its own length, or the length of
the path in which it is the last name. -/
inductive Refuses (root : DevicePath) (name : String) : FileError → Prop where
  | zero (inside : '\x00' ∈ name.toList) : Refuses root name .nulInPath
  | longName (long : longestName < (encode name).length) : Refuses root name .nameTooLong
  | longPath (long : pathLimit ≤ (encode (root.under name).text).length) :
      Refuses root name .nameTooLong

/-- A zero byte in the path of an entry is one of its directory's path or of its name. -/
theorem zero_mem_under_iff (entry : IsEntryName name) (ne : root.text ≠ "") :
    0 ∈ encode (root.under name).text ↔ 0 ∈ encode root.text ∨ '\x00' ∈ name.toList := by
  obtain ⟨between, spelled, whole⟩ := DevicePath.exists_encode_under entry ne
  have noZero : 0 ∉ between := by
    rcases spelled with rfl | rfl <;> decide
  rw [whole, List.mem_append, List.mem_append, or_iff_right noZero,
    zero_mem_encode_iff (s := name)]

/-- What a directory does not hold is not found, unless its name is not looked up at all: then
the reason is told. -/
theorem openDirectory_under_of_absent
    (opened : t.openDirectory work (encode root.text) = .ok home) (entry : IsEntryName name)
    (absent : t.at? (home ++ [encode name]) = none) :
    ∃ cause, t.openDirectory work (encode (root.under name).text) = .error cause ∧
      ((cause = .notFound ∧ ∀ why, ¬ Refuses root name why) ∨ Refuses root name cause) := by
  have here := (openDirectory_eq_ok_iff.mp opened).2
  have zeroIff := zero_mem_under_iff entry (ne_of_openDirectory opened)
  rcases passable_or_refused t work (encode (root.under name).text) with
    passable | ⟨zero, refused⟩ | ⟨empty, -⟩ | ⟨long, refused⟩
  · obtain ⟨links, same⟩ := exists_resolve_under opened entry passable
    by_cases fits : (encode name).length ≤ longestName
    · have missing : t.Halts none ⟨links, home, [.enter (encode name)]⟩ (.error .notFound) :=
        .missing here fits absent
      refine ⟨.notFound, ?_, .inl ⟨rfl, ?_⟩⟩
      · rw [openDirectory, same, missing.walk_eq]
      · intro why refused
        cases refused with
        | zero inside => exact passable.1 (zeroIff.mpr (.inr inside))
        | longName tooLong => exact absurd fits (Nat.not_le.mpr tooLong)
        | longPath tooLong => exact absurd passable.2.2 (Nat.not_lt.mpr tooLong)
    · have tooLong : t.Halts none ⟨links, home, [.enter (encode name)]⟩ (.error .nameTooLong) :=
        .nameTooLong here (Nat.not_le.mp fits)
      refine ⟨.nameTooLong, ?_, .inr (.longName (Nat.not_le.mp fits))⟩
      rw [openDirectory, same, tooLong.walk_eq]
  · have inName := (zeroIff.mp zero).resolve_left (isPassable_of_openDirectory opened).1
    exact ⟨.nulInPath, by rw [openDirectory, refused], .inr (.zero inName)⟩
  · exact absurd empty (encode_under_ne opened entry)
  · exact ⟨.nameTooLong, by rw [openDirectory, refused], .inr (.longPath long)⟩

/-! ### Slashes at the end -/

/-- One more slash at the end of a directory's path leads to the same directory, as long as the
path is not too long. -/
theorem openDirectory_append_slash (opened : t.openDirectory work path = .ok home)
    (short : path.length + 1 < pathLimit) : t.openDirectory work (path ++ [slash]) = .ok home := by
  obtain ⟨resolved, here⟩ := openDirectory_eq_ok_iff.mp opened
  obtain ⟨clean, ne, -⟩ := isPassable_of_openDirectory opened
  have passable : IsPassable (path ++ [slash]) := by
    refine ⟨?_, List.append_ne_nil_of_left_ne_nil ne _, by simpa using short⟩
    intro inside
    rcases List.mem_append.mp inside with inside | inside
    · exact clean inside
    · exact absurd inside (by decide)
  rw [resolve_of_passable ⟨clean, ne, (Nat.lt_succ_self _).trans short⟩] at resolved
  refine openDirectory_eq_ok_iff.mpr ⟨?_, here⟩
  rw [resolve_of_passable passable, origin_append ne, Step.ofPath_append_slash]
  by_cases ends : path.getLast? = some slash
  · rwa [Step.ofPath, if_pos ends] at resolved
  · rw [Step.ofPath, if_neg ends, List.append_nil] at resolved
    obtain ⟨fewer, goesOn⟩ := walk_append resolved
    exact walk_eq_ok_iff.mpr ⟨fewer, (goesOn [.stay]).tail (.stay here)⟩

theorem openDirectory_append_slashes (n : Nat) (opened : t.openDirectory work path = .ok home)
    (short : path.length + n < pathLimit) :
    t.openDirectory work (path ++ List.replicate n slash) = .ok home := by
  induction n with
  | zero => simpa using opened
  | succ n ih =>
      rw [List.replicate_succ', ← List.append_assoc]
      apply openDirectory_append_slash (ih (by omega))
      rw [List.length_append, List.length_replicate]
      omega

end FileTree
end VolumeAttach
