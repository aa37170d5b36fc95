/-
Module: VolumeAttach.Proofs.DeviceLookups
Purpose: What the lookup of a size has to do with the listing of the block devices.
Main exports: BlockDirectory.Fails, BlockDirectory.size_cases, BlockDirectory.ReadsOwn,
  BlockDirectory.Dangles, BlockDirectory.LacksSize, BlockDirectory.size_agrees_with_list
-/
import VolumeAttach.Proofs.EntryNames
import VolumeAttach.Proofs.SizeReadings

namespace VolumeAttach

open Text

/-!
The listing opens the root and shows the names in it.  A lookup does not open the root: it
follows one path from the working directory to the device, through whatever links there are,
and then the name of the size file inside.  That both speak of the same entries is therefore
no matter of course.  It holds because the path of a device leads to the root first, with one
step left, and because that step is into an entry of the device's own name.
-/

namespace BlockDirectory

variable {d : BlockDirectory} {t : FileTree} {names : NameSet} {name : String} {home : Location}
  {cause : FileError} {content : String}

/-! ### The listing -/

/-- A listing shows the entries of the root. -/
theorem exists_home_of_list (listed : d.list t = .ok names) :
    ∃ home, t.openDirectory d.work (encode d.root.text) = .ok home ∧
      ∀ name, name ∈ names ↔ t.at? (home ++ [encode name]) ≠ none := by
  unfold list at listed
  split at listed
  · cases listed
  · rename_i home opened
    split at listed
    · rename_i texts read
      obtain rfl := Except.ok.inj listed
      refine ⟨home, opened, ?_⟩
      intro name
      rw [NameSet.mem_ofList, ← FileTree.mem_names, mapM_decode?_eq_some_iff.mp read,
        List.mem_map_of_injective fun _ _ => encode_inj.mp]
    · cases listed

/-! ### How a lookup goes -/

/-- What is in the way of reading the size of a device. -/
inductive Fails (d : BlockDirectory) (t : FileTree) (name : String) : FileError → Prop where
  | opening {cause : FileError}
      (failed : t.openDirectory d.work (encode (d.root.under name).text) = .error cause) :
      Fails d t name cause
  | reading {device : Location} {cause : FileError}
      (opened : t.openDirectory d.work (encode (d.root.under name).text) = .ok device)
      (failed : t.readBelow device (encode sizeName) = .error cause) : Fails d t name cause
  | decoding {device : Location} {bytes : Bytes}
      (opened : t.openDirectory d.work (encode (d.root.under name).text) = .ok device)
      (read : t.readBelow device (encode sizeName) = .ok bytes) (noText : decode? bytes = none) :
      Fails d t name .contentNotText

/-- A name that no entry can have is no device. -/
theorem size_of_foreign (foreign : ¬ IsEntryName name) :
    d.size t name = .error (.deviceNotFound name) :=
  if_neg (mt isPlainName_iff.mp foreign)

theorem size_of_fails (entry : IsEntryName name) (fails : d.Fails t name cause) :
    d.size t name = .error (d.lookupError name cause) := by
  rw [size, if_pos (isPlainName_iff.mpr entry)]
  cases fails with
  | opening failed => simp only [failed]
  | reading opened failed => simp only [opened, failed]
  | decoding opened read noText => simp only [opened, read, noText]

/-- Something is in the way of a size, or a text is read. -/
theorem fails_or_holds (entry : IsEntryName name) :
    (∃ cause, d.Fails t name cause) ∨ ∃ content, d.Holds t name content := by
  cases opened : t.openDirectory d.work (encode (d.root.under name).text) with
  | error cause => exact .inl ⟨cause, .opening opened⟩
  | ok device =>
      cases read : t.readBelow device (encode sizeName) with
      | error cause => exact .inl ⟨cause, .reading opened read⟩
      | ok bytes =>
          cases text : decode? bytes with
          | none => exact .inl ⟨.contentNotText, .decoding opened read text⟩
          | some content =>
              obtain rfl := decode?_eq_some_iff.mp text
              exact .inr ⟨content, isPlainName_iff.mpr entry, device, opened, read⟩

/-- Where a text is read, no device is told to be missing. -/
theorem size_ne_of_holds (holds : d.Holds t name content) :
    d.size t name ≠ .error (.deviceNotFound name) := by
  rw [size_of_holds holds]
  cases readSize content <;> simp [Except.mapError]

@[simp] theorem lookupError_eq_deviceNotFound_iff :
    d.lookupError name cause = .deviceNotFound name ↔ cause = .notFound := by
  cases cause <;> simp [lookupError]

theorem lookupError_of_ne (ne : cause ≠ .notFound) :
    d.lookupError name cause = .io (d.sizePath name).text cause.message := by
  cases cause with
  | notFound => exact absurd rfl ne
  | _ => rfl

/-- A device is missing exactly if its name is that of no entry, or something on the way to its
size is not found. -/
theorem size_eq_deviceNotFound_iff (entry : IsEntryName name) :
    d.size t name = .error (.deviceNotFound name) ↔ d.Fails t name .notFound := by
  constructor
  · intro missing
    rcases d.fails_or_holds entry with ⟨cause, fails⟩ | ⟨content, holds⟩
    · rw [size_of_fails entry fails, Except.error.injEq,
        lookupError_eq_deviceNotFound_iff] at missing
      rwa [missing] at fails
    · exact absurd missing (size_ne_of_holds holds)
  · intro fails
    exact size_of_fails entry fails

/-! ### What is read -/

/-- A text is read from the device of this name: the root holds an entry of the name, the last
step of the way to the device's directory is into that entry, and the file is the one that the
name of the size file leads to, with no way out of that directory. -/
structure ReadsOwn (d : BlockDirectory) (t : FileTree) (name content : String)
    (home device file : Location) : Prop where
  root : t.openDirectory d.work (encode d.root.text) = .ok home
  listed : t.at? (home ++ [encode name]) ≠ none
  opened : t.openDirectory d.work (encode (d.root.under name).text) = .ok device
  through : ∃ links fewer,
    t.Leads none ⟨links, home, [.enter (encode name)]⟩ ⟨fewer, device, []⟩
  inside : ∃ fewer,
    t.Leads (some device) ⟨linkLimit, device, [.enter (encode sizeName)]⟩ ⟨fewer, file, []⟩
  within : t.IsWithin device file
  stored : t.at? file = some (.file (encode content))

/-- A text that is read is read from the device of that name. -/
theorem Holds.readsOwn (holds : d.Holds t name content)
    (opened : t.openDirectory d.work (encode d.root.text) = .ok home) :
    ∃ device file, d.ReadsOwn t name content home device file := by
  obtain ⟨plain, device, found, read⟩ := holds
  obtain ⟨resolved, here⟩ := FileTree.openDirectory_eq_ok_iff.mp found
  obtain ⟨links, same⟩ := FileTree.exists_resolve_under opened (isPlainName_iff.mp plain)
    (FileTree.isPassable_of_openDirectory found)
  obtain ⟨fewer, leads⟩ := FileTree.walk_eq_ok_iff.mp (same.symm.trans resolved)
  obtain ⟨left, file, inside, stored⟩ := FileTree.readBelow_eq_ok_iff.mp read
  exact ⟨device, file,
    { root := opened
      listed := leads.entry_ne_none
      opened := found
      through := ⟨links, fewer, leads⟩
      inside := ⟨left, inside⟩
      within := inside.isWithin (FileTree.isWithin_self here)
      stored := stored }⟩

/-! ### What is missing -/

/-- The entry of this name is a link, and the way through it comes to a directory that lacks
the name that is next. -/
def Dangles (d : BlockDirectory) (t : FileTree) (name : String) : Prop :=
  (∃ home target, t.openDirectory d.work (encode d.root.text) = .ok home ∧
    t.at? (home ++ [encode name]) = some (.link target)) ∧
  FileTree.IsPassable (encode (d.root.under name).text) ∧
  t.Misses none (.setOut d.work (encode (d.root.under name).text))

/-- The device's directory has no entry for the size, or one that is a link and leads to
a directory that lacks the name that is next. -/
def LacksSize (d : BlockDirectory) (t : FileTree) (name : String) : Prop :=
  ∃ device, t.openDirectory d.work (encode (d.root.under name).text) = .ok device ∧
    t.Misses (some device) ⟨linkLimit, device, [.enter (encode sizeName)]⟩

/-- Of a name that is listed, what is not found is the end of its link or its size. -/
theorem fails_notFound_iff (opened : t.openDirectory d.work (encode d.root.text) = .ok home)
    (entry : IsEntryName name) (there : t.at? (home ++ [encode name]) ≠ none) :
    d.Fails t name .notFound ↔ d.Dangles t name ∨ d.LacksSize t name := by
  have filled := FileTree.encode_under_ne opened entry
  constructor
  · intro fails
    cases fails with
    | opening failed =>
        obtain ⟨passable, misses⟩ := (FileTree.openDirectory_eq_notFound_iff filled).mp failed
        obtain ⟨links, leads⟩ := FileTree.leads_under opened entry
        obtain ⟨target, link⟩ := (leads.misses_iff.mp misses).exists_link there
        exact .inl ⟨⟨home, target, opened, link⟩, passable, misses⟩
    | reading found failed =>
        have here := (FileTree.openDirectory_eq_ok_iff.mp found).2
        exact .inr ⟨_, found, (FileTree.readBelow_eq_notFound_iff here).mp failed⟩
  · intro missing
    rcases missing with ⟨-, passable, misses⟩ | ⟨device, found, misses⟩
    · exact .opening ((FileTree.openDirectory_eq_notFound_iff filled).mpr ⟨passable, misses⟩)
    · have here := (FileTree.openDirectory_eq_ok_iff.mp found).2
      exact .reading found ((FileTree.readBelow_eq_notFound_iff here).mpr misses)

/-! ### Names that are not listed -/

/-- A name that is not listed is not found, unless the system does not look it up. -/
theorem size_of_not_listed (opened : t.openDirectory d.work (encode d.root.text) = .ok home)
    (entry : IsEntryName name) (absent : t.at? (home ++ [encode name]) = none) :
    (d.size t name = .error (.deviceNotFound name) ∧
      ∀ cause, ¬ FileTree.Refuses d.root name cause) ∨
    ∃ cause, FileTree.Refuses d.root name cause ∧
      d.size t name = .error (.io (d.sizePath name).text cause.message) := by
  obtain ⟨cause, failed, why⟩ := FileTree.openDirectory_under_of_absent opened entry absent
  rw [size_of_fails entry (.opening failed)]
  rcases why with ⟨rfl, free⟩ | refused
  · exact .inl ⟨rfl, free⟩
  · have other : cause ≠ .notFound := by
      rintro rfl
      cases refused
    exact .inr ⟨cause, refused, by rw [lookupError_of_ne other]⟩

/-- A root may have as many slashes at its end as leave no room for a name. -/
theorem size_below_slashes {n : Nat} (room : 5 + n < pathLimit) (full : pathLimit ≤ 9 + n) :
    let t : FileTree := ⟨[([encode "block"], .directory)]⟩
    let d : BlockDirectory := ⟨[], ⟨"block" ++ String.ofList (List.replicate n '/')⟩⟩
    d.list t = .ok ∅ ∧
      d.size t "xvdq" =
        .error (.io (d.sizePath "xvdq").text "File name too long (os error 36)") := by
  intro t d
  have root : encode d.root.text = encode "block" ++ List.replicate n slash := by
    rw [← encode_slashes, ← encode_append]
  have opened : t.openDirectory d.work (encode d.root.text) = .ok [encode "block"] := by
    rw [root]
    exact FileTree.openDirectory_append_slashes n (by cbv) room
  have names : t.names [encode "block"] = [] := by cbv
  have listed : d.list t = .ok ∅ := by
    simp only [list, opened, names]
    rfl
  have entry : IsEntryName "xvdq" := by decide
  have long : pathLimit ≤ (encode (d.root.under "xvdq").text).length := by
    obtain ⟨between, -, whole⟩ :=
      DevicePath.exists_encode_under entry (FileTree.ne_of_openDirectory opened)
    have front : (encode "block").length = 5 := rfl
    have last : (encode "xvdq").length = 4 := rfl
    rw [whole, root, List.length_append, List.length_append, List.length_append,
      List.length_replicate, front, last]
    omega
  refine ⟨listed, ?_⟩
  rcases size_of_not_listed opened entry (by cbv) with ⟨-, free⟩ | ⟨cause, refused, size⟩
  · exact absurd (.longPath long) (free .nameTooLong)
  · cases refused with
    | zero inside => exact absurd inside (by decide)
    | longName tooLong => exact size
    | longPath tooLong => exact size

/-! ### Both together -/

/-- What is neither missing nor read is a failure of the system. -/
theorem size_cases (present : d.size t name ≠ .error (.deviceNotFound name)) :
    (∃ content, d.Holds t name content ∧
      d.size t name = (readSize content).mapError (.malformed (d.sizePath name).text)) ∨
    ∃ cause, d.Fails t name cause ∧
      d.size t name = .error (.io (d.sizePath name).text cause.message) := by
  have entry : IsEntryName name := not_not.mp (mt size_of_foreign present)
  rcases d.fails_or_holds entry with ⟨cause, fails⟩ | ⟨content, holds⟩
  · have other : cause ≠ .notFound := by
      rintro rfl
      exact present ((size_eq_deviceNotFound_iff entry).mpr fails)
    right
    exact ⟨cause, fails, by rw [size_of_fails entry fails, lookupError_of_ne other]⟩
  · exact .inl ⟨content, holds, size_of_holds holds⟩

/-- A device has a size, or one that is malformed, only if it is listed, and then what was read
is its own.  A name that is not listed is not found, unless the system does not look it up for
a zero byte or for its length or that of its path; a name that no entry can have is never
found.  A name that is listed, in a tree with names that entries can have, is not found exactly
if its link dangles or its directory has no size.  What is neither read nor missing is a failure
of the system, with the path of the size file. -/
theorem size_agrees_with_list (listed : d.list t = .ok names) (name : String) :
    ((∃ bytes, d.size t name = .ok bytes) ∨
        (∃ path message, d.size t name = .error (.malformed path message)) →
      name ∈ names ∧ ∃ content home device file, d.ReadsOwn t name content home device file ∧
        d.size t name = (readSize content).mapError (.malformed (d.sizePath name).text)) ∧
    (name ∉ names →
      d.size t name = .error (.deviceNotFound name) ∨
        ∃ cause, FileTree.Refuses d.root name cause ∧
          d.size t name = .error (.io (d.sizePath name).text cause.message)) ∧
    (name = "" ∨ name = "." ∨ name = ".." ∨ '/' ∈ name.toList →
      ∀ other : FileTree, d.size other name = .error (.deviceNotFound name)) ∧
    (t.IsNamed → name ∈ names →
      (d.size t name = .error (.deviceNotFound name) ↔
        d.Dangles t name ∨ d.LacksSize t name)) ∧
    (d.size t name ≠ .error (.deviceNotFound name) →
      (∃ content, d.Holds t name content ∧
        d.size t name = (readSize content).mapError (.malformed (d.sizePath name).text)) ∨
      ∃ cause, d.Fails t name cause ∧
        d.size t name = .error (.io (d.sizePath name).text cause.message)) := by
  obtain ⟨home, opened, shown⟩ := exists_home_of_list listed
  refine ⟨?_, ?_, ?_, ?_, size_cases⟩
  · intro given
    have present : d.size t name ≠ .error (.deviceNotFound name) := by
      rcases given with ⟨bytes, size⟩ | ⟨path, message, size⟩ <;> simp [size]
    rcases size_cases present with ⟨content, holds, size⟩ | ⟨cause, -, size⟩
    · obtain ⟨device, file, own⟩ := holds.readsOwn opened
      exact ⟨(shown name).mpr own.listed, content, home, device, file, own, size⟩
    · rcases given with ⟨bytes, other⟩ | ⟨path, message, other⟩
      · exact nomatch size.symm.trans other
      · exact nomatch size.symm.trans other
  · intro unlisted
    have absent := not_not.mp (mt (shown name).mpr unlisted)
    by_cases entry : IsEntryName name
    · exact (size_of_not_listed opened entry absent).imp_left And.left
    · exact .inl (size_of_foreign entry)
  · intro odd other
    apply size_of_foreign
    intro entry
    obtain ⟨ne, notDot, notDots, noSlash⟩ := entry
    rcases odd with odd | odd | odd | odd
    · exact ne odd
    · exact notDot odd
    · exact notDots odd
    · exact noSlash odd
  · intro named inside
    have there := (shown name).mp inside
    have entry : IsEntryName name :=
      isFileName_encode_iff.mp (named home _ (FileTree.mem_names.mpr there))
    rw [size_eq_deviceNotFound_iff entry]
    exact fails_notFound_iff opened entry there

/-- One entry is a link to a device elsewhere, another a link to nothing. -/
theorem size_agrees_with_list_of_links :
    let t : FileTree := FileTree.applyAll {} [] [
      .makeLink (encode "block/gone") (encode "../dev/gone"),
      .makeLink (encode "block/xvdq") (encode "../dev/xvdq"),
      .writeFile (encode "dev/xvdq/size") (encode "8\n")]
    let d : BlockDirectory := ⟨[], ⟨"block"⟩⟩
    let names := NameSet.ofList ["gone", "xvdq"]
    d.list t = .ok names ∧
      (d.size t "xvdq" = .ok 4096 ∧ "xvdq" ∈ names ∧
        ∃ content home device file, d.ReadsOwn t "xvdq" content home device file) ∧
      (d.Dangles t "gone" ∨ d.LacksSize t "gone") ∧
      d.size t "../dev/xvdq" = .error (.deviceNotFound "../dev/xvdq") := by
  intro t d names
  have named : t.IsNamed := FileTree.isNamed_applyAll FileTree.isNamed_empty _
  have made : t = ⟨[
      ([encode "dev", encode "xvdq", encode "size"], .file (encode "8\n")),
      ([encode "dev", encode "xvdq"], .directory), ([encode "dev"], .directory),
      ([encode "block", encode "xvdq"], .link (encode "../dev/xvdq")),
      ([encode "block", encode "gone"], .link (encode "../dev/gone")),
      ([encode "block"], .directory)]⟩ := by
    unfold t
    cbv
  have listed : d.list t = .ok names := by
    rw [made]
    cbv
  have size : d.size t "xvdq" = .ok 4096 := by
    rw [made]
    cbv
  have lost : d.size t "gone" = .error (.deviceNotFound "gone") := by
    rw [made]
    cbv
  obtain ⟨inside, content, home, device, file, own, -⟩ :=
    (size_agrees_with_list listed "xvdq").1 (.inl ⟨4096, size⟩)
  obtain ⟨-, -, -, missing, -⟩ := size_agrees_with_list listed "gone"
  obtain ⟨-, -, foreign, -, -⟩ := size_agrees_with_list listed "../dev/xvdq"
  exact ⟨listed, ⟨size, inside, content, home, device, file, own⟩,
    (missing named (by decide)).mp lost, foreign (by decide) t⟩

/-- A name that is short and clean, and that is not listed, can still be one that the system
does not look up: the path of the root leaves no room for it. -/
theorem size_of_long_path :
    let t : FileTree := ⟨[([encode "block"], .directory)]⟩
    let d : BlockDirectory := ⟨[], ⟨"block" ++ String.ofList (List.replicate 4089 '/')⟩⟩
    d.list t = .ok ∅ ∧ "xvdq" ∉ (∅ : NameSet) ∧
      '\x00' ∉ "xvdq".toList ∧ (encode "xvdq").length ≤ longestName ∧
      d.size t "xvdq" =
        .error (.io (d.sizePath "xvdq").text "File name too long (os error 36)") ∧
      d.size t "xvdq" ≠ .error (.deviceNotFound "xvdq") := by
  intro t d
  obtain ⟨listed, size⟩ : d.list t = .ok ∅ ∧ d.size t "xvdq" =
      .error (.io (d.sizePath "xvdq").text "File name too long (os error 36)") :=
    size_below_slashes (by decide) (by decide)
  have other : d.size t "xvdq" ≠ .error (.deviceNotFound "xvdq") := by
    rw [size]
    exact fun same => nomatch same
  exact ⟨listed, NameSet.not_mem_empty _, by decide, by decide, size, other⟩

end BlockDirectory
end VolumeAttach
