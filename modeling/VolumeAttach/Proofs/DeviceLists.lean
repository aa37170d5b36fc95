/-
Module: VolumeAttach.Proofs.DeviceLists
Purpose: Which devices are listed, when a list fails and as what, and that both forms of a
  list are forms of one list.
Main exports: InventoryError.IsGone, Sight.Shows, Sight.FailsAs, Sight.shows_or_failsAs,
  Sight.devices_cases, Sight.Shows.answer_list, Sight.FailsAs.answer_list,
  commands_answer_in_full
-/
import Mathlib
import VolumeAttach.Proofs.ByteOrder
import VolumeAttach.Proofs.Commands
import VolumeAttach.Proofs.ListingTexts

namespace VolumeAttach

open Text

/-!
The devices are sized one after the other, and what happens with a failure depends on its
kind: a device that is gone is passed over, anything else ends the command, whatever was
sized before.  What a list has to show is said here of the look at the host as a whole,
without an order of work: it shows each listed device that has a size, and it fails as the
first in byte order of those that fail and are not gone.
-/

/-- A failure that says no more than that the device is not there. -/
def InventoryError.IsGone : InventoryError → Prop
  | .deviceNotFound _ => True
  | _ => False

/-! ### Sizing one device after the other -/

section Sizing

variable {size : String → Except InventoryError UInt64} {names : List String}
  {name : String} {cause : InventoryError}

/-- Whatever fails is gone. -/
def OnlyGone (size : String → Except InventoryError UInt64) (names : List String) : Prop :=
  ∀ name ∈ names, ∀ cause, size name = .error cause → cause.IsGone

theorem onlyGone_cons {rest : List String} :
    OnlyGone size (name :: rest) ↔
      (∀ cause, size name = .error cause → cause.IsGone) ∧ OnlyGone size rest :=
  List.forall_mem_cons

/-- A device that has a size, with its size. -/
def sized? (size : String → Except InventoryError UInt64) (name : String) : Option DeviceEntry :=
  (size name).toOption.map fun bytes => ⟨name, bytes⟩

theorem sized?_eq_some_iff {e : DeviceEntry} :
    sized? size name = some e ↔ e.name = name ∧ size name = .ok e.size := by
  unfold sized?
  cases size name with
  | error cause => simp [Except.toOption]
  | ok bytes =>
      cases e
      simp [Except.toOption, eq_comm]

theorem deviceEntries_cons_of_ok {bytes : UInt64} {rest : List String}
    (sized : size name = .ok bytes) :
    deviceEntries size (name :: rest) = (deviceEntries size rest).map (⟨name, bytes⟩ :: ·) := by
  rw [deviceEntries, sized]

/-- A device that is gone is passed over. -/
theorem deviceEntries_cons_of_gone {rest : List String} (failed : size name = .error cause)
    (gone : cause.IsGone) : deviceEntries size (name :: rest) = deviceEntries size rest := by
  rw [deviceEntries, failed]
  cases cause with
  | deviceNotFound other => rfl
  | malformed path message => exact gone.elim
  | io path message => exact gone.elim

/-- Any other failure ends the walk. -/
theorem deviceEntries_cons_of_present {rest : List String} (failed : size name = .error cause)
    (present : ¬ cause.IsGone) : deviceEntries size (name :: rest) = .error cause := by
  rw [deviceEntries, failed]
  cases cause with
  | deviceNotFound other => exact absurd trivial present
  | malformed path message => rfl
  | io path message => rfl

/-- If what fails is gone, the devices that have a size are listed. -/
theorem deviceEntries_of_onlyGone (gone : OnlyGone size names) :
    deviceEntries size names = .ok (names.filterMap (sized? size)) := by
  induction names with
  | nil => rfl
  | cons name rest ih =>
      obtain ⟨here, after⟩ := onlyGone_cons.mp gone
      rw [List.filterMap_cons, sized?]
      cases hsize : size name with
      | ok bytes =>
          rw [deviceEntries_cons_of_ok hsize, ih after]
          rfl
      | error cause =>
          rw [deviceEntries_cons_of_gone hsize (here cause hsize), ih after]
          rfl

/-- The first failure of any other kind is the failure of the whole. -/
theorem deviceEntries_of_failing {earlier later : List String} (gone : OnlyGone size earlier)
    (failed : size name = .error cause) (present : ¬ cause.IsGone) :
    deviceEntries size (earlier ++ name :: later) = .error cause := by
  induction earlier with
  | nil => exact deviceEntries_cons_of_present failed present
  | cons first rest ih =>
      obtain ⟨here, after⟩ := onlyGone_cons.mp gone
      rw [List.cons_append]
      cases hsize : size first with
      | ok bytes =>
          rw [deviceEntries_cons_of_ok hsize, ih after]
          rfl
      | error other => rw [deviceEntries_cons_of_gone hsize (here other hsize), ih after]

/-- Either whatever fails is gone, or there is a first failure of another kind. -/
theorem onlyGone_or_failing (size : String → Except InventoryError UInt64)
    (names : List String) :
    OnlyGone size names ∨ ∃ earlier name later cause, names = earlier ++ name :: later ∧
      OnlyGone size earlier ∧ size name = .error cause ∧ ¬ cause.IsGone := by
  induction names with
  | nil => exact .inl nofun
  | cons name rest ih =>
      by_cases here : ∀ cause, size name = .error cause → cause.IsGone
      · rcases ih with gone | ⟨earlier, first, later, cause, rfl, gone, failed⟩
        · exact .inl (onlyGone_cons.mpr ⟨here, gone⟩)
        · exact .inr ⟨name :: earlier, first, later, cause, rfl,
            onlyGone_cons.mpr ⟨here, gone⟩, failed⟩
      · push Not at here
        obtain ⟨cause, failed, present⟩ := here
        exact .inr ⟨[], name, rest, cause, rfl, nofun, failed, present⟩

end Sizing

/-! ### What a look at the host has to show -/

namespace Sight

variable {sight : Sight} {names others : NameSet} {entries shown : List DeviceEntry}
  {cause other : InventoryError}

/-- The entries are the listed devices that have a size, each once and with its size, in the
order of the bytes of their names; the listed devices that have none are gone. -/
structure Shows (sight : Sight) (names : NameSet) (entries : List DeviceEntry) : Prop where
  listed : sight.listing = .ok names
  ascending : entries.Pairwise fun a b => encode a.name < encode b.name
  sized : ∀ e : DeviceEntry, e ∈ entries ↔ e.name ∈ names ∧ sight.size e.name = .ok e.size
  gone : ∀ name ∈ names, ∀ cause, sight.size name = .error cause → cause.IsGone

/-- Why there is nothing to show: there is no listing, or a listed device is there and has no
size.  Of several such devices the first in the order of bytes counts. -/
inductive FailsAs (sight : Sight) : InventoryError → Prop where
  | unlisted {cause : InventoryError} (failed : sight.listing = .error cause) : FailsAs sight cause
  | unsized {names : NameSet} {name : String} {cause : InventoryError}
      (listed : sight.listing = .ok names) (inside : name ∈ names)
      (failed : sight.size name = .error cause) (present : ¬ cause.IsGone)
      (first : ∀ other ∈ names, encode other < encode name →
        ∀ e, sight.size other = .error e → e.IsGone) : FailsAs sight cause

/-- There is one list at most. -/
theorem Shows.unique (one : sight.Shows names entries) (two : sight.Shows others shown) :
    entries = shown := by
  have same : names = others := Except.ok.inj (one.listed.symm.trans two.listed)
  subst same
  have distinct : ∀ {list : List DeviceEntry},
      list.Pairwise (fun a b => encode a.name < encode b.name) → list.Nodup := by
    intro list ascending
    apply ascending.imp
    intro a b below same
    exact List.lt_irrefl _ (same ▸ below)
  apply List.Perm.eq_of_pairwise _ one.ascending two.ascending
  · rw [List.perm_ext_iff_of_nodup (distinct one.ascending) (distinct two.ascending)]
    intro e
    rw [one.sized, two.sized]
  · intro a b _ _ below above
    exact absurd above (List.lt_asymm below)

/-- There is one cause at most. -/
theorem FailsAs.unique (one : sight.FailsAs cause) (two : sight.FailsAs other) :
    cause = other := by
  cases one with
  | unlisted failed =>
      cases two with
      | unlisted too => exact Except.error.inj (failed.symm.trans too)
      | unsized listed => exact nomatch failed.symm.trans listed
  | @unsized names name _ listed inside failed present first =>
      cases two with
      | unlisted too => exact nomatch too.symm.trans listed
      | @unsized others second _ also within too here least =>
          have same : names = others := Except.ok.inj (listed.symm.trans also)
          subst same
          rcases lt_trichotomy name second with below | rfl | above
          · exact absurd (least name inside (encode_lt_encode_iff.mpr below) _ failed) present
          · exact Except.error.inj (failed.symm.trans too)
          · exact absurd (first second within (encode_lt_encode_iff.mpr above) _ too) here

/-- A look that shows a list does not fail. -/
theorem Shows.not_failsAs (shows : sight.Shows names entries) : ¬ sight.FailsAs cause := by
  intro fails
  cases fails with
  | unlisted failed => exact nomatch shows.listed.symm.trans failed
  | unsized listed inside failed present _ =>
      have same := Except.ok.inj (shows.listed.symm.trans listed)
      subst same
      exact present (shows.gone _ inside _ failed)

theorem shows_of_onlyGone (listed : sight.listing = .ok names)
    (gone : OnlyGone sight.size names.toList) :
    sight.Shows names (names.toList.filterMap (sized? sight.size)) where
  listed := listed
  ascending := by
    rw [List.pairwise_filterMap]
    apply names.ascending.imp
    intro a b below x hx y hy
    rw [encode_lt_encode_iff, (sized?_eq_some_iff.mp hx).1, (sized?_eq_some_iff.mp hy).1]
    exact below
  sized := by
    intro e
    simp only [List.mem_filterMap, sized?_eq_some_iff]
    constructor
    · intro found
      obtain ⟨name, inside, rfl, size⟩ := found
      exact ⟨inside, size⟩
    · intro found
      exact ⟨e.name, found.1, rfl, found.2⟩
  gone := gone

theorem failsAs_of_failing {earlier later : List String} {name : String}
    (listed : sight.listing = .ok names) (whole : names.toList = earlier ++ name :: later)
    (gone : OnlyGone sight.size earlier) (failed : sight.size name = .error cause)
    (present : ¬ cause.IsGone) : sight.FailsAs cause := by
  have ascending := names.ascending
  have members : ∀ other ∈ names, other ∈ earlier ∨ other ∈ name :: later := by
    intro other inside
    have inside : other ∈ names.toList := inside
    rwa [whole, List.mem_append] at inside
  rw [whole, List.pairwise_append, List.pairwise_cons] at ascending
  apply FailsAs.unsized listed _ failed present
  · intro other inside below
    rw [encode_lt_encode_iff] at below
    rcases members other inside with before | after
    · exact gone other before
    · rcases List.mem_cons.mp after with rfl | after
      · exact absurd below (String.lt_irrefl other)
      · exact absurd below (String.lt_asymm (ascending.2.1.1 other after))
  · show name ∈ names.toList
    rw [whole]
    exact List.mem_append_right earlier List.mem_cons_self

/-- A look shows a list or fails, and the devices are found or the failure is met. -/
theorem devices_cases (sight : Sight) :
    (∃ names entries, sight.Shows names entries ∧ Command.devices sight = .ok entries) ∨
      ∃ cause, sight.FailsAs cause ∧ Command.devices sight = .error (.inventory cause) := by
  unfold Command.devices
  cases listed : sight.listing with
  | error cause => exact .inr ⟨cause, .unlisted listed, rfl⟩
  | ok names =>
      rcases onlyGone_or_failing sight.size names.toList with
        gone | ⟨earlier, name, later, cause, whole, gone, failed, present⟩
      · refine .inl ⟨names, _, shows_of_onlyGone listed gone, ?_⟩
        show (deviceEntries _ _).mapError _ = _
        rw [deviceEntries_of_onlyGone gone]
        rfl
      · refine .inr ⟨cause, failsAs_of_failing listed whole gone failed present, ?_⟩
        show (deviceEntries _ _).mapError _ = _
        rw [whole, deviceEntries_of_failing gone failed present]
        rfl

/-- A look shows a list or fails. -/
theorem shows_or_failsAs (sight : Sight) :
    (∃ names entries, sight.Shows names entries) ∨ ∃ cause, sight.FailsAs cause := by
  rcases sight.devices_cases with ⟨names, entries, shows, -⟩ | ⟨cause, fails, -⟩
  · exact .inl ⟨names, entries, shows⟩
  · exact .inr ⟨cause, fails⟩

theorem Shows.devices_eq (shows : sight.Shows names entries) :
    Command.devices sight = .ok entries := by
  rcases sight.devices_cases with ⟨others, found, too, done⟩ | ⟨cause, fails, -⟩
  · rw [done, too.unique shows]
  · exact absurd fails shows.not_failsAs

theorem FailsAs.devices_eq (fails : sight.FailsAs cause) :
    Command.devices sight = .error (.inventory cause) := by
  rcases sight.devices_cases with ⟨names, entries, shows, -⟩ | ⟨other, too, done⟩
  · exact absurd fails shows.not_failsAs
  · rw [done, too.unique fails]

/-- In either form a list answers with what there is to show. -/
theorem Shows.answer_list (shows : sight.Shows names entries) (settings : AgentSettings)
    (json : Bool) :
    (Command.list json).answer settings sight = .ok (Listing.text json entries) := by
  rw [Command.answer, shows.devices_eq]
  rfl

/-- In either form it fails as the look does. -/
theorem FailsAs.answer_list (fails : sight.FailsAs cause) (settings : AgentSettings)
    (json : Bool) : (Command.list json).answer settings sight = .error (.inventory cause) := by
  rw [Command.answer, fails.devices_eq]
  rfl

end Sight

/-! ### What the command line prints -/

/-- A command line prints all that a command has to say or nothing, and its two lists are
forms of one list.

* A command that fails has written nothing, whatever the settings and the host are.
* Either text shows the devices one after the other, each by its name and its size in bytes.
  What is shown can be told from the JSON text, and from the lines if no name has a line break
  in it.
* A program that is told a command ends with the code 0, or with the code 1 and no output.
  Settings that cannot be loaded or are not valid are its end for every command.  With valid
  settings it ends as the command does on what the configured directory shows in the tree of
  files: its listing, and the sizes that are looked up in it.
* A list in either form shows the devices of that directory that have a size, and fails as
  the directory does; every tree does the one or the other. -/
theorem commands_answer_in_full :
    (∀ (settings : AgentSettings) (sight : Sight) (command : Command) (written output : String)
        (cause : CommandError),
      (command.execute settings sight).outcome written = (.error cause, output) →
        output = written) ∧
    (∀ entries : List DeviceEntry,
      Listing.text false entries = String.join (entries.map fun e =>
        e.name ++ "\t" ++ toString e.size.toNat ++ "\n") ∧
      Listing.text true entries = if entries = [] then "[]\n"
        else "[\n" ++ ",\n".intercalate (entries.map fun e =>
          "  \x7b\n    \"name\": " ++ Listing.jsonText e.name ++ ",\n    \"size\": " ++
            toString e.size.toNat ++ "\n  \x7d") ++ "\n]\n") ∧
    (Function.Injective Listing.json ∧
      ∀ a b : List DeviceEntry, (∀ e ∈ a, '\n' ∉ e.name.toList) →
        (∀ e ∈ b, '\n' ∉ e.name.toList) → Listing.lines a = Listing.lines b → a = b) ∧
    ∀ (s : Surroundings) (arguments : List String) (command : Command),
      Command.parse? arguments = some command →
        (((runCommandLine s arguments).code = 0 ∧ (runCommandLine s arguments).errors = "") ∨
          ((runCommandLine s arguments).code = 1 ∧ (runCommandLine s arguments).output = "")) ∧
        (∀ cause, (s.load = .error cause ∨
            ∃ settings, s.load = .ok settings ∧ settings.validate = .error cause) →
          runCommandLine s arguments =
            ⟨1, "", (CommandError.settings cause).message ++ "\n"⟩) ∧
        ∀ settings, s.load = .ok settings → settings.validate = .ok () →
          let d : BlockDirectory := ⟨s.work, ⟨settings.blockRoot⟩⟩
          (runCommandLine s arguments =
            match (command.execute settings ⟨d.list s.tree, d.size s.tree⟩).outcome "" with
            | (.ok (), output) => ⟨0, output, ""⟩
            | (.error cause, output) => ⟨1, output, cause.message ++ "\n"⟩) ∧
          ∀ json, command = .list json →
            (∀ names entries, Sight.Shows ⟨d.list s.tree, d.size s.tree⟩ names entries →
              runCommandLine s arguments = ⟨0, Listing.text json entries, ""⟩) ∧
            (∀ cause, Sight.FailsAs ⟨d.list s.tree, d.size s.tree⟩ cause →
              runCommandLine s arguments =
                ⟨1, "", (CommandError.inventory cause).message ++ "\n"⟩) ∧
            ((∃ names entries, Sight.Shows ⟨d.list s.tree, d.size s.tree⟩ names entries) ∨
              ∃ cause, Sight.FailsAs ⟨d.list s.tree, d.size s.tree⟩ cause) := by
  refine ⟨?_, ?_, ⟨Listing.json_injective, fun _ _ => Listing.lines_inj⟩, ?_⟩
  · intro settings sight command written output cause failed
    exact ((command.answers_execute settings sight).of_failed failed).2
  · intro entries
    refine ⟨rfl, ?_⟩
    cases entries <;> rfl
  intro s arguments command parsed
  rw [runCommandLine_eq_ofAnswer parsed]
  refine ⟨?_, ?_, ?_⟩
  · cases s.answer command with
    | ok text => exact .inl ⟨rfl, rfl⟩
    | error cause => exact .inr ⟨rfl, rfl⟩
  · intro cause refused
    rw [Surroundings.answer, validSettings_of_refused refused]
    rfl
  · intro settings loaded valid d
    have answers : s.answer command = command.answer settings ⟨d.list s.tree, d.size s.tree⟩ :=
      Surroundings.answer_of_valid loaded valid
    rw [answers]
    refine ⟨?_, ?_⟩
    · rw [command.answers_execute]
      cases command.answer settings ⟨d.list s.tree, d.size s.tree⟩ with
      | ok text => simp only [Exit.ofAnswer, String.empty_append]
      | error cause => rfl
    · rintro json rfl
      refine ⟨?_, ?_, Sight.shows_or_failsAs _⟩
      · intro names entries shows
        rw [shows.answer_list]
        rfl
      · intro cause fails
        rw [fails.answer_list]
        rfl

/-- Of three devices below a directory that a variable names one is a link to nothing, and
both lists show the two others. -/
theorem commands_answer_in_full_of_tree :
    let t : FileTree := ⟨[
      ([encode "block"], .directory),
      ([encode "block", encode "xvda"], .directory),
      ([encode "block", encode "xvda", encode "size"], .file (encode "1\n")),
      ([encode "block", encode "gone"], .link (encode "../dev/gone")),
      ([encode "block", encode "sdb"], .directory),
      ([encode "block", encode "sdb", encode "size"], .file (encode "8\n"))]⟩
    let s : Surroundings := ⟨t, [], [("BLOCKDEVICE_AGENT_SYSFS_BLOCK_ROOT", "/block")]⟩
    runCommandLine s ["list"] = ⟨0, "sdb\t4096\nxvda\t512\n", ""⟩ ∧
      runCommandLine s ["list", "--json"] =
        ⟨0, Listing.json [⟨"sdb", 4096⟩, ⟨"xvda", 512⟩], ""⟩ := by
  intro t s
  have unfiled : s.fileLayer = some [] := by
    unfold s t
    cbv
  have loaded : s.load = .ok { blockRoot := "/block" } := by
    rw [Surroundings.load, unfiled]
    decide +kernel
  let d : BlockDirectory := ⟨[], ⟨"/block"⟩⟩
  have listed : d.list t = .ok (NameSet.ofList ["gone", "sdb", "xvda"]) := by
    unfold d t
    cbv
  have gone : d.size t "gone" = .error (.deviceNotFound "gone") := by
    unfold d t
    cbv
  have first : d.size t "sdb" = .ok 4096 := by
    unfold d t
    cbv
  have second : d.size t "xvda" = .ok 512 := by
    unfold d t
    cbv
  have shows : Sight.Shows ⟨d.list t, d.size t⟩ (NameSet.ofList ["gone", "sdb", "xvda"])
      [⟨"sdb", 4096⟩, ⟨"xvda", 512⟩] := by
    have members : (NameSet.ofList ["gone", "sdb", "xvda"]).toList = ["gone", "sdb", "xvda"] := by
      decide
    have onlyGone : OnlyGone (d.size t) (NameSet.ofList ["gone", "sdb", "xvda"]).toList := by
      rw [members]
      simp [OnlyGone, gone, first, second, InventoryError.IsGone]
    have sizes : ["gone", "sdb", "xvda"].filterMap (sized? (d.size t)) =
        [⟨"sdb", 4096⟩, ⟨"xvda", 512⟩] := by
      simp [sized?, gone, first, second, Except.toOption]
    have shown : Sight.Shows ⟨d.list t, d.size t⟩ _ _ :=
      Sight.shows_of_onlyGone listed onlyGone
    rwa [members, sizes] at shown
  have ends : ∀ arguments json, Command.parse? arguments = some (.list json) →
      runCommandLine s arguments =
        ⟨0, Listing.text json [⟨"sdb", 4096⟩, ⟨"xvda", 512⟩], ""⟩ := by
    intro arguments json parsed
    obtain ⟨-, -, answers⟩ := commands_answer_in_full.2.2.2 s arguments (.list json) parsed
    obtain ⟨-, lists⟩ := answers _ loaded (by decide)
    exact (lists json rfl).1 _ _ shows
  refine ⟨(ends ["list"] false rfl).trans ?_, ends ["list", "--json"] true rfl⟩
  decide

end VolumeAttach
