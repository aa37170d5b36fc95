/-
Module: VolumeAttach.Proofs.ValidSettings
Purpose: Valid settings are enough for every command, and the slot that is next is one that
  can be asked for.
Main exports: AgentSettings.naming_of_valid, AgentSettings.requireCluster_eq_error_iff_of_valid,
  Command.answer_nextSlot_cases, Command.answer_expect_slot, Command.parse?_expect,
  valid_settings_suffice
-/
import VolumeAttach.Proofs.Commands
import VolumeAttach.Proofs.FreeSlots
import VolumeAttach.Proofs.SettingChecks

namespace VolumeAttach

open Text

/-!
Validation reads the settings and forgets what it has read; the commands read them again,
and make paths out of the directories and take the paths apart.  Nothing of that can go
wrong once the settings are valid.  What is left to go wrong is the host: it may not be
readable, and it may have no slot left.
-/

/-! ### Reading valid settings -/

namespace AgentSettings

variable {s : AgentSettings}

/-- Valid settings are accepted, every one of them. -/
theorem accepts_of_valid (valid : s.validate = .ok ()) (setting : Setting) :
    s.Accepts setting := by
  cases setting with
  | deviceTimeout => trivial
  | _ => exact validate_eq_ok_iff.mp valid _ (by simp [checked])

theorem cluster?_of_valid (valid : s.validate = .ok ()) : ∃ found, s.cluster? = .ok found := by
  have accepted := accepts_of_valid valid .clusterId
  cases configured : s.clusterId with
  | none => exact ⟨none, cluster?_eq_ok_none_iff.mpr configured⟩
  | some raw =>
      obtain ⟨u, spells⟩ := accepted raw configured
      exact ⟨some u, cluster?_eq_ok_some_iff.mpr ⟨raw, configured, spells⟩⟩

/-- All that a valid cluster can lack is to be there. -/
theorem requireCluster_eq_error_iff_of_valid (valid : s.validate = .ok ()) {e : SettingsError} :
    s.requireCluster = .error e ↔ e = .missing .clusterId ∧ s.clusterId = none := by
  obtain ⟨found, read⟩ := cluster?_of_valid valid
  rw [← cluster?_eq_ok_none_iff, requireCluster, read]
  cases found <;> simp [eq_comm]

theorem naming_of_valid (valid : s.validate = .ok ()) :
    ∃ scheme, s.namingScheme = .ok scheme ∧ s.naming = .ok ⟨scheme, ⟨s.deviceRoot⟩⟩ := by
  obtain ⟨scheme, named⟩ := accepts_of_valid valid .scheme
  have read : s.namingScheme = .ok scheme := by
    rw [namingScheme, Scheme.parse_eq_ok_iff.mpr named]
  exact ⟨scheme, read, by rw [naming, read]; rfl⟩

end AgentSettings

/-! ### Asking for a slot -/

namespace DevicePath

/-- What lies below an absolute directory is absolute. -/
theorem isAbsolute_under {root : DevicePath} (absolute : root.isAbsolute) (name : String) :
    (root.under name).isAbsolute := by
  obtain ⟨text⟩ := root
  simp only [isAbsolute, decide_eq_true_eq] at absolute ⊢
  rw [under, String.toList_ofList]
  cases hroot : text.toList with
  | nil => rw [hroot] at absolute; cases absolute
  | cons c rest =>
      rw [hroot, List.head?_cons] at absolute
      rw [joinOf]
      split
      · assumption
      · split
        · exact absolute
        · exact absolute

end DevicePath

/-- The slots below an absolute directory are absolute paths. -/
theorem Naming.isAbsolute_slot {n : Naming} (absolute : n.root.isAbsolute) (letter : Char) :
    (DeviceNaming.slot n letter).isAbsolute :=
  DevicePath.isAbsolute_under absolute _

namespace Command

variable {settings : AgentSettings} {sight : Sight} {n : Naming} {letter : Char}

/-- An absolute path can be asked for as it stands: it does not look like an option. -/
theorem parse?_expect {path : DevicePath} (absolute : path.isAbsolute) :
    parse? ["expect", path.text] = some (.expect path.text) := by
  have slash : path.text.toList.head? = some '/' := of_decide_eq_true absolute
  have notOption : isOption path.text = false := by simp [isOption, slash]
  show parseExpect? none [path.text] = _
  rw [parseExpect?, notOption]
  · rfl
  · intro same
    rw [same] at slash
    cases slash

theorem naming_eq (named : settings.naming = .ok n) : naming settings = .ok n := by
  rw [naming, named]
  rfl

theorem expected_slot (listed : letter ∈ slotLetters) :
    expected n (DeviceNaming.slot n letter) = .ok (n.root.under (n.kernelName letter)) := by
  rw [expected, Naming.expected_slot listed]
  rfl

/-- The next slot is that of the first free letter, shown with the kernel's name of it.  There
is none where there is no listing, and where nothing is free. -/
theorem answer_nextSlot_cases (named : settings.naming = .ok n) (sight : Sight) :
    (∃ failure, sight.listing = .error failure ∧
      answer settings sight .nextSlot = .error (.inventory failure)) ∨
    (∃ names, sight.listing = .ok names ∧ n.freeLetters names = [] ∧
      answer settings sight .nextSlot = .error (.noFreeSlot .allTaken)) ∨
    ∃ names letter rest, sight.listing = .ok names ∧ n.freeLetters names = letter :: rest ∧
      answer settings sight .nextSlot = .ok ((DeviceNaming.slot n letter).text ++ " " ++
        (n.root.under (n.kernelName letter)).text ++ "\n") := by
  rw [answer, naming_eq named]
  simp only [Except.bind, bind, next]
  cases listed : sight.listing with
  | error failure => exact .inl ⟨failure, rfl, rfl⟩
  | ok names =>
      simp only [Naming.selectFree_eq]
      cases free : n.freeLetters names with
      | nil => exact .inr (.inl ⟨names, rfl, free, rfl⟩)
      | cons letter rest =>
          refine .inr (.inr ⟨names, letter, rest, rfl, free, ?_⟩)
          simp only [expected_slot (Naming.listed_of_freeLetters_eq free).1, Except.map]
          rfl

/-- The slot of a letter is shown with the kernel's name of it, however the host looks. -/
theorem answer_expect_slot (named : settings.naming = .ok n) (listed : letter ∈ slotLetters) :
    answer settings sight (.expect (DeviceNaming.slot n letter).text) =
      .ok ((n.root.under (n.kernelName letter)).text ++ "\n") := by
  have found := expected_slot (n := n) listed
  generalize DeviceNaming.slot n letter = slot at found ⊢
  rw [answer, naming_eq named]
  simp only [Except.bind, bind, found]
  rfl

end Command

/-- A slot below a valid directory can be asked for on the command line. -/
theorem runCommandLine_expect_slot {w : Surroundings} {s : AgentSettings} {n : Naming}
    {letter : Char} (loaded : w.load = .ok s) (valid : s.validate = .ok ())
    (named : s.naming = .ok n) (listed : letter ∈ slotLetters) :
    runCommandLine w ["expect", (DeviceNaming.slot n letter).text] =
      ⟨0, (n.root.under (n.kernelName letter)).text ++ "\n", ""⟩ := by
  have absolute : n.root.isAbsolute := by
    obtain ⟨scheme, -, root⟩ := AgentSettings.naming_of_valid valid
    have same := Except.ok.inj (named.symm.trans root)
    rw [same]
    exact (AgentSettings.accepts_of_valid valid .deviceRoot).2
  rw [runCommandLine_eq_ofAnswer (Command.parse?_expect (Naming.isAbsolute_slot absolute letter)),
    Surroundings.answer_of_valid loaded valid, Command.answer_expect_slot named listed]
  rfl

/-- Settings are valid exactly if each of them is accepted, and otherwise they are refused for
the first that is not; no refusal but that of a blank directory says that something is
missing.

With valid settings the cluster, the scheme and the naming can be read, and a cluster that is
asked for can only be absent.  The next slot is found unless the host cannot be listed or all
letters are taken; and the slot that is printed can be asked for, by the same settings and
whatever the host shows by then, and is answered with the name that was printed beside it. -/
theorem valid_settings_suffice :
    (∀ s : AgentSettings,
      (s.validate = .ok () ↔ ∀ setting ∈ AgentSettings.checked, s.Accepts setting) ∧
      (∀ e, s.validate = .error e ↔ ∃ earlier setting later,
        AgentSettings.checked = earlier ++ setting :: later ∧
          (∀ other ∈ earlier, s.Accepts other) ∧ ¬ s.Accepts setting ∧ e = s.refusal setting) ∧
      ∀ setting named, s.refusal setting = .missing named ↔
        named = setting ∧ ((setting = .blockRoot ∧ IsAllBlank s.blockRoot.toList) ∨
          (setting = .deviceRoot ∧ IsAllBlank s.deviceRoot.toList))) ∧
    ∀ s : AgentSettings, s.validate = .ok () →
      (∃ found, s.cluster? = .ok found) ∧
      (∀ e, s.requireCluster = .error e ↔ e = .missing .clusterId ∧ s.clusterId = none) ∧
      ∃ (scheme : Scheme) (n : Naming), s.namingScheme = .ok scheme ∧ s.naming = .ok n ∧
        n.scheme = scheme ∧ n.root = ⟨s.deviceRoot⟩ ∧
        ∀ sight : Sight,
          (∀ written output cause,
            (Command.nextSlot.execute s sight).outcome written = (.error cause, output) →
              (∃ failure, sight.listing = .error failure ∧ cause = .inventory failure) ∨
              ∃ names, sight.listing = .ok names ∧ cause = .noFreeSlot .allTaken ∧
                ∀ letter ∈ slotLetters, ¬ n.IsFree names letter) ∧
          (∀ written output,
            (Command.nextSlot.execute s sight).outcome written = (.ok (), output) →
              ∃ (names : NameSet) (slot file : DevicePath), sight.listing = .ok names ∧
                n.selectFree names = .ok slot ∧ n.expected slot = .ok file ∧
                output = written ++ (slot.text ++ " " ++ file.text ++ "\n") ∧
                (∀ later before, ((Command.expect slot.text).execute s later).outcome before =
                  (.ok (), before ++ (file.text ++ "\n"))) ∧
                ∀ w : Surroundings, w.load = .ok s →
                  runCommandLine w ["expect", slot.text] = ⟨0, file.text ++ "\n", ""⟩) := by
  refine ⟨?_, ?_⟩
  · intro s
    exact ⟨AgentSettings.validate_eq_ok_iff, fun _ => AgentSettings.validate_eq_error_iff,
      fun _ _ => AgentSettings.refusal_eq_missing_iff⟩
  · intro s valid
    obtain ⟨scheme, read, named⟩ := AgentSettings.naming_of_valid valid
    refine ⟨AgentSettings.cluster?_of_valid valid,
      fun _ => AgentSettings.requireCluster_eq_error_iff_of_valid valid,
      scheme, ⟨scheme, ⟨s.deviceRoot⟩⟩, read, named, rfl, rfl, ?_⟩
    intro sight
    constructor
    · intro written output cause failed
      have failing := ((Command.answers_execute s sight .nextSlot).of_failed failed).1
      rcases Command.answer_nextSlot_cases named sight with
        ⟨failure, unlisted, answer⟩ | ⟨names, listed, free, answer⟩ | ⟨_, _, _, _, _, answer⟩
      · exact .inl ⟨failure, unlisted, Except.error.inj (failing.symm.trans answer)⟩
      · exact .inr ⟨names, listed, Except.error.inj (failing.symm.trans answer),
          Naming.freeLetters_eq_nil_iff.mp free⟩
      · exact nomatch failing.symm.trans answer
    · intro written output done
      obtain ⟨text, printed, rfl⟩ := (Command.answers_execute s sight .nextSlot).of_done done
      rcases Command.answer_nextSlot_cases named sight with
        ⟨_, _, answer⟩ | ⟨_, _, _, answer⟩ | ⟨names, letter, rest, listed, free, answer⟩
      · exact nomatch printed.symm.trans answer
      · exact nomatch printed.symm.trans answer
      have inside := (Naming.listed_of_freeLetters_eq free).1
      refine ⟨names, _, _, listed, Naming.selectFree_eq_ok_iff.mpr ⟨letter, rest, free, rfl⟩,
        Naming.expected_slot inside, congrArg _ (Except.ok.inj (printed.symm.trans answer)), ?_, ?_⟩
      · intro later before
        rw [Command.answers_execute, Command.answer_expect_slot named inside]
      · intro w loaded
        exact runCommandLine_expect_slot loaded valid named inside

/-- Settings of which none but the timeout is the default are valid.  Under the identity scheme
a name of the kernel's family takes nothing, and what is next can be asked for. -/
theorem valid_settings_suffice_of_identity :
    let s : AgentSettings :=
      { clusterId := some " 0A1B2C3D-0000-4000-8000-00000000000F\n"
        blockRoot := "/run/block"
        deviceRoot := "/run//dev/"
        scheme := " Identity "
        pollInterval := 250 }
    s.validate = .ok () ∧ (∃ cluster, s.requireCluster = .ok cluster) ∧
    (Command.nextSlot.execute s ⟨.ok (NameSet.ofList ["sda", "xvdb"]), fun _ => .ok 0⟩).outcome
        "" = (.ok (), "/run//dev/sdb /run//dev/sdb\n") ∧
    ∃ slot file : DevicePath,
      "/run//dev/sdb /run//dev/sdb\n" = slot.text ++ " " ++ file.text ++ "\n" ∧
      (∀ later, ((Command.expect slot.text).execute s later).outcome "" =
        (.ok (), file.text ++ "\n")) ∧
      ∀ w : Surroundings, w.load = .ok s →
        runCommandLine w ["expect", slot.text] = ⟨0, file.text ++ "\n", ""⟩ := by
  intro s
  have valid : s.validate = .ok () := by decide +kernel
  obtain ⟨-, lacking, scheme, n, -, -, -, -, commands⟩ := valid_settings_suffice.2 s valid
  have cluster : ∃ cluster, s.requireCluster = .ok cluster := by
    cases required : s.requireCluster with
    | ok cluster => exact ⟨cluster, rfl⟩
    | error e => exact nomatch ((lacking e).mp required).2
  have printed : (Command.nextSlot.execute s ⟨.ok (NameSet.ofList ["sda", "xvdb"]),
      fun _ => .ok 0⟩).outcome "" = (.ok (), "/run//dev/sdb /run//dev/sdb\n") := by
    decide +kernel
  obtain ⟨names, slot, file, -, -, -, output, expect, askedFor⟩ := (commands _).2 "" _ printed
  rw [String.empty_append] at output
  refine ⟨valid, cluster, printed, slot, file, output, ?_, askedFor⟩
  intro later
  rw [expect, String.empty_append]

end VolumeAttach
