/-
Module: VolumeAttach.Proofs.Commands
Purpose: A command decides all that it prints before it writes any of it.
Main exports: Writing.Answers, Writing.answers_forM_write, Writing.answers_bind,
  Command.answer, Command.answers_execute, runCommandLine_eq_ofAnswer
-/
import VolumeAttach.Command.Run

namespace VolumeAttach

/-!
A command writes as it goes, and nothing in the way it is written down keeps it from
failing behind its first line.  What keeps it is that everything that can fail comes
before everything that writes.  So a command has an answer, which is what it prints or why
it fails, and to carry the command out is to write the answer.
-/

/-! ### Computations that write an answer -/

namespace Writing

variable {α : Type} {answer : Except CommandError String}

/-- A computation answers with a text if it writes the text behind what is there, and with a
failure if it fails so and writes nothing. -/
def Answers (w : Writing Unit) (answer : Except CommandError String) : Prop :=
  ∀ written, w.outcome written =
    match answer with
    | .ok text => (.ok (), written ++ text)
    | .error cause => (.error cause, written)

/-- A computation that fails has its failure for an answer, and has written nothing. -/
theorem Answers.of_failed {w : Writing Unit} (h : Answers w answer) {written output : String}
    {cause : CommandError} (failed : w.outcome written = (.error cause, output)) :
    answer = .error cause ∧ output = written := by
  rw [h] at failed
  cases answer with
  | ok text => cases failed
  | error other =>
      obtain ⟨same, unwritten⟩ := Prod.mk.inj failed
      exact ⟨congrArg _ (Except.error.inj same), unwritten.symm⟩

/-- A computation that succeeds has written its answer. -/
theorem Answers.of_done {w : Writing Unit} (h : Answers w answer) {written output : String}
    (done : w.outcome written = (.ok (), output)) :
    ∃ text, answer = .ok text ∧ output = written ++ text := by
  rw [h] at done
  cases answer with
  | error cause => cases done
  | ok text => exact ⟨text, rfl, (Prod.mk.inj done).2.symm⟩

theorem answers_write (text : String) : Answers (write text) (.ok text) := fun _ => rfl

/-- Texts that are written one after the other stand there as one. -/
theorem answers_forM_write (text : α → String) (xs : List α) :
    Answers (xs.forM fun x => write (text x)) (.ok (String.join (xs.map text))) := by
  induction xs with
  | nil =>
      intro written
      show (Except.ok (), written) = (Except.ok (), written ++ String.join [])
      rw [String.join_nil, String.append_empty]
  | cons x rest ih =>
      intro written
      show outcome (rest.forM fun x => write (text x)) (written ++ text x) = _
      rw [ih]
      simp only [List.map_cons, String.join_cons, String.append_assoc]

/-- To decide something first writes nothing, and what cannot be decided is the answer. -/
theorem answers_bind (decided : Except CommandError α) {next : α → Writing Unit}
    {rest : α → Except CommandError String} (h : ∀ a, Answers (next a) (rest a)) :
    Answers (liftM decided >>= next) (decided >>= rest) := by
  intro written
  cases decided with
  | error cause => rfl
  | ok a => exact h a written

end Writing

/-! ### The answer of a command -/

/-- The text of a list in one of its forms. -/
def Listing.text (json : Bool) (entries : List DeviceEntry) : String :=
  if json then Listing.json entries else Listing.lines entries

namespace Command

/-- What a command prints, or why it fails. -/
def answer (settings : AgentSettings) (sight : Sight) : Command → Except CommandError String
  | .list json => do
      let entries ← devices sight
      pure (Listing.text json entries)
  | .nextSlot => do
      let naming ← naming settings
      let (slot, file) ← next naming sight
      pure (slot.text ++ " " ++ file.text ++ "\n")
  | .expect slot => do
      let naming ← naming settings
      let file ← expected naming ⟨slot⟩
      pure (file.text ++ "\n")

/-- To carry out a command is to write its answer. -/
theorem answers_execute (settings : AgentSettings) (sight : Sight) (command : Command) :
    Writing.Answers (command.execute settings sight) (command.answer settings sight) := by
  cases command with
  | list json =>
      apply Writing.answers_bind
      intro entries
      cases json with
      | true => exact Writing.answers_write (Listing.json entries)
      | false => exact Writing.answers_forM_write Listing.line entries
  | nextSlot =>
      apply Writing.answers_bind
      intro naming
      apply Writing.answers_bind
      intro found
      exact Writing.answers_write _
  | expect slot =>
      apply Writing.answers_bind
      intro naming
      apply Writing.answers_bind
      intro file
      exact Writing.answers_write _

end Command

/-! ### The answer of a command line -/

section Surroundings

variable {s : Surroundings} {settings : AgentSettings} {arguments : List String}
  {command : Command}

/-- Settings that can be loaded and are valid are those that a command is given. -/
theorem validSettings_of_valid (loaded : s.load = .ok settings)
    (valid : settings.validate = .ok ()) : validSettings s = .ok settings := by
  simp only [validSettings, loaded, valid]

/-- No command is given any other settings. -/
theorem validSettings_of_refused {cause : SettingsError}
    (refused : s.load = .error cause ∨
      ∃ settings, s.load = .ok settings ∧ settings.validate = .error cause) :
    validSettings s = .error (.settings cause) := by
  rcases refused with unloaded | ⟨settings, loaded, invalid⟩
  · simp only [validSettings, unloaded]
  · simp only [validSettings, loaded, invalid]

/-- What a command prints in its surroundings, or why it fails.  Settings that are not valid
are the answer to every command. -/
def Surroundings.answer (s : Surroundings) (command : Command) : Except CommandError String := do
  let settings ← validSettings s
  command.answer settings (s.sight settings)

theorem Surroundings.answer_of_valid (loaded : s.load = .ok settings)
    (valid : settings.validate = .ok ()) :
    s.answer command = command.answer settings (s.sight settings) := by
  rw [answer, validSettings_of_valid loaded valid]
  rfl

theorem answers_runCommand (s : Surroundings) (command : Command) :
    Writing.Answers (runCommand s command) (s.answer command) := by
  apply Writing.answers_bind
  intro settings
  exact command.answers_execute settings (s.sight settings)

/-- How the program ends with an answer. -/
def Exit.ofAnswer : Except CommandError String → Exit
  | .ok text => ⟨0, text, ""⟩
  | .error cause => ⟨1, "", cause.message ++ "\n"⟩

/-- A command line that names a command ends with the answer to the command. -/
theorem runCommandLine_eq_ofAnswer (parsed : Command.parse? arguments = some command) :
    runCommandLine s arguments = Exit.ofAnswer (s.answer command) := by
  have ending := answers_runCommand s command ""
  rw [runCommandLine, parsed]
  simp only [ending]
  cases s.answer command with
  | error cause => rfl
  | ok text => simp only [Exit.ofAnswer, String.empty_append]

end Surroundings

end VolumeAttach
