/-
Module: VolumeAttach.Command.Run
Purpose: The commands of the command line.
Main exports: Command, Command.parse?, CommandError, Writing, Command.execute, Exit,
  runCommandLine
-/
import VolumeAttach.Command.Listing
import VolumeAttach.Host.BlockDirectory
import VolumeAttach.Settings.Discovery
import VolumeAttach.Slot.Selection

namespace VolumeAttach

/-!
A command writes to the output as it goes; when it fails, it adds one line to the
errors, and what it had written stays written.  The settings are loaded and
validated before any command looks at the host.  Arguments that are no command
are a usage error, which comes before everything else.
-/

/-- What the command line asks for. -/
inductive Command where
  /-- The host's block devices with their sizes. -/
  | list (json : Bool)
  /-- The next free slot and the name it would surface as. -/
  | nextSlot
  /-- The kernel's name for a slot. -/
  | expect (slot : String)
deriving Repr, DecidableEq

namespace Command

/-- An argument that would be an option; a dash alone is none. -/
def isOption (argument : String) : Bool :=
  argument.toList.head? = some '-' && argument ≠ "-"

/-- The arguments of `list`: one flag at most, and nothing behind a double
dash. -/
def parseList? (json : Bool) : List String → Option Command
  | [] => some (.list json)
  | ["--"] => some (.list json)
  | "--json" :: rest => if json then none else parseList? true rest
  | _ => none

/-- The arguments of `expect`: one slot, which may stand behind a double dash and
must stand there if it looks like an option. -/
def parseExpect? (slot : Option String) : List String → Option Command
  | [] => slot.map .expect
  | "--" :: rest =>
      match slot, rest with
      | some found, [] => some (.expect found)
      | none, [found] => some (.expect found)
      | _, _ => none
  | argument :: rest =>
      if isOption argument || slot.isSome then none else parseExpect? (some argument) rest

/-- The command of a list of arguments. -/
def parse? : List String → Option Command
  | "list" :: rest => parseList? false rest
  | ["next-slot"] => some .nextSlot
  | ["next-slot", "--"] => some .nextSlot
  | "expect" :: rest => parseExpect? none rest
  | _ => none

end Command

/-- Why a command fails. -/
inductive CommandError where
  | settings (cause : SettingsError)
  | inventory (cause : InventoryError)
  | noFreeSlot (cause : NoFreeSlot)
  | invalidName (cause : NameError)
deriving Repr, DecidableEq

/-- The wording of a failure. -/
def CommandError.message : CommandError → String
  | .settings cause => "configuration error: " ++ cause.message
  | .inventory cause => "inventory error: " ++ cause.message
  | .noFreeSlot cause => cause.message
  | .invalidName cause => cause.message

/-- A computation that writes to the output and may fail at any point. -/
abbrev Writing (α : Type) := ExceptT CommandError (StateM String) α

namespace Writing

/-- Write a text behind what is written already. -/
def write (text : String) : Writing Unit := modify fun written => written ++ text

/-- How a computation ends, and the output that it leaves behind. -/
def outcome {α : Type} (w : Writing α) (written : String) : Except CommandError α × String :=
  (ExceptT.run w).run written

end Writing

/-- The sizes of listed names in order.  A device that is gone is left out; any
other failure fails the whole. -/
def deviceEntries (size : String → Except InventoryError UInt64) :
    List String → Except InventoryError (List DeviceEntry)
  | [] => .ok []
  | name :: rest =>
      match size name with
      | .ok bytes => (deviceEntries size rest).map (⟨name, bytes⟩ :: ·)
      | .error (.deviceNotFound _) => deviceEntries size rest
      | .error cause => .error cause

namespace Command

/-- The devices that `list` shows. -/
def devices (sight : Sight) : Except CommandError (List DeviceEntry) :=
  match sight.listing with
  | .error cause => .error (.inventory cause)
  | .ok names => (deviceEntries sight.size names.toList).mapError .inventory

/-- The naming that is configured. -/
def naming (settings : AgentSettings) : Except CommandError Naming :=
  settings.naming.mapError .settings

/-- The kernel's name for a slot. -/
def expected (naming : Naming) (slot : DevicePath) : Except CommandError DevicePath :=
  (naming.expected slot).mapError .invalidName

/-- The next free slot and the kernel's name for it. -/
def next (naming : Naming) (sight : Sight) : Except CommandError (DevicePath × DevicePath) :=
  match sight.listing with
  | .error cause => .error (.inventory cause)
  | .ok names => match naming.selectFree names with
      | .error cause => .error (.noFreeSlot cause)
      | .ok slot => (expected naming slot).map fun file => (slot, file)

/-- Carry out a command with given settings on a host that is seen as `sight`. -/
def execute (settings : AgentSettings) (sight : Sight) : Command → Writing Unit
  | .list json => do
      let entries ← devices sight
      if json then Writing.write (Listing.json entries)
      else entries.forM fun entry => Writing.write (Listing.line entry)
  | .nextSlot => do
      let naming ← naming settings
      let (slot, file) ← next naming sight
      Writing.write (slot.text ++ " " ++ file.text ++ "\n")
  | .expect slot => do
      let naming ← naming settings
      let file ← expected naming ⟨slot⟩
      Writing.write (file.text ++ "\n")

end Command

/-- How the program ends. -/
structure Exit where
  code : Nat
  output : String
  errors : String
deriving Repr, DecidableEq

/-- What is told of arguments that are no command. -/
def usage : String :=
  "usage: blockdevice-agent list [--json] | next-slot | expect PATH\n"

/-- The settings of the surroundings, loaded and validated. -/
def validSettings (s : Surroundings) : Except CommandError AgentSettings :=
  match s.load with
  | .error cause => .error (.settings cause)
  | .ok settings => match settings.validate with
      | .error cause => .error (.settings cause)
      | .ok () => .ok settings

/-- What a host shows to a command with given settings. -/
def Surroundings.sight (s : Surroundings) (settings : AgentSettings) : Sight :=
  BlockDirectory.sight ⟨s.work, ⟨settings.blockRoot⟩⟩ s.tree

/-- Carry out a command. -/
def runCommand (s : Surroundings) (command : Command) : Writing Unit := do
  let settings ← validSettings s
  command.execute settings (s.sight settings)

/-- Carry out a command line. -/
def runCommandLine (s : Surroundings) (arguments : List String) : Exit :=
  match Command.parse? arguments with
  | none => ⟨2, "", usage⟩
  | some command => match (runCommand s command).outcome "" with
      | (.ok (), output) => ⟨0, output, ""⟩
      | (.error cause, output) => ⟨1, output, cause.message ++ "\n"⟩

end VolumeAttach
