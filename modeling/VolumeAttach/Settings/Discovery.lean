/-
Module: VolumeAttach.Settings.Discovery
Purpose: Where settings come from: defaults, one file and the environment.
Main exports: Environment, Format, Surroundings, Surroundings.readFile?,
  Surroundings.candidates, Surroundings.fileLayer, Surroundings.load
-/
import VolumeAttach.Host.FileTree
import VolumeAttach.Settings.Agent
import VolumeAttach.Settings.EnvironmentValue
import VolumeAttach.Settings.Json5
import VolumeAttach.Settings.Toml
import VolumeAttach.Settings.Yaml

namespace VolumeAttach

/-!
The environment is laid over one file, and the file over the defaults.  The file
is the first of a list of candidates that can be read; candidates that are no
regular files are passed over.  A candidate that cannot be read is passed over
too, but it must not be the reason why there is no file at all.

A candidate may be a link.  What counts then is the file to which it leads: that
file's name decides the format, and paths in the file start at its directory.

A file may name another one that it extends.  The other file's values hold where
the first has none of its own.
-/

/-- The variables of an environment; of several values for one name the first
counts. -/
abbrev Environment := List (String × String)

/-- The formats of settings files. -/
inductive Format where
  | toml
  | json5
  | yaml
deriving Repr, DecidableEq

/-- The byte of a point. -/
def point : UInt8 := 46

namespace Format

/-- What follows the last point of a file's name, in lower case.  A point at the
front of a name belongs to the name. -/
def extension? (name : FileName) : Option String :=
  match (Text.pieces point name).reverse with
  | last :: stem :: others =>
      if stem = [] ∧ others = [] then none
      else (Text.decode? last).map fun text => String.ofList (text.toList.map Char.toLower)
  | _ => none

/-- The format of a file by its name. -/
def ofName (name : FileName) : Format :=
  match extension? name with
  | some "json" => .json5
  | some "json5" => .json5
  | some "yaml" => .yaml
  | some "yml" => .yaml
  | _ => .toml

/-- The values of a text in a format. -/
def read? : Format → String → Option Layer
  | .toml => Toml.read?
  | .json5 => Json5.read?
  | .yaml => Yaml.read?

end Format

/-- Where the agent runs. -/
structure Surroundings where
  tree : FileTree
  work : Location
  environment : Environment

/-- The key under which a file names the file that it extends. -/
def extendsKey : String := "extends"

/-- The beginning of the names of the agent's variables, in lower case. -/
def variableStart : String := "blockdevice_agent_"

namespace Surroundings

/-- The value of a variable that is set and not empty. -/
def valueOf? (s : Surroundings) (name : String) : Option String :=
  (s.environment.lookup name).filter (· ≠ "")

/-- The location of the regular file to which a path leads. -/
def regular? (s : Surroundings) (path : Text.Bytes) : Option Location :=
  match s.tree.resolve s.work path with
  | .error _ => none
  | .ok l => match s.tree.at? l with
      | some (.file _) => some l
      | _ => none

/-- The text of the file at a location. -/
def textAt? (s : Surroundings) (l : Location) : Option String :=
  match s.tree.contentAt l with
  | .ok bytes => Text.decode? bytes
  | .error _ => none

/-- The path of a file that is named in the file at a location. -/
def beside (l : Location) (name : String) : Text.Bytes :=
  let path := Text.encode name
  if path.head? = some slash then path else Location.path l.dropLast ++ slash :: path

/-- The values of a single file. -/
def ownLayer? (s : Surroundings) (l : Location) : Option Layer :=
  (s.textAt? l).bind (Format.ofName (l.getLastD [])).read?

/-- The path of the file that a file extends. -/
def extended? (s : Surroundings) (l : Location) : Option Text.Bytes :=
  match (s.ownLayer? l).bind fun own => own.lookup extendsKey with
  | some (.text name) => some (beside l name)
  | _ => none

/-- The values of a file and of those that it extends.  No file may extend itself,
directly or through others; the files on the way are given. -/
def readChain? (s : Surroundings) : Nat → List Location → Location → Option Layer
  | 0, _, _ => none
  | files + 1, seen, l => do
      if seen.contains l then none
      else
        let own ← s.ownLayer? l
        match own.lookup extendsKey with
        | none => some own
        | some (.text name) =>
            if name = "" then none
            else
              let base ← readChain? s files (l :: seen) (← s.regular? (beside l name))
              some (own.over base)
        | some _ => none

/-- The values of a file and of those that it extends. -/
def readFile? (s : Surroundings) (l : Location) : Option Layer :=
  s.readChain? (s.tree.entries.length + 1) [] l

/-- The home directory; a variable of another name serves where it is not set. -/
def home? (s : Surroundings) : Option DevicePath :=
  ((s.environment.lookup "HOME").or (s.environment.lookup "USERPROFILE")).map DevicePath.mk

/-- The directories that a variable lists; empty entries do not count. -/
def listed (text : String) : List String :=
  ((Text.pieces ':' text.toList).filter (· ≠ [])).map String.ofList

/-- The directories that all users share. -/
def sharedBases (s : Surroundings) : List String :=
  match ((s.environment.lookup "XDG_CONFIG_DIRS").map listed).getD [] with
  | [] => ["/etc/xdg"]
  | bases => bases

/-- The directories in which settings are kept, in order.  A variable that is set
to the empty text names the working directory. -/
def bases (s : Surroundings) : List DevicePath :=
  let single (name : String) : List String := (s.environment.lookup name).toList
  (single "XDG_CONFIG_HOME" ++ s.sharedBases ++ single "APPDATA" ++
      single "LOCALAPPDATA").map DevicePath.mk ++
    s.home?.toList.map fun home => home.under ".config"

/-- The files that are tried in one directory, in order. -/
def candidatesIn (base : DevicePath) : List DevicePath :=
  let folder := base.under "blockdevice-agent"
  [folder.under settingsFileName, base.under ("." ++ settingsFileName),
    folder.under "blockdevice-agent.json", folder.under "blockdevice-agent.json5",
    folder.under "blockdevice-agent.yaml", folder.under "blockdevice-agent.yml"]

/-- All files that are tried, in order. -/
def candidates (s : Surroundings) : List DevicePath :=
  ((s.valueOf? "BLOCKDEVICE_AGENT_CONFIG_PATH").toList.map DevicePath.mk) ++
    s.bases.flatMap candidatesIn ++
    (s.home?.toList.map fun home => home.under ("." ++ settingsFileName)) ++
    [⟨settingsFileName⟩]

/-- The values of the first candidate that can be read. -/
def fileLayer (s : Surroundings) : Option Layer :=
  let files := s.candidates.filterMap fun path => s.regular? (Text.encode path.text)
  match files.findSome? s.readFile? with
  | some layer => some layer
  | none => if files.isEmpty then some [] else none

/-- Two underscores together stand for a point. -/
def withPoints : List Char → List Char
  | '_' :: '_' :: rest => '.' :: withPoints rest
  | c :: rest => c :: withPoints rest
  | [] => []

/-- The parts of the key that a variable sets, if it is one of the agent's.  Case
and the blanks around the name and around the key do not matter. -/
def keyOfVariable? (name : String) : Option (List String) :=
  let plain := (Text.trimBlank name.toList).map Char.toLower
  (variableStart.toList.isPrefixOf? plain).bind fun rest =>
    let parts := Text.pieces '.' (Text.trimBlank (withPoints rest))
    if parts.contains [] then none else some (parts.map String.ofList)

/-- What a variable sets.  A key of several parts makes its first part a table. -/
def assignment? (name text : String) : Option (String × Value) :=
  match keyOfVariable? name with
  | some [key] => some (key, EnvironmentValue.read text)
  | some (key :: _ :: _) => some (key, .other)
  | _ => none

/-- The values that the environment sets.  Of two variables for one key the later
counts. -/
def environmentLayer (s : Surroundings) : Layer :=
  s.environment.reverse.filterMap fun (name, text) => assignment? name text

/-- The agent's settings, not yet validated. -/
def load (s : Surroundings) : Except SettingsError AgentSettings :=
  match s.fileLayer with
  | none => .error (.unreadable "no settings file can be read")
  | some file => match AgentSettings.ofLayer (s.environmentLayer.over file) with
      | some settings => .ok settings
      | none => .error (.unreadable "a setting has a value of the wrong kind")

end Surroundings
end VolumeAttach
