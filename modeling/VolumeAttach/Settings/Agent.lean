/-
Module: VolumeAttach.Settings.Agent
Purpose: The settings of the agent, what they mean and which are acceptable.
Main exports: Setting, AgentSettings, SettingsError, AgentSettings.cluster?,
  AgentSettings.naming, AgentSettings.watchSettings, AgentSettings.validate,
  AgentSettings.ofLayer
-/
import VolumeAttach.Settings.Value
import VolumeAttach.Slot.Naming
import VolumeAttach.Uuid
import VolumeAttach.Watch

namespace VolumeAttach

/-!
Settings are texts and numbers as they were given; what they stand for is worked
out from them when it is asked for, so that a message can show the text that is
wrong.  Validation asks for everything once, in a fixed order, and stops at the
first thing that is wrong.
-/

/-- The settings of the agent. -/
structure AgentSettings where
  /-- The cluster whose volumes the agent manages, if it is to check that. -/
  clusterId : Option String := none
  /-- The directory that lists the host's block devices. -/
  blockRoot : String := "/sys/block"
  /-- The directory of the device files. -/
  deviceRoot : String := "/dev"
  /-- The name of the scheme by which slots are renamed. -/
  scheme : String := "xen"
  /-- The pause between two looks at the host, in milliseconds. -/
  pollInterval : UInt64 := 100
  /-- How long to wait for a device, in seconds. -/
  deviceTimeout : UInt64 := 60
deriving Repr, DecidableEq, Inhabited

/-- The settings by name. -/
inductive Setting where
  | clusterId
  | blockRoot
  | deviceRoot
  | scheme
  | pollInterval
  | deviceTimeout
deriving Repr, DecidableEq

namespace Setting

/-- The key of a setting in a file. -/
def key : Setting → String
  | .clusterId => "cluster_id"
  | .blockRoot => "sysfs_block_root"
  | .deviceRoot => "device_root"
  | .scheme => "naming"
  | .pollInterval => "poll_interval_ms"
  | .deviceTimeout => "device_timeout_secs"

/-- What messages call a setting. -/
def description : Setting → String
  | .clusterId => "cluster ID"
  | .blockRoot => "sysfs block directory"
  | .deviceRoot => "device directory"
  | .scheme => "naming scheme"
  | .pollInterval => "poll interval"
  | .deviceTimeout => "device timeout"

/-- What messages say that a setting should be. -/
def expectation : Setting → String
  | .clusterId => "a UUID"
  | .blockRoot => "an absolute path"
  | .deviceRoot => "an absolute path"
  | .scheme => "'xen' or 'identity'"
  | .pollInterval => "a positive number of milliseconds"
  | .deviceTimeout => "a number of seconds"

/-- The environment variable of a setting. -/
def variableName (s : Setting) : String :=
  "BLOCKDEVICE_AGENT_" ++ String.ofList (s.key.toList.map Char.toUpper)

end Setting

/-- The name of the settings file. -/
def settingsFileName : String := "blockdevice-agent.toml"

/-- Why there are no usable settings. -/
inductive SettingsError where
  | missing (setting : Setting)
  | invalid (setting : Setting) (value : String)
  /-- The sources of the settings cannot be read. -/
  | unreadable (detail : String)
deriving Repr, DecidableEq

/-- The wording of a cause, which says where to mend it. -/
def SettingsError.message : SettingsError → String
  | .missing s =>
      "missing configuration field: missing " ++ s.description ++ ": set " ++ s.variableName ++
        " or add " ++ s.key ++ " to " ++ settingsFileName
  | .invalid s value =>
      "invalid configuration value: invalid " ++ s.description ++ " '" ++ value ++
        "': expected " ++ s.expectation ++ "; check " ++ s.variableName ++ " or " ++ s.key ++
        " in " ++ settingsFileName
  | .unreadable detail => "configuration parsing failed: " ++ detail

namespace AgentSettings

/-- The cluster that is configured, if one is. -/
def cluster? (s : AgentSettings) : Except SettingsError (Option Uuid) :=
  match s.clusterId with
  | none => .ok none
  | some raw => match Uuid.parse (Text.trim raw) with
      | .ok u => .ok (some u)
      | .error _ => .error (.invalid .clusterId raw)

/-- The cluster that is configured; there has to be one. -/
def requireCluster (s : AgentSettings) : Except SettingsError Uuid :=
  match s.cluster? with
  | .error e => .error e
  | .ok none => .error (.missing .clusterId)
  | .ok (some u) => .ok u

/-- The scheme that is configured. -/
def namingScheme (s : AgentSettings) : Except SettingsError Scheme :=
  match Scheme.parse s.scheme with
  | .ok scheme => .ok scheme
  | .error _ => .error (.invalid .scheme s.scheme)

/-- How slots and kernel names belong together. -/
def naming (s : AgentSettings) : Except SettingsError Naming :=
  s.namingScheme.map fun scheme => ⟨scheme, ⟨s.deviceRoot⟩⟩

/-- How to watch for devices. -/
def watchSettings (s : AgentSettings) : WatchSettings where
  limit := s.deviceTimeout.toNat * 1000
  interval := s.pollInterval.toNat

/-- A directory has to be given, and as an absolute path. -/
def requireAbsolute (setting : Setting) (value : String) : Except SettingsError Unit :=
  if Text.trim value = "" then .error (.missing setting)
  else if (DevicePath.mk value).isAbsolute then .ok ()
  else .error (.invalid setting value)

/-- A pause of no length is refused. -/
def requirePause (interval : UInt64) : Except SettingsError Unit :=
  if interval = 0 then .error (.invalid .pollInterval "0") else .ok ()

/-- Check every setting. -/
def validate (s : AgentSettings) : Except SettingsError Unit := do
  let _ ← s.cluster?
  requireAbsolute .blockRoot s.blockRoot
  requireAbsolute .deviceRoot s.deviceRoot
  let _ ← s.namingScheme
  requirePause s.pollInterval

end AgentSettings

namespace Value

/-- A value as a text. -/
def toText? : Value → Option String
  | .text s => some s
  | .character c => some (String.singleton c)
  | _ => none

/-- A value as a text that may be left out. -/
def toOptionalText? : Value → Option (Option String)
  | .null => some none
  | v => v.toText?.map some

/-- A value as a whole number of sixty-four bits without sign. -/
def toWord? : Value → Option UInt64
  | .integer n => if 0 ≤ n ∧ n < UInt64.size then some (UInt64.ofNat n.toNat) else none
  | _ => none

end Value

namespace AgentSettings

/-- The value of a setting in a layer, or what holds without it. -/
def take {α : Type} (layer : Layer) (setting : Setting) (read : Value → Option α)
    (otherwise : α) : Option α :=
  match layer.lookup setting.key with
  | none => some otherwise
  | some v => read v

/-- The settings that a layer gives over the defaults.  Every value has to be of
the right kind. -/
def ofLayer (layer : Layer) : Option AgentSettings := do
  let defaults : AgentSettings := {}
  let clusterId ← take layer .clusterId Value.toOptionalText? defaults.clusterId
  let blockRoot ← take layer .blockRoot Value.toText? defaults.blockRoot
  let deviceRoot ← take layer .deviceRoot Value.toText? defaults.deviceRoot
  let scheme ← take layer .scheme Value.toText? defaults.scheme
  let pollInterval ← take layer .pollInterval Value.toWord? defaults.pollInterval
  let deviceTimeout ← take layer .deviceTimeout Value.toWord? defaults.deviceTimeout
  return ⟨clusterId, blockRoot, deviceRoot, scheme, pollInterval, deviceTimeout⟩

end AgentSettings
end VolumeAttach
