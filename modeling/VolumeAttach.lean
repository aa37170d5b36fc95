import VolumeAttach.Host.Script
import VolumeAttach.Main
import VolumeAttach.Proofs.ChosenSlots
import VolumeAttach.Proofs.Effects
import VolumeAttach.Proofs.JointRuns
import VolumeAttach.Proofs.Reservations
import VolumeAttach.Proofs.Retries
import VolumeAttach.Proofs.SlotRaces
import VolumeAttach.Proofs.StageWalk
import VolumeAttach.Proofs.Verdict
import VolumeAttach.Volume.Ownership
import VolumeAttach.Proofs.Trimming
import VolumeAttach.Proofs.SettingChecks
import VolumeAttach.Proofs.Provisioning
import VolumeAttach.Proofs.Enumeration
import VolumeAttach.Proofs.ByteOrder
import VolumeAttach.Proofs.Commands
import VolumeAttach.Proofs.DeviceLists
import VolumeAttach.Proofs.ValidSettings
import VolumeAttach.Proofs.DeviceLookups
import VolumeAttach.Proofs.AttachJournal
import VolumeAttach.Proofs.LetterReadings
import VolumeAttach.Proofs.ScriptReplay
