/-
Module: VolumeAttach.Host.Script
Purpose: A host that replays a script of listings.
Main exports: Script, Script.report, Script.vanish, Script.list, Script.size,
  ScriptedHost
-/
import VolumeAttach.Host.Sight

namespace VolumeAttach

/-!
A script is a list of snapshots with a bookmark.  A listing serves the snapshot
at the bookmark, and the bookmark moves on if the script goes on behind it.  At
the end of the script the bookmark therefore stays on the last snapshot, which
is served again and again; a snapshot that is appended then has to wait for one
more listing.  Sizes are those of the snapshot that was served last.
-/

/-- The devices of a host with their sizes; of several sizes for one name the
last counts. -/
abbrev Snapshot := List (String × UInt64)

namespace Snapshot

/-- The names of the devices. -/
def names (s : Snapshot) : NameSet := NameSet.ofList (s.map (·.1))

/-- The size of a device. -/
def size? (s : Snapshot) (name : String) : Option UInt64 := s.reverse.lookup name

end Snapshot

/-- A script and how far it has been replayed. -/
structure Script where
  snapshots : List Snapshot := []
  /-- The index of the snapshot that the next listing serves. -/
  bookmark : Nat := 0
  /-- The snapshot that was served last. -/
  current : Snapshot := []
  /-- The names that are gone whenever their size is looked up. -/
  vanishing : List String := []
  listings : Nat := 0

namespace Script

/-- Append a snapshot. -/
def report (s : Script) (devices : Snapshot) : Script :=
  { s with snapshots := s.snapshots ++ [devices] }

/-- From now on a name is gone when its size is looked up. -/
def vanish (s : Script) (name : String) : Script :=
  { s with vanishing := name :: s.vanishing }

/-- The script after one more listing. -/
def next (s : Script) : Script :=
  { s with
    current := (s.snapshots[s.bookmark]?).getD s.current
    bookmark := if s.bookmark + 1 < s.snapshots.length then s.bookmark + 1 else s.bookmark
    listings := s.listings + 1 }

/-- Serve a listing. -/
def list (s : Script) : NameSet × Script := (s.next.current.names, s.next)

/-- The size of a name in the snapshot that was served last. -/
def size (s : Script) (name : String) : Except InventoryError UInt64 :=
  if s.vanishing.contains name then .error (.deviceNotFound name)
  else match s.current.size? name with
    | some bytes => .ok bytes
    | none => .error (.deviceNotFound name)

end Script

/-- A scripted host with failures laid over the script. -/
structure ScriptedHost where
  script : Script
  looks : Nat := 0
  /-- The looks, counted from one, at which the listing fails; such a look does
  not touch the script. -/
  listFailures : List (Nat × InventoryError) := []
  /-- The names whose size cannot be read. -/
  sizeFailures : List (String × InventoryError) := []

namespace ScriptedHost

/-- The size of a name, unless it is among the failures. -/
def size (s : ScriptedHost) (name : String) : Except InventoryError UInt64 :=
  match s.sizeFailures.lookup name with
  | some e => .error e
  | none => s.script.size name

/-- One look at a scripted host. -/
def look (s : ScriptedHost) : Sight × ScriptedHost :=
  let counted := { s with looks := s.looks + 1 }
  match s.listFailures.lookup counted.looks with
  | some e => (⟨.error e, counted.size⟩, counted)
  | none =>
      let served := { counted with script := s.script.next }
      (⟨.ok s.script.list.1, served.size⟩, served)

/-- The looks until the failures are over and the script is at its end. -/
def horizon (s : ScriptedHost) : Nat :=
  s.script.snapshots.length + (s.listFailures.map (·.1)).foldl max 0

/-- The scripted host as a source of sights. -/
def host : Host ScriptedHost := ⟨look, horizon⟩

end ScriptedHost
end VolumeAttach
