/-
Module: VolumeAttach.Host.Sight
Purpose: What a host shows of its block devices when it is looked at.
Main exports: InventoryError, Sight, Host
-/
import VolumeAttach.NameSet

namespace VolumeAttach

/-!
A host is looked at again and again, and each look may find something else.
One look gives a `Sight`: the listing, which may fail, and the size of every
name as it can be read right then, which may fail for each name alone.  A host
is whatever answers looks one after the other; nothing is assumed of how one
answer relates to the next.
-/

/-- Why the devices of a host cannot be read. -/
inductive InventoryError where
  /-- The named device is not there at the moment. -/
  | deviceNotFound (name : String)
  /-- What is recorded of a device makes no sense. -/
  | malformed (path message : String)
  /-- What is recorded cannot be read. -/
  | io (path message : String)
deriving Repr, DecidableEq

/-- The wording of a cause. -/
def InventoryError.message : InventoryError → String
  | .deviceNotFound name => "block device " ++ name ++ " not found"
  | .malformed path message => "malformed metadata at " ++ path ++ ": " ++ message
  | .io path message => "failed to access " ++ path ++ ": " ++ message

/-- One look at a host. -/
structure Sight where
  listing : Except InventoryError NameSet
  size : String → Except InventoryError UInt64

/-- A source of sights.  The state is whatever the answers depend on. -/
structure Host (σ : Type) where
  /-- What a look shows, and the state it leaves behind. -/
  look : σ → Sight × σ
  /-- After how many more looks the answers no longer change.  Only a wait
  without pauses between its looks asks for it: such a wait can end by a change
  of the host and by nothing else. -/
  horizon : σ → Nat := fun _ => 0

namespace Host

/-- Two hosts of which one is used. -/
def either {σ τ : Type} (first : Host σ) (second : Host τ) : Host (σ ⊕ τ) where
  look
    | .inl s => ((first.look s).1, .inl (first.look s).2)
    | .inr t => ((second.look t).1, .inr (second.look t).2)
  horizon
    | .inl s => first.horizon s
    | .inr t => second.horizon t

end Host
end VolumeAttach
