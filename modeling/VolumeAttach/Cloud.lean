/-
Module: VolumeAttach.Cloud
Purpose: The calls that the cloud answers.
Main exports: CloudCall, Cloud, Exchange
-/
import VolumeAttach.Device.Path

namespace VolumeAttach

/-!
A cloud answers two calls that change which instance holds a volume.  Its
answers may depend on everything that it was asked before, so it is a function
of a state that it carries along.  How the cloud words a refusal is its own
affair: the type `ε` of its errors is left open.
-/

/-- A call that the cloud answers by accepting or by refusing. -/
inductive CloudCall where
  | attach (volume compute : String) (slot : DevicePath)
  | detach (volume : String)
deriving Repr, DecidableEq

/-- A source of answers. -/
structure Cloud (κ ε : Type) where
  answer : κ → CloudCall → Except ε Unit × κ

/-- A call together with its answer. -/
structure Exchange (ε : Type) where
  call : CloudCall
  answer : Except ε Unit

end VolumeAttach
