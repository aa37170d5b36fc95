/-
Module: VolumeAttach.Attach.World
Purpose: Carrying out attaches against a host and a cloud.
Main exports: Site, World, Site.begin, Site.ask, Site.hear, Site.resume, World.drop,
  Site.complete, Site.run, Answer
-/
import VolumeAttach.Attach.Call

namespace VolumeAttach

/-!
A world holds what attaches share: the clock, the host, the cloud, the volumes
whose attach is running, and the records of what was told and of what the cloud
was asked.  Each step of an attach changes the world once, and a volume is
registered exactly as long as an attach of it waits somewhere.
-/

/-- The fixed surroundings of attaches. -/
structure Site (σ κ ε : Type) (ν : Type := Naming) where
  agent : Agent ν
  host : Host σ
  cloud : Cloud κ ε

/-- What attaches share. -/
structure World (σ κ ε : Type) where
  /-- Milliseconds since the start. -/
  clock : Nat := 0
  host : σ
  cloud : κ
  /-- The volumes whose attach is running. -/
  inFlight : List String := []
  /-- What the cloud was asked and how it answered, latest first. -/
  exchanges : List (Exchange ε) := []
  /-- What was told, latest first. -/
  told : List Diagnostic := []

namespace World

variable {σ κ ε : Type}

/-- What was told, in order. -/
def journal (w : World σ κ ε) : Journal := w.told.reverse

/-- Record what was told. -/
def tell (w : World σ κ ε) (diagnostics : List Diagnostic) : World σ κ ε :=
  { w with told := diagnostics.reverseAux w.told }

/-- End the registration of a volume. -/
def release (w : World σ κ ε) (volume : String) : World σ κ ε :=
  { w with inFlight := w.inFlight.erase volume }

/-- Give up an attach where it waits.  Nothing is undone but its registration. -/
def drop (w : World σ κ ε) (s : Suspension) : World σ κ ε := w.release s.volumeId

/-- Let time pass until an instant, unless it is past already. -/
def passUntil (w : World σ κ ε) (instant : Nat) : World σ κ ε :=
  { w with clock := max w.clock instant }

/-- The registration of a volume after a stretch of its attach. -/
def settleRegistration (w : World σ κ ε) (volume : String) : Status ε → World σ κ ε
  | .running _ => w
  | .ended _ => w.release volume

end World

namespace Site

variable {σ κ ε ν : Type} [DeviceNaming ν]

/-- Begin an attach.  A volume is registered if its attach gets as far as the
question to the cloud; a rejected attach leaves every registration alone. -/
def begin (site : Site σ κ ε ν) (order : Order) (w : World σ κ ε) : Status ε × World σ κ ε :=
  let t := site.agent.begin site.host (w.inFlight.contains order.volume.id) order w.host
  let inFlight := match t.status with
    | .running _ => order.volume.id :: w.inFlight
    | .ended _ => w.inFlight
  (t.status, { w with host := t.host, inFlight := inFlight }.tell t.diagnostics)

/-- Put a question to the cloud. -/
def ask (site : Site σ κ ε ν) (w : World σ κ ε) (call : CloudCall) :
    Except ε Unit × World σ κ ε :=
  let (answer, next) := site.cloud.answer w.cloud call
  (answer, { w with cloud := next, exchanges := ⟨call, answer⟩ :: w.exchanges })

/-- Carry on an attach from where it waits to where it waits next or ends, with
the cloud's answer to its question if it has put one. -/
def hear [ToString ε] (site : Site σ κ ε ν) (s : Suspension) (answer : Except ε Unit)
    (w : World σ κ ε) : Status ε × World σ κ ε :=
  match s with
  | .attaching plan =>
      let t := site.agent.attachAnswered site.host plan w.clock answer w.host
      (t.status,
        ({ w with host := t.host }.tell t.diagnostics).settleRegistration
          plan.volume.id t.status)
  | .watching plan watch _ =>
      let t := site.agent.woken site.host plan watch w.clock w.host
      (t.status,
        ({ w with host := t.host }.tell t.diagnostics).settleRegistration
          plan.volume.id t.status)
  | .detaching plan discovered =>
      let t := Agent.detachAnswered plan discovered answer
      (t.value, (w.tell t.diagnostics).settleRegistration plan.volume.id t.value)

/-- Put the question of an attach, if it has one, and carry it on with the answer
at once. -/
def resume [ToString ε] (site : Site σ κ ε ν) (s : Suspension) (w : World σ κ ε) :
    Status ε × World σ κ ε :=
  match s.question? with
  | some call => site.hear s (site.ask w call).1 (site.ask w call).2
  | none => site.hear s (.ok ()) w

/-- Carry an attach to its end with nothing else running.  The clock is an ideal one:
it stands still during a stretch, and moves to the end of each sleep.  The first
argument bounds the number of stretches. -/
def complete [ToString ε] (site : Site σ κ ε ν) :
    Nat → Status ε → World σ κ ε → Option (Outcome ε × World σ κ ε)
  | _, .ended outcome, w => some (outcome, w)
  | 0, .running _, _ => none
  | stretches + 1, .running s, w =>
      let next := site.resume s (w.passUntil s.wake)
      complete site stretches next.1 next.2

/-- How many stretches an attach can have after its first: the answer to the
attach, the turns of the watch and the answer to the detach. -/
def stretchBound (site : Site σ κ ε ν) (w : World σ κ ε) : Nat :=
  Watch.turnBound site.agent.settings (site.host.horizon w.host) + 2

end Site

/-- The end of an attach together with the time that it took. -/
structure Answer (ε : Type) where
  outcome : Outcome ε
  elapsed : Nat

/-- Carry out one attach from beginning to end.  There is no answer exactly when
its watch would go on for ever. -/
def Site.run {σ κ ε ν : Type} [DeviceNaming ν] [ToString ε] (site : Site σ κ ε ν) (order : Order)
    (w : World σ κ ε) : Option (Answer ε × World σ κ ε) :=
  let (status, begun) := site.begin order w
  (site.complete (site.stretchBound w) status begun).map fun (outcome, final) =>
    (⟨outcome, final.clock - w.clock⟩, final)

end VolumeAttach
