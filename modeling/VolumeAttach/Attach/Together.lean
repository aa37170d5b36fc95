/-
Module: VolumeAttach.Attach.Together
Purpose: Attaches that run side by side, and giving them up after a time.
Main exports: Member, Joint, Site.settle, Site.pass, Site.together
-/
import VolumeAttach.Attach.World

namespace VolumeAttach

/-!
Attaches that start at the same instant take turns in the order in which they
are listed.  Each runs until it sleeps or ends.  When all that are left sleep,
the clock moves to the earliest time at which one of them wants to be woken,
and the turns begin again at the front of the list.

A joint run may have a time limit.  When an instant comes after it before all
have ended, the rest are dropped at the limit; what ends exactly at the limit
still counts if then all have ended.
-/

/-- One attach of a joint run. -/
inductive Member (ε : Type) where
  | waiting (order : Order)
  | active (suspension : Suspension)
  | done (answer : Answer ε)

/-- How a joint run ends. -/
inductive Joint (ε : Type) where
  | finished (answers : List (Answer ε))
  | cancelled
  /-- Some attach goes on for ever without sleeping. -/
  | endless

namespace Member

variable {ε : Type}

/-- The answer of a member that has ended. -/
def answer? : Member ε → Option (Answer ε)
  | .done answer => some answer
  | _ => none

/-- When a member that sleeps wants to be woken. -/
def wake? : Member ε → Option Nat
  | .active s => some s.wake
  | _ => none

/-- The answers of all members, if all have ended. -/
def answers? (members : List (Member ε)) : Option (List (Answer ε)) :=
  members.mapM answer?

/-- The earliest time at which a member wants to be woken. -/
def firstWake? (members : List (Member ε)) : Option Nat :=
  (members.filterMap wake?).min?

/-- Give up every member that waits somewhere. -/
def dropAll {σ κ : Type} (members : List (Member ε)) (w : World σ κ ε) : World σ κ ε :=
  members.foldl
    (fun w member => match member with
      | .active s => w.drop s
      | _ => w)
    w

end Member

namespace Site

variable {σ κ ε ν : Type} [DeviceNaming ν] [ToString ε]

/-- Carry on an attach until it sleeps beyond the present instant or ends.  The
first argument bounds the number of stretches. -/
def settle (site : Site σ κ ε ν) : Nat → Status ε → World σ κ ε → Status ε × World σ κ ε
  | _, .ended outcome, w => (.ended outcome, w)
  | 0, .running s, w => (.running s, w)
  | stretches + 1, .running s, w =>
      if s.wake ≤ w.clock then
        let next := site.resume s w
        settle site stretches next.1 next.2
      else (.running s, w)

/-- A member's share of a pass: it begins or goes on, as far as it can go at the
present instant. -/
def advance (site : Site σ κ ε ν) (start : Nat) (member : Member ε) (w : World σ κ ε) :
    Member ε × World σ κ ε :=
  let settled (status : Status ε) (w : World σ κ ε) : Member ε × World σ κ ε :=
    match site.settle (site.host.horizon w.host + 4) status w with
    | (.ended outcome, final) => (.done ⟨outcome, final.clock - start⟩, final)
    | (.running s, final) => (.active s, final)
  match member with
  | .waiting order => settled (site.begin order w).1 (site.begin order w).2
  | .active s => settled (.running s) w
  | .done answer => (.done answer, w)

/-- One pass over the members in list order. -/
def pass (site : Site σ κ ε ν) (start : Nat) :
    List (Member ε) → World σ κ ε → List (Member ε) × World σ κ ε
  | [], w => ([], w)
  | member :: rest, w =>
      let (moved, next) := site.advance start member w
      let (others, final) := pass site start rest next
      (moved :: others, final)

/-- Passes until all have ended or the time limit is over.  The first argument
bounds the number of passes. -/
def rounds (site : Site σ κ ε ν) (start : Nat) (limit : Option Nat) :
    Nat → List (Member ε) → World σ κ ε → Joint ε × World σ κ ε
  | 0, _, w => (.endless, w)
  | passes + 1, members, w =>
      let (moved, next) := site.pass start members w
      match Member.answers? moved with
      | some answers => (.finished answers, next)
      | none =>
          match Member.firstWake? moved with
          | none => (.endless, next)
          | some wake =>
              if wake ≤ next.clock then (.endless, next)
              else if limit.any fun l => decide (l < wake) then
                (.cancelled, (Member.dropAll moved next).passUntil (limit.getD next.clock))
              else rounds site start limit passes moved (next.passUntil wake)

/-- Carry out orders side by side, for at most the given time if one is given. -/
def together (site : Site σ κ ε ν) (orders : List Order) (time : Option Nat)
    (w : World σ κ ε) : Joint ε × World σ κ ε :=
  let turns := Watch.turnBound site.agent.settings (site.host.horizon w.host)
  site.rounds w.clock (time.map (w.clock + ·)) (orders.length * turns + 2)
    (orders.map Member.waiting) w

end Site
end VolumeAttach
