/-
Module: VolumeAttach.Proofs.JointRuns
Purpose: The orders in which attaches are really carried out are among those that the
  acts of a fleet can follow.
Main exports: Site.Reaches, Site.Leads, Site.reaches_of_run, Fleet.AllStand,
  Site.reaches_of_together
-/
import VolumeAttach.Attach.Together
import VolumeAttach.Proofs.Interleaving

namespace VolumeAttach

/-!
A fleet may let its attaches go on in any order.  One attach may be carried from its
beginning to its end, and several may take turns until they sleep: both are done by acts
that were possible anyway, so that what holds of every run of acts holds of them.
-/

/-- An attach of a fleet has come to a status, in a world. -/
def Fleet.Stands {σ κ ε : Type} (f : Fleet σ κ ε) (n : Nat) (status : Status ε)
    (w : World σ κ ε) : Prop :=
  f.world = w ∧ ∃ c, f.calls[n]? = some c ∧ c.phase = .ofStatus status

namespace Site

variable {σ κ ε ν : Type} [DeviceNaming ν] [ToString ε] {site : Site σ κ ε ν}
  {f g h : Fleet σ κ ε} {n : Nat} {w final : World σ κ ε} {status : Status ε} {s : Suspension}
  {c : Call ε}

/-- Some acts lead from one fleet to another. -/
def Reaches (site : Site σ κ ε ν) (f g : Fleet σ κ ε) : Prop :=
  ∃ acts, site.follow acts f = some g

namespace Reaches

theorem refl (site : Site σ κ ε ν) (f : Fleet σ κ ε) : site.Reaches f f := ⟨[], rfl⟩

theorem trans (first : site.Reaches f g) (second : site.Reaches g h) : site.Reaches f h := by
  obtain ⟨acts, run⟩ := first
  obtain ⟨later, rest⟩ := second
  exact ⟨acts ++ later, by rw [follow_append, run, Option.bind_some, rest]⟩

theorem of_act {a : Act} (run : site.act a f = some g) : site.Reaches f g :=
  ⟨[a], by rw [follow, run]; rfl⟩

/-- Time may pass at any time. -/
theorem of_pass (site : Site σ κ ε ν) (instant : Nat) (f : Fleet σ κ ε) :
    site.Reaches f { f with world := f.world.passUntil instant } := ⟨[.pass instant], rfl⟩

end Reaches

/-- Acts lead from one fleet to another and let no attach go on but one. -/
structure Leads (site : Site σ κ ε ν) (n : Nat) (f g : Fleet σ κ ε) : Prop where
  reaches : site.Reaches f g
  others : ∀ m, m ≠ n → g.calls[m]? = f.calls[m]?

namespace Leads

theorem refl (site : Site σ κ ε ν) (n : Nat) (f : Fleet σ κ ε) : site.Leads n f f :=
  ⟨.refl site f, fun _ _ => rfl⟩

theorem trans (first : site.Leads n f g) (second : site.Leads n g h) : site.Leads n f h :=
  ⟨first.reaches.trans second.reaches,
    fun m other => (second.others m other).trans (first.others m other)⟩

/-- An act that changes one attach. -/
theorem of_act {a : Act} (run : site.act a f = some g) (moved : g.calls = f.calls.set n c) :
    site.Leads n f g := by
  refine ⟨.of_act run, fun m other => ?_⟩
  rw [moved, List.getElem?_set_ne (Ne.symm other)]

/-- An attach that was started behind all others is the last one. -/
theorem length_eq (leads : site.Leads n f g) (here : g.calls[n]? = some c)
    (last : f.calls.length = n) : g.calls.length = n + 1 := by
  have behind : g.calls[n + 1]? = none := by
    rw [leads.others (n + 1) (Nat.succ_ne_self n)]
    exact List.getElem?_eq_none (by omega)
  have above := List.getElem?_eq_none_iff.mp behind
  obtain ⟨below, -⟩ := List.getElem?_eq_some_iff.mp here
  omega

end Leads

/-! ### One attach -/

/-- To go on with an answer leads to where the attach then stands. -/
theorem goOn_stands {answer : Except ε Unit} (here : f.calls[n]? = some c) :
    (site.goOn f n c s answer).Stands n (site.hear s answer f.world).1
      (site.hear s answer f.world).2 := by
  obtain ⟨inside, -⟩ := List.getElem?_eq_some_iff.mp here
  exact ⟨rfl, _, List.getElem?_set_self inside, rfl⟩

/-- A stretch is a wake, or a question with its answer. -/
theorem resume_leads (site : Site σ κ ε ν) (stands : f.Stands n (.running s) w)
    (woken : s.wake ≤ w.clock) :
    ∃ g, site.Leads n f g ∧ g.Stands n (site.resume s w).1 (site.resume s w).2 := by
  obtain ⟨rfl, c, here, waits⟩ := stands
  have waits : c.phase = .waiting s := waits
  unfold resume
  cases asks : s.question? with
  | none =>
      have wakes : site.act (.wake n) f = some (site.goOn f n c s (.ok ())) := by
        simp [act, here, waits, asks, woken]
      exact ⟨_, .of_act wakes rfl, goOn_stands here⟩
  | some call =>
      let asked : Fleet σ κ ε :=
        { f.move n c (.answered s (site.ask f.world call).1) (site.ask f.world call).2 with
          log := .exchanged n ⟨call, (site.ask f.world call).1⟩ :: f.log }
      have answers : site.act (.ask n) f = some asked := by
        simp only [act, here, waits, asks, Option.bind_eq_bind, Option.bind_some]
        rfl
      obtain ⟨inside, -⟩ := List.getElem?_eq_some_iff.mp here
      have there : asked.calls[n]? =
          some (c.inPhase (.answered s (site.ask f.world call).1)) :=
        List.getElem?_set_self inside
      have hears : site.act (.hear n) asked = some (site.goOn asked n
          (c.inPhase (.answered s (site.ask f.world call).1)) s (site.ask f.world call).1) := by
        simp only [act, there, Option.bind_eq_bind, Option.bind_some]
        rfl
      exact ⟨_, (Leads.of_act answers rfl).trans (.of_act hears rfl), goOn_stands there⟩

/-- An attach goes on until it sleeps. -/
theorem settle_leads (site : Site σ κ ε ν) (stretches : Nat) (stands : f.Stands n status w) :
    ∃ g, site.Leads n f g ∧
      g.Stands n (site.settle stretches status w).1 (site.settle stretches status w).2 := by
  induction stretches generalizing f status w with
  | zero => cases status <;> exact ⟨f, .refl site n f, stands⟩
  | succ stretches ih =>
      cases status with
      | ended outcome => exact ⟨f, .refl site n f, stands⟩
      | running s =>
          rw [settle]
          split
          · rename_i woken
            obtain ⟨g, first, there⟩ := site.resume_leads stands woken
            obtain ⟨h, second, settled⟩ := ih there
            exact ⟨h, first.trans second, settled⟩
          · exact ⟨f, .refl site n f, stands⟩

/-- An attach goes on to its end. -/
theorem complete_leads {stretches : Nat} {outcome : Outcome ε} (stands : f.Stands n status w)
    (done : site.complete stretches status w = some (outcome, final)) :
    ∃ g, site.Leads n f g ∧ g.Stands n (.ended outcome) final := by
  induction stretches generalizing f status w with
  | zero =>
      cases status with
      | ended => cases done; exact ⟨f, .refl site n f, stands⟩
      | running => cases done
  | succ stretches ih =>
      cases status with
      | ended => cases done; exact ⟨f, .refl site n f, stands⟩
      | running s =>
          obtain ⟨rfl, c, here, waits⟩ := stands
          obtain ⟨g, first, there⟩ := site.resume_leads
            (f := { f with world := f.world.passUntil s.wake })
            ⟨rfl, c, here, waits⟩ (Nat.le_max_right ..)
          obtain ⟨h, second, ended⟩ := ih there done
          have passes : site.Leads n f { f with world := f.world.passUntil s.wake } :=
            ⟨.of_pass site s.wake f, fun _ _ => rfl⟩
          exact ⟨h, passes.trans (first.trans second), ended⟩

/-- A started attach stands where its first stretch has ended. -/
theorem start_leads (site : Site σ κ ε ν) (order : Order) (f : Fleet σ κ ε) :
    site.Leads f.calls.length f (f.join order (site.begin order f.world)) ∧
      (f.join order (site.begin order f.world)).Stands f.calls.length
        (site.begin order f.world).1 (site.begin order f.world).2 := by
  refine ⟨⟨⟨[.start order], rfl⟩, fun m other => ?_⟩, rfl, _, List.getElem?_concat_length, ?_⟩
  · refine Option.ext fun c => ?_
    rw [Fleet.join, getElem?_concat_eq_some_iff]
    simp [other]
  · cases (site.begin order f.world).1 <;> rfl

/-- An attach that is carried out on its own is a run. -/
theorem reaches_of_run {order : Order} {answer : Answer ε}
    (ran : site.run order f.world = some (answer, final)) :
    ∃ g, site.Reaches f g ∧ g.world = final ∧
      g.outcome? f.calls.length = some answer.outcome := by
  obtain ⟨⟨outcome, world⟩, done, ends⟩ := Option.map_eq_some_iff.mp ran
  cases ends
  obtain ⟨first, there⟩ := site.start_leads order f
  obtain ⟨g, second, rfl, c, here, phase⟩ := complete_leads there done
  exact ⟨g, first.reaches.trans second.reaches, rfl,
    Fleet.outcome?_eq_some_iff.mpr ⟨c, here, phase⟩⟩

end Site

/-! ### Attaches that take turns -/

/-- A member of a joint run stands where an attach of the fleet does. -/
def Member.Stands {σ κ ε : Type} (f : Fleet σ κ ε) (n : Nat) : Member ε → Prop
  | .waiting _ => False
  | .active s => f.Stands n (.running s) f.world
  | .done answer => f.Stands n (.ended answer.outcome) f.world

/-- So do all members from a number on. -/
def Fleet.AllStand {σ κ ε : Type} (f : Fleet σ κ ε) : Nat → List (Member ε) → Prop
  | _, [] => True
  | n, member :: rest => member.Stands f n ∧ f.AllStand (n + 1) rest

/-- All members have started, or none has and they are to be the next ones. -/
def Fleet.Ready {σ κ ε : Type} (f : Fleet σ κ ε) (n : Nat) (members : List (Member ε)) : Prop :=
  f.AllStand n members ∨
    f.calls.length = n ∧ ∀ member ∈ members, ∃ order, member = .waiting order

/-- It stands where there is one. -/
theorem Member.Stands.call {σ κ ε : Type} {f : Fleet σ κ ε} {n : Nat} {member : Member ε}
    (stands : member.Stands f n) : ∃ c, f.calls[n]? = some c := by
  cases member with
  | waiting order => exact stands.elim
  | active s =>
      obtain ⟨-, c, here, -⟩ := stands
      exact ⟨c, here⟩
  | done answer =>
      obtain ⟨-, c, here, -⟩ := stands
      exact ⟨c, here⟩

/-- Where a member stands depends on its attach alone. -/
theorem Member.Stands.congr {σ κ ε : Type} {f g : Fleet σ κ ε} {n : Nat} {member : Member ε}
    (stands : member.Stands f n) (same : g.calls[n]? = f.calls[n]?) : member.Stands g n := by
  cases member with
  | waiting order => exact stands
  | active s =>
      obtain ⟨-, c, here, phase⟩ := stands
      exact ⟨rfl, c, same.trans here, phase⟩
  | done answer =>
      obtain ⟨-, c, here, phase⟩ := stands
      exact ⟨rfl, c, same.trans here, phase⟩

theorem Fleet.AllStand.congr {σ κ ε : Type} {f g : Fleet σ κ ε} {n : Nat}
    {members : List (Member ε)} (stand : f.AllStand n members)
    (same : ∀ m, n ≤ m → g.calls[m]? = f.calls[m]?) : g.AllStand n members := by
  induction members generalizing n with
  | nil => trivial
  | cons member rest ih =>
      exact ⟨stand.1.congr (same n (Nat.le_refl n)),
        ih stand.2 fun m later => same m (Nat.le_of_succ_le later)⟩

/-- Each member stands where the attach with its number does. -/
theorem Fleet.AllStand.get {σ κ ε : Type} {f : Fleet σ κ ε} {n i : Nat}
    {members : List (Member ε)} {member : Member ε} (stand : f.AllStand n members)
    (inside : members[i]? = some member) : member.Stands f (n + i) := by
  induction members generalizing n i with
  | nil => cases inside
  | cons head rest ih =>
      cases i with
      | zero =>
          cases inside
          exact stand.1
      | succ i =>
          rw [Nat.add_succ, ← Nat.succ_add]
          exact ih stand.2 inside

namespace Site

variable {σ κ ε ν : Type} [DeviceNaming ν] [ToString ε] {site : Site σ κ ε ν}
  {f : Fleet σ κ ε} {n : Nat}

/-- A member's share of a pass leads to where the member then stands. -/
theorem advance_leads (site : Site σ κ ε ν) (start : Nat) {member : Member ε}
    (ready : member.Stands f n ∨ f.calls.length = n ∧ ∃ order, member = .waiting order) :
    ∃ g, site.Leads n f g ∧ g.world = (site.advance start member f.world).2 ∧
      (site.advance start member f.world).1.Stands g n := by
  have share : ∀ {first : Fleet σ κ ε} {status : Status ε} {w : World σ κ ε} (stretches : Nat),
      site.Leads n f first → first.Stands n status w → ∃ g settled, site.Leads n f g ∧
        site.settle stretches status w = (settled, g.world) ∧ g.Stands n settled g.world := by
    intro first status w stretches before stands
    obtain ⟨g, after, world, there⟩ := site.settle_leads stretches stands
    exact ⟨g, _, before.trans after, by rw [world], rfl, there⟩
  rcases ready with stands | ⟨rfl, order, rfl⟩
  · cases member with
    | waiting order => exact stands.elim
    | active s =>
        obtain ⟨g, settled, leads, hsettle, there⟩ :=
          share (site.host.horizon f.world.host + 4) (.refl site n f) stands
        refine ⟨g, leads, ?_⟩
        cases settled <;> simp only [advance, hsettle] <;> exact ⟨trivial, there⟩
    | done answer => exact ⟨f, .refl site n f, rfl, stands⟩
  · obtain ⟨first, begun⟩ := site.start_leads order f
    obtain ⟨g, settled, leads, hsettle, there⟩ :=
      share (site.host.horizon (site.begin order f.world).2.host + 4) first begun
    refine ⟨g, leads, ?_⟩
    cases settled <;> simp only [advance, hsettle] <;> exact ⟨trivial, there⟩

/-- A pass over the members from a number on. -/
theorem pass_reaches (site : Site σ κ ε ν) (start : Nat) {members : List (Member ε)}
    (ready : f.Ready n members) :
    ∃ g, site.Reaches f g ∧ (∀ m < n, g.calls[m]? = f.calls[m]?) ∧
      g.world = (site.pass start members f.world).2 ∧
      g.AllStand n (site.pass start members f.world).1 := by
  induction members generalizing n f with
  | nil => exact ⟨f, .refl site f, fun _ _ => rfl, rfl, trivial⟩
  | cons member rest ih =>
      have share : member.Stands f n ∨
          f.calls.length = n ∧ ∃ order, member = .waiting order := by
        rcases ready with ⟨stands, -⟩ | ⟨last, waiting⟩
        · exact .inl stands
        · exact .inr ⟨last, waiting member List.mem_cons_self⟩
      obtain ⟨g, leads, moved, stands⟩ := site.advance_leads start share
      have ready_rest : g.Ready (n + 1) rest := by
        rcases ready with ⟨-, stand⟩ | ⟨last, waiting⟩
        · exact .inl (stand.congr fun m later => leads.others m (Nat.ne_of_gt later))
        · refine .inr ⟨?_, fun other inside => waiting other (List.mem_cons_of_mem _ inside)⟩
          obtain ⟨c, here⟩ := stands.call
          exact leads.length_eq here last
      obtain ⟨h, reaches, before, world, stand⟩ := ih ready_rest
      rw [moved] at world stand
      refine ⟨h, leads.reaches.trans reaches, ?_, world,
        stands.congr (before n (Nat.lt_succ_self n)), stand⟩
      intro m earlier
      rw [before m (Nat.lt_succ_of_lt earlier), leads.others m (Nat.ne_of_lt earlier)]

/-- Members that are given up are dropped one after the other. -/
theorem dropAll_reaches (site : Site σ κ ε ν) {members : List (Member ε)}
    (stand : f.AllStand n members) :
    ∃ g, site.Reaches f g ∧ g.world = Member.dropAll members f.world := by
  induction members generalizing n f with
  | nil => exact ⟨f, .refl site f, rfl⟩
  | cons member rest ih =>
      obtain ⟨stands, others⟩ := stand
      cases member with
      | waiting order => exact stands.elim
      | done answer => exact ih others
      | active s =>
          obtain ⟨-, c, here, waits⟩ := stands
          have runs : c.phase.suspension? = some s := by rw [waits]; rfl
          have drops : site.act (.drop n) f = some (f.move n c .dropped (f.world.drop s)) := by
            simp only [act, here, runs, Option.bind_eq_bind, Option.bind_some]
          have leads : site.Leads n f (f.move n c .dropped (f.world.drop s)) :=
            .of_act drops rfl
          obtain ⟨g, reaches, world⟩ :=
            ih (others.congr fun m later => leads.others m (Nat.ne_of_gt later))
          exact ⟨g, leads.reaches.trans reaches, world⟩

end Site

/-- Members that have all ended are their answers. -/
theorem Member.eq_map_of_answers? {ε : Type} {members : List (Member ε)}
    {answers : List (Answer ε)} (all : Member.answers? members = some answers) :
    members = answers.map .done := by
  unfold answers? at all
  induction members generalizing answers with
  | nil =>
      cases all
      rfl
  | cons member rest ih =>
      rw [List.mapM_cons] at all
      obtain ⟨answer, first, all⟩ := Option.bind_eq_some_iff.mp all
      obtain ⟨others, tail, all⟩ := Option.bind_eq_some_iff.mp all
      cases all
      rw [List.map_cons, ← ih tail]
      cases member with
      | waiting order => cases first
      | active s => cases first
      | done answer => cases first; rfl

namespace Site

variable {σ κ ε ν : Type} [DeviceNaming ν] [ToString ε] {site : Site σ κ ε ν}
  {f : Fleet σ κ ε} {n : Nat}

/-- Passes until all have ended, or until the time limit. -/
theorem rounds_reaches (site : Site σ κ ε ν) (start : Nat) (limit : Option Nat) {passes : Nat}
    {members : List (Member ε)} {joint : Joint ε} {final : World σ κ ε}
    (ready : f.Ready n members)
    (ran : site.rounds start limit passes members f.world = (joint, final)) :
    ∃ g, site.Reaches f g ∧ g.world = final ∧
      ∀ answers, joint = .finished answers → g.AllStand n (answers.map .done) := by
  induction passes generalizing members f with
  | zero =>
      cases ran
      exact ⟨f, .refl site f, rfl, nofun⟩
  | succ passes ih =>
      obtain ⟨g, reaches, -, world, stand⟩ := site.pass_reaches start ready
      rw [rounds] at ran
      cases hpass : site.pass start members f.world with
      | mk moved next =>
          rw [hpass] at ran world stand
          subst world
          simp only at ran
          split at ran
          · rename_i answers all
            cases ran
            refine ⟨g, reaches, rfl, ?_⟩
            rintro _ ⟨rfl⟩
            rw [← Member.eq_map_of_answers? all]
            exact stand
          · split at ran
            · cases ran
              exact ⟨g, reaches, rfl, nofun⟩
            · rename_i wake hwake
              split at ran
              · cases ran
                exact ⟨g, reaches, rfl, nofun⟩
              · split at ran
                · cases ran
                  obtain ⟨h, drops, dropped⟩ := site.dropAll_reaches stand
                  have passes := Reaches.of_pass site (limit.getD g.world.clock) h
                  exact ⟨_, reaches.trans (drops.trans passes), by rw [dropped], nofun⟩
                · have later : Fleet.Ready { g with world := g.world.passUntil wake } n moved :=
                    .inl (stand.congr fun _ _ => rfl)
                  obtain ⟨h, rest, ends⟩ := ih later ran
                  exact ⟨h, reaches.trans ((Reaches.of_pass site wake g).trans rest), ends⟩

/-- Attaches that are carried out side by side are a run, and if they finish, their
answers are the ends of the attaches in the order of the list. -/
theorem reaches_of_together {orders : List Order} {time : Option Nat} {joint : Joint ε}
    {final : World σ κ ε} (ran : site.together orders time f.world = (joint, final)) :
    ∃ g, site.Reaches f g ∧ g.world = final ∧
      ∀ answers, joint = .finished answers → ∀ (k : Nat) answer, answers[k]? = some answer →
        g.outcome? (f.calls.length + k) = some answer.outcome := by
  have ready : f.Ready f.calls.length (orders.map (Member.waiting (ε := ε))) := by
    refine .inr ⟨rfl, fun member inside => ?_⟩
    obtain ⟨order, -, rfl⟩ := List.mem_map.mp inside
    exact ⟨order, rfl⟩
  obtain ⟨g, reaches, world, stand⟩ := site.rounds_reaches _ _ ready ran
  refine ⟨g, reaches, world, fun answers ends k answer here => ?_⟩
  obtain ⟨-, c, there, phase⟩ :=
    (stand answers ends).get (i := k) (by rw [List.getElem?_map, here]; rfl)
  exact Fleet.outcome?_eq_some_iff.mpr ⟨c, there, phase⟩

end Site
end VolumeAttach
