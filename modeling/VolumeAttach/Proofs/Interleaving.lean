/-
Module: VolumeAttach.Proofs.Interleaving
Purpose: Attaches that take their steps in any order and may be given up wherever
  they wait.
Main exports: Phase, Call, Happening, Fleet, Act, Site.act, Site.follow, Site.Step,
  Site.act_step, Site.follow_induction, Site.follow_advances, Call.Coherent, Fleet.Coherent.follow
-/
import VolumeAttach.Proofs.Stretches

namespace VolumeAttach

/-!
A fleet is a world together with every attach that was started in it.  Nothing
is said of the order in which the attaches go on: an act names the one that takes a
step, and a run follows any list of acts, each of which must be possible at its time.

The cloud's answer to a question and the stretch that begins with it are two acts,
since others may go on between them.  An attach may therefore be given up before the
cloud has carried out what it asked, or after that without hearing of it.  Once it is
given up it takes no more steps.
-/

/-- Where an attach of a fleet stands. -/
inductive Phase (ε : Type) where
  /-- It waits, and its question, if it has one, is not answered. -/
  | waiting (s : Suspension)
  /-- The cloud has answered its question, and it has not gone on. -/
  | answered (s : Suspension) (answer : Except ε Unit)
  | ended (outcome : Outcome ε)
  /-- It was given up where it waited. -/
  | dropped

namespace Phase

variable {ε : Type}

/-- The phase after an uninterrupted stretch. -/
def ofStatus : Status ε → Phase ε
  | .running s => .waiting s
  | .ended outcome => .ended outcome

/-- Where an attach that is running waits. -/
def suspension? : Phase ε → Option Suspension
  | .waiting s => some s
  | .answered s _ => some s
  | .ended _ => none
  | .dropped => none

/-- Whether the cloud has accepted the attach and has not accepted its detach. -/
def isHeld : Phase ε → Bool
  | .waiting s => s.isAccepted
  | .answered s answer => s.isHeldAfter answer
  | .ended _ => false
  | .dropped => false

end Phase

/-- One attach of a fleet. -/
structure Call (ε : Type) where
  order : Order
  /-- What it set out with, if the order passed the checks. -/
  plan? : Option Plan
  phase : Phase ε

namespace Call

variable {ε : Type}

/-- The volume that is to be attached. -/
def volumeId (c : Call ε) : String := c.order.volume.id

/-- Whether it has set out and has neither ended nor been given up. -/
def isRunning (c : Call ε) : Bool := c.phase.suspension?.isSome

/-- An attach after its first stretch. -/
def begun (order : Order) : Status ε → Call ε
  | .running s => ⟨order, some s.plan, .waiting s⟩
  | .ended outcome => ⟨order, none, .ended outcome⟩

/-- The same attach in another phase. -/
def inPhase (c : Call ε) (phase : Phase ε) : Call ε := { c with phase := phase }

end Call

/-- What happens to the attach with a number and can be told from outside. -/
inductive Happening (ε : Type) where
  /-- The cloud answered its question. -/
  | exchanged (call : Nat) (exchange : Exchange ε)
  | ended (call : Nat) (outcome : Outcome ε)

/-- What the phase of an attach says to the outside when it is reached. -/
def Phase.happenings {ε : Type} (n : Nat) : Phase ε → List (Happening ε)
  | .ended outcome => [.ended n outcome]
  | _ => []

/-- A world with the attaches that were started in it. -/
structure Fleet (σ κ ε : Type) where
  world : World σ κ ε
  /-- The attaches in the order of their starts; the first has the number zero. -/
  calls : List (Call ε) := []
  /-- What happened, latest first. -/
  log : List (Happening ε) := []

/-- How the attach with a number ended, if it has. -/
def Fleet.outcome? {σ κ ε : Type} (f : Fleet σ κ ε) (n : Nat) : Option (Outcome ε) :=
  match f.calls[n]? with
  | some ⟨_, _, .ended outcome⟩ => some outcome
  | _ => none

theorem Fleet.outcome?_eq_some_iff {σ κ ε : Type} {f : Fleet σ κ ε} {n : Nat}
    {outcome : Outcome ε} :
    f.outcome? n = some outcome ↔ ∃ c, f.calls[n]? = some c ∧ c.phase = .ended outcome := by
  unfold outcome?
  split
  · rename_i here
    simp [here]
  · rename_i never
    simp only [false_iff, not_exists, not_and, reduceCtorEq]
    rintro ⟨order, plan?, phase⟩ here rfl
    exact never order plan? outcome here

/-- What the cloud was asked, with the number of the attach that asked, latest first. -/
def Fleet.exchanges {σ κ ε : Type} (f : Fleet σ κ ε) : List (Nat × Exchange ε) :=
  f.log.filterMap fun
    | .exchanged n exchange => some (n, exchange)
    | .ended .. => none

/-- A step of one attach, or the passing of time. -/
inductive Act where
  | start (order : Order)
  /-- The cloud answers the question of an attach. -/
  | ask (call : Nat)
  /-- An attach goes on with the answer. -/
  | hear (call : Nat)
  /-- An attach goes on after its sleep. -/
  | wake (call : Nat)
  | drop (call : Nat)
  | pass (instant : Nat)

namespace Fleet

variable {σ κ ε : Type}

/-- A fleet in which nothing was started. -/
def fresh (clock : Nat) (host : σ) (cloud : κ) : Fleet σ κ ε where
  world := { clock := clock, host := host, cloud := cloud }

/-- The fleet with one more attach, after its first stretch. -/
def join (f : Fleet σ κ ε) (order : Order) (begun : Status ε × World σ κ ε) : Fleet σ κ ε where
  world := begun.2
  calls := f.calls ++ [.begun order begun.1]
  log := (Phase.ofStatus begun.1).happenings f.calls.length ++ f.log

/-- The fleet in which one attach has reached a phase. -/
def move (f : Fleet σ κ ε) (n : Nat) (c : Call ε) (phase : Phase ε) (w : World σ κ ε) :
    Fleet σ κ ε where
  world := w
  calls := f.calls.set n (c.inPhase phase)
  log := phase.happenings n ++ f.log

end Fleet

namespace Site

variable {σ κ ε ν : Type} [DeviceNaming ν] [ToString ε]

/-- Let an attach go on with an answer from where it waits. -/
def goOn (site : Site σ κ ε ν) (f : Fleet σ κ ε) (n : Nat) (c : Call ε) (s : Suspension)
    (answer : Except ε Unit) : Fleet σ κ ε :=
  let heard := site.hear s answer f.world
  f.move n c (.ofStatus heard.1) heard.2

/-- Carry out an act if it is possible. -/
def act (site : Site σ κ ε ν) (a : Act) (f : Fleet σ κ ε) : Option (Fleet σ κ ε) :=
  match a with
  | .start order => some (f.join order (site.begin order f.world))
  | .ask n => do
      let c ← f.calls[n]?
      match c.phase with
      | .waiting s =>
          let call ← s.question?
          let asked := site.ask f.world call
          let next := f.move n c (.answered s asked.1) asked.2
          some { next with log := .exchanged n ⟨call, asked.1⟩ :: next.log }
      | _ => none
  | .hear n => do
      let c ← f.calls[n]?
      match c.phase with
      | .answered s answer => some (site.goOn f n c s answer)
      | _ => none
  | .wake n => do
      let c ← f.calls[n]?
      match c.phase with
      | .waiting s =>
          if s.question? = none ∧ s.wake ≤ f.world.clock then some (site.goOn f n c s (.ok ()))
          else none
      | _ => none
  | .drop n => do
      let c ← f.calls[n]?
      let s ← c.phase.suspension?
      some (f.move n c .dropped (f.world.drop s))
  | .pass instant => some { f with world := f.world.passUntil instant }

/-- Carry out acts one after the other. -/
def follow (site : Site σ κ ε ν) : List Act → Fleet σ κ ε → Option (Fleet σ κ ε)
  | [], f => some f
  | a :: rest, f => (site.act a f).bind (follow site rest)

end Site

/-! ### What an act can do -/

namespace Site

variable {σ κ ε ν : Type} [DeviceNaming ν]

/-- Everything that an act can do to a fleet.  The host and the journal are left open
throughout. -/
inductive Step (site : Site σ κ ε ν) (f : Fleet σ κ ε) : Fleet σ κ ε → Prop where
  /-- An attach ends in its first stretch and leaves every registration alone. -/
  | rejected (order : Order) (failure : AttachError ε) (host : σ) (told : List Diagnostic) :
      Step site f
        { world := { f.world with host := host, told := told }
          calls := f.calls ++ [⟨order, none, .ended (.error failure)⟩]
          log := .ended f.calls.length (.error failure) :: f.log }
  /-- An attach passes the checks and is registered. -/
  | setOut (order : Order) (plan : Plan) (host : σ) (told : List Diagnostic)
      (suits : plan.Suits site.agent order) (idle : order.volume.id ∉ f.world.inFlight) :
      Step site f
        { world := { f.world with
            host := host, told := told, inFlight := order.volume.id :: f.world.inFlight }
          calls := f.calls ++ [⟨order, some plan, .waiting (.attaching plan)⟩]
          log := f.log }
  | asked (n : Nat) (c : Call ε) (s : Suspension) (call : CloudCall)
      (here : f.calls[n]? = some c) (waits : c.phase = .waiting s)
      (asks : s.question? = some call) :
      Step site f
        { world := (site.ask f.world call).2
          calls := f.calls.set n (c.inPhase (.answered s (site.ask f.world call).1))
          log := .exchanged n ⟨call, (site.ask f.world call).1⟩ :: f.log }
  /-- An attach whose volume is held goes on and waits again. -/
  | wentOn (n : Nat) (c : Call ε) (s later : Suspension) (host : σ) (told : List Diagnostic)
      (here : f.calls[n]? = some c) (runs : c.phase.suspension? = some s)
      (held : c.phase.isHeld = true) (same : later.plan = s.plan)
      (accepted : later.isAccepted = true) :
      Step site f
        { world := { f.world with host := host, told := told }
          calls := f.calls.set n (c.inPhase (.waiting later))
          log := f.log }
  /-- An attach goes on and ends; it ends well only if its volume is held. -/
  | finished (n : Nat) (c : Call ε) (s : Suspension) (outcome : Outcome ε) (host : σ)
      (told : List Diagnostic) (here : f.calls[n]? = some c)
      (runs : c.phase.suspension? = some s)
      (well : ∀ result, outcome = .ok result → c.phase.isHeld = true ∧
        result = ⟨s.plan.volume.attached s.plan.compute, s.plan.expected⟩)
      (other : ∀ id, outcome ≠ .error (.alreadyInFlight id)) :
      Step site f
        { world := { f.world with
            host := host, told := told, inFlight := f.world.inFlight.erase s.volumeId }
          calls := f.calls.set n (c.inPhase (.ended outcome))
          log := .ended n outcome :: f.log }
  | dropped (n : Nat) (c : Call ε) (s : Suspension) (here : f.calls[n]? = some c)
      (runs : c.phase.suspension? = some s) :
      Step site f
        { world := f.world.drop s
          calls := f.calls.set n (c.inPhase .dropped)
          log := f.log }
  | passed (clock : Nat) : Step site f { f with world := { f.world with clock := clock } }

variable {site : Site σ κ ε ν} {f g : Fleet σ κ ε}

/-- To start an attach is to reject it or to set it out. -/
theorem start_step (order : Order) : site.Step f (f.join order (site.begin order f.world)) := by
  cases h : site.begin order f.world with
  | mk status next =>
      rcases begin_cases h with
        ⟨failure, rfl, keeps⟩ | ⟨plan, rfl, suits, -, idle, registers⟩
      · rw [keeps]
        exact .rejected order failure next.host next.told
      · rw [registers]
        exact .setOut order plan next.host next.told suits idle

variable [ToString ε]

/-- To go on is to wait again or to finish. -/
theorem goOn_step {n : Nat} {c : Call ε} {s : Suspension} {answer : Except ε Unit}
    (here : f.calls[n]? = some c) (runs : c.phase.suspension? = some s)
    (held : s.isHeldAfter answer = c.phase.isHeld) :
    site.Step f (site.goOn f n c s answer) := by
  unfold goOn
  cases h : site.hear s answer f.world with
  | mk status next =>
      rcases hear_cases h with
        ⟨later, rfl, same, accepted, isHeld, keeps⟩ | ⟨outcome, rfl, well, other, releases⟩
      · rw [keeps]
        exact .wentOn n c s later next.host next.told here runs (held ▸ isHeld) same accepted
      · rw [releases]
        exact .finished n c s outcome next.host next.told here runs (held ▸ well) other

/-- An act does nothing but what a step can do. -/
theorem act_step {a : Act} (h : site.act a f = some g) : site.Step f g := by
  cases a with
  | start order =>
      cases h
      exact start_step order
  | ask n =>
      obtain ⟨c, here, h⟩ := Option.bind_eq_some_iff.mp h
      cases hphase : c.phase with
      | waiting s =>
          simp only [hphase] at h
          obtain ⟨call, asks, h⟩ := Option.bind_eq_some_iff.mp h
          cases h
          exact .asked n c s call here hphase asks
      | _ => simp [hphase] at h
  | hear n =>
      obtain ⟨c, here, h⟩ := Option.bind_eq_some_iff.mp h
      cases hphase : c.phase with
      | answered s answer =>
          simp only [hphase] at h
          cases h
          exact goOn_step here (by rw [hphase]; rfl) (by rw [hphase]; rfl)
      | _ => simp [hphase] at h
  | wake n =>
      obtain ⟨c, here, h⟩ := Option.bind_eq_some_iff.mp h
      cases hphase : c.phase with
      | waiting s =>
          simp only [hphase] at h
          split at h
          · rename_i free
            cases h
            refine goOn_step here (by rw [hphase]; rfl) ?_
            -- Only a watch waits without a question.
            cases s with
            | watching plan watch wake => rw [hphase]; rfl
            | _ => cases free.1
          · cases h
      | _ => simp [hphase] at h
  | drop n =>
      obtain ⟨c, here, h⟩ := Option.bind_eq_some_iff.mp h
      obtain ⟨s, runs, h⟩ := Option.bind_eq_some_iff.mp h
      cases h
      exact .dropped n c s here runs
  | pass instant =>
      cases h
      exact .passed (max f.world.clock instant)

/-- A run goes on where another one ended. -/
theorem follow_append {earlier later : List Act} :
    site.follow (earlier ++ later) f = (site.follow earlier f).bind (site.follow later) := by
  induction earlier generalizing f with
  | nil => rfl
  | cons a rest ih =>
      simp only [List.cons_append, follow, Option.bind_assoc]
      exact congrArg _ (funext fun _ => ih)

/-- What every step preserves holds at the end of a run if it holds at its start. -/
theorem follow_induction {P : Fleet σ κ ε → Prop} {acts : List Act}
    (step : ∀ f g, P f → site.Step f g → P g) (start : P f)
    (h : site.follow acts f = some g) : P g := by
  induction acts generalizing f with
  | nil =>
      cases h
      exact start
  | cons a rest ih =>
      obtain ⟨next, first, h⟩ := Option.bind_eq_some_iff.mp h
      exact ih (step f next start (act_step first)) h

end Site

/-! ### What becomes of one attach -/

/-- The members of a list with one more behind them. -/
theorem getElem?_concat_eq_some_iff {α : Type} {l : List α} {a b : α} {n : Nat} :
    (l ++ [a])[n]? = some b ↔ l[n]? = some b ∨ n = l.length ∧ b = a := by
  rw [List.getElem?_append]
  split
  · rename_i inside
    simp [Nat.ne_of_lt inside]
  · rename_i outside
    rw [List.getElem?_eq_none (Nat.le_of_not_lt outside), List.getElem?_singleton]
    have same : n - l.length = 0 ↔ n = l.length := by omega
    simp [same, eq_comm]

/-- The members of a list of which one was replaced. -/
theorem getElem?_set_eq_some_iff {α : Type} {l : List α} {old a b : α} {k n : Nat}
    (here : l[k]? = some old) :
    (l.set k a)[n]? = some b ↔ n = k ∧ b = a ∨ n ≠ k ∧ l[n]? = some b := by
  obtain ⟨inside, -⟩ := List.getElem?_eq_some_iff.mp here
  rw [List.getElem?_set]
  by_cases same : k = n
  · subst same
    simp [inside, eq_comm]
  · simp [same, Ne.symm same]

namespace Call

variable {ε : Type} {c d e : Call ε}

/-- What an attach may become: only a running one changes, it keeps its order and its
plan, and it does not end as one whose volume is busy. -/
def Advances (c d : Call ε) : Prop :=
  d = c ∨ c.isRunning = true ∧ ∃ phase,
    (∀ id, phase ≠ .ended (.error (.alreadyInFlight id))) ∧ d = c.inPhase phase

theorem Advances.trans (first : c.Advances d) (second : d.Advances e) : c.Advances e := by
  rcases first with rfl | ⟨runs, phase, other, rfl⟩
  · exact second
  · rcases second with rfl | ⟨-, later, other, rfl⟩
    · exact .inr ⟨runs, phase, other, rfl⟩
    · exact .inr ⟨runs, later, other, rfl⟩

end Call

namespace Site

variable {σ κ ε ν : Type} [DeviceNaming ν] {site : Site σ κ ε ν} {f g : Fleet σ κ ε} {n : Nat}
  {c : Call ε}

/-- A step lets every attach advance. -/
theorem Step.advances (step : site.Step f g) (here : f.calls[n]? = some c) :
    ∃ d, g.calls[n]? = some d ∧ c.Advances d := by
  have joined : ∀ new, ∃ d, (f.calls ++ [new])[n]? = some d ∧ c.Advances d := fun new =>
    ⟨c, getElem?_concat_eq_some_iff.mpr (.inl here), .inl rfl⟩
  have moved : ∀ {k old s phase}, f.calls[k]? = some old → old.phase.suspension? = some s →
      (∀ id, phase ≠ .ended (.error (.alreadyInFlight id))) →
      ∃ d, (f.calls.set k (old.inPhase phase))[n]? = some d ∧ c.Advances d := by
    intro k old s phase there runs other
    by_cases same : n = k
    · subst same
      obtain rfl := Option.some.inj (here.symm.trans there)
      refine ⟨_, (getElem?_set_eq_some_iff here).mpr (.inl ⟨rfl, rfl⟩),
        .inr ⟨?_, phase, other, rfl⟩⟩
      rw [Call.isRunning, runs]
      rfl
    · exact ⟨c, (getElem?_set_eq_some_iff there).mpr (.inr ⟨same, here⟩), .inl rfl⟩
  cases step with
  | rejected => exact joined _
  | setOut => exact joined _
  | asked k old s call there waits =>
      exact moved there (s := s) (by rw [waits]; rfl) nofun
  | wentOn k old s later host told there runs => exact moved there runs nofun
  | finished k old s outcome host told there runs well other =>
      exact moved there runs fun id busy => other id (Phase.ended.inj busy)
  | dropped k old s there runs => exact moved there runs nofun
  | passed => exact ⟨c, here, .inl rfl⟩

/-- So does a run. -/
theorem follow_advances [ToString ε] {acts : List Act} (h : site.follow acts f = some g)
    (here : f.calls[n]? = some c) : ∃ d, g.calls[n]? = some d ∧ c.Advances d := by
  refine follow_induction (P := fun f => ∃ d, f.calls[n]? = some d ∧ c.Advances d) ?_
    ⟨c, here, .inl rfl⟩ h
  rintro f g ⟨d, there, sofar⟩ step
  obtain ⟨e, later, further⟩ := step.advances there
  exact ⟨e, later, sofar.trans further⟩

end Site

/-! ### What is known of every attach -/

/-- The volume that a call is about. -/
def CloudCall.volumeId : CloudCall → String
  | .attach volume _ _ => volume
  | .detach volume => volume

/-- An attach asks about the volume of its plan only. -/
theorem Suspension.volumeId_of_question {s : Suspension} {call : CloudCall}
    (h : s.question? = some call) : call.volumeId = s.volumeId := by
  cases s with
  | attaching plan => cases h; rfl
  | watching => cases h
  | detaching plan discovered => cases h; rfl

/-- An attach keeps to one plan that suits its order, and ends well with what the plan
expects or not at all. -/
structure Call.Coherent {ε ν : Type} [DeviceNaming ν] (a : Agent ν) (c : Call ε) : Prop where
  suits : ∀ plan, c.plan? = some plan → plan.Suits a c.order
  running : ∀ s, c.phase.suspension? = some s → c.plan? = some s.plan
  well : ∀ result, c.phase = .ended (.ok result) → ∃ plan, c.plan? = some plan ∧
    result = ⟨plan.volume.attached plan.compute, plan.expected⟩

namespace Call.Coherent

variable {ε ν : Type} [DeviceNaming ν] {a : Agent ν} {c : Call ε} {s : Suspension}

/-- A running attach waits in a place that belongs to its volume. -/
theorem volumeId_eq (coherent : c.Coherent a) (runs : c.phase.suspension? = some s) :
    s.volumeId = c.volumeId := by
  have suits := coherent.suits s.plan (coherent.running s runs)
  rw [Suspension.volumeId, suits.volume]
  rfl

/-- What a running attach may become is coherent again. -/
theorem inPhase (coherent : c.Coherent a) (runs : c.phase.suspension? = some s)
    {phase : Phase ε} (goes : ∀ later, phase.suspension? = some later → later.plan = s.plan)
    (ends : ∀ result, phase = .ended (.ok result) →
      result = ⟨s.plan.volume.attached s.plan.compute, s.plan.expected⟩) :
    (c.inPhase phase).Coherent a where
  suits := coherent.suits
  running later hlater := by
    rw [goes later hlater]
    exact coherent.running s runs
  well result hresult := ⟨s.plan, coherent.running s runs, ends result hresult⟩

end Call.Coherent

/-- All attaches of a fleet are coherent, and the cloud is asked by those only that set
out, each about its own volume. -/
structure Fleet.Coherent {σ κ ε ν : Type} [DeviceNaming ν] (a : Agent ν) (f : Fleet σ κ ε) :
    Prop where
  calls : ∀ (n : Nat) (c : Call ε), f.calls[n]? = some c → c.Coherent a
  exchanges : ∀ n exchange, (n, exchange) ∈ f.exchanges → ∃ c, f.calls[n]? = some c ∧
    c.plan?.isSome = true ∧ exchange.call.volumeId = c.volumeId

namespace Site

variable {σ κ ε ν : Type} [DeviceNaming ν] {site : Site σ κ ε ν} {f g : Fleet σ κ ε}

theorem Step.coherent_calls (step : site.Step f g) (coherent : f.Coherent site.agent) (n : Nat)
    (c : Call ε) (here : g.calls[n]? = some c) : c.Coherent site.agent := by
  have moved : ∀ {k old phase}, f.calls[k]? = some old →
      (old.inPhase phase).Coherent site.agent →
      (f.calls.set k (old.inPhase phase))[n]? = some c → c.Coherent site.agent := by
    intro k old phase there good here
    rcases (getElem?_set_eq_some_iff there).mp here with ⟨-, rfl⟩ | ⟨-, here⟩
    · exact good
    · exact coherent.calls n c here
  cases step with
  | rejected order failure =>
      rcases getElem?_concat_eq_some_iff.mp here with here | ⟨-, rfl⟩
      · exact coherent.calls n c here
      · exact ⟨nofun, nofun, nofun⟩
  | setOut order plan host told suits =>
      rcases getElem?_concat_eq_some_iff.mp here with here | ⟨-, rfl⟩
      · exact coherent.calls n c here
      · refine ⟨?_, ?_, nofun⟩
        · rintro _ ⟨⟩
          exact suits
        · rintro _ ⟨⟩
          rfl
  | asked k old s call there waits asks =>
      have runs : old.phase.suspension? = some s := by rw [waits]; rfl
      refine moved there ((coherent.calls k old there).inPhase runs ?_ ?_) here
      · rintro _ ⟨rfl⟩
        rfl
      · rintro _ ⟨⟩
  | wentOn k old s later host told there runs held same =>
      refine moved there ((coherent.calls k old there).inPhase runs ?_ ?_) here
      · rintro _ ⟨rfl⟩
        exact same
      · rintro _ ⟨⟩
  | finished k old s outcome host told there runs well =>
      refine moved there ((coherent.calls k old there).inPhase runs ?_ ?_) here
      · rintro _ ⟨⟩
      · intro result ends
        exact (well result (Phase.ended.inj ends)).2
  | dropped k old s there runs =>
      refine moved there ((coherent.calls k old there).inPhase runs ?_ ?_) here
      · rintro _ ⟨⟩
      · rintro _ ⟨⟩
  | passed => exact coherent.calls n c here

/-- The cloud is asked by one running attach at a time, about its volume. -/
theorem Step.exchanges_cases (step : site.Step f g) :
    g.exchanges = f.exchanges ∨
      ∃ n c s exchange, f.calls[n]? = some c ∧ c.phase.suspension? = some s ∧
        exchange.call.volumeId = s.volumeId ∧ g.exchanges = (n, exchange) :: f.exchanges := by
  cases step with
  | asked n c s call here waits asks =>
      exact .inr ⟨n, c, s, _, here, by rw [waits]; rfl, Suspension.volumeId_of_question asks, rfl⟩
  | _ => exact .inl rfl

theorem Step.coherent_exchanges (step : site.Step f g) (coherent : f.Coherent site.agent) (n : Nat)
    (exchange : Exchange ε) (inside : (n, exchange) ∈ g.exchanges) :
    ∃ c, g.calls[n]? = some c ∧ c.plan?.isSome = true ∧
      exchange.call.volumeId = c.volumeId := by
  have before : ∃ c, f.calls[n]? = some c ∧ c.plan?.isSome = true ∧
      exchange.call.volumeId = c.volumeId := by
    rcases step.exchanges_cases with same | ⟨k, c, s, latest, here, runs, about, more⟩
    · exact coherent.exchanges n exchange (same ▸ inside)
    · rw [more] at inside
      rcases List.mem_cons.mp inside with now | inside
      · obtain ⟨rfl, rfl⟩ := Prod.mk.inj now
        have good := coherent.calls n c here
        exact ⟨c, here, by rw [good.running s runs]; rfl, about.trans (good.volumeId_eq runs)⟩
      · exact coherent.exchanges n exchange inside
  obtain ⟨c, here, planned, about⟩ := before
  obtain ⟨d, there, rfl | ⟨-, phase, -, rfl⟩⟩ := step.advances here
  · exact ⟨d, there, planned, about⟩
  · exact ⟨_, there, planned, about⟩

theorem Step.coherent (step : site.Step f g) (coherent : f.Coherent site.agent) :
    g.Coherent site.agent :=
  ⟨step.coherent_calls coherent, step.coherent_exchanges coherent⟩

end Site

/-- In a fresh fleet there is nothing to say. -/
theorem Fleet.Coherent.fresh {σ κ ε ν : Type} [DeviceNaming ν] {a : Agent ν} {clock : Nat}
    {host : σ} {cloud : κ} :
    (Fleet.fresh (ε := ε) clock host cloud).Coherent a :=
  ⟨by simp [Fleet.fresh], by simp [Fleet.fresh, Fleet.exchanges]⟩

/-- However its attaches go on, a coherent fleet stays so. -/
theorem Fleet.Coherent.follow {σ κ ε ν : Type} [DeviceNaming ν] [ToString ε] {site : Site σ κ ε ν}
    {f g : Fleet σ κ ε} {acts : List Act} (coherent : f.Coherent site.agent)
    (h : site.follow acts f = some g) : g.Coherent site.agent :=
  Site.follow_induction (fun _ _ coherent step => step.coherent coherent) coherent h

end VolumeAttach
