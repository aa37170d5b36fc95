/-
Module: VolumeAttach.Proofs.StageWalk
Purpose: The stages that an attach goes through, as they are told.
Main exports: Stage.Walk, Outcome.finalStage, Site.hear_walk, Site.complete_walk,
  Site.run_stages
-/
import VolumeAttach.Proofs.Endings

namespace VolumeAttach

/-!
The edges between stages, the stages that an attach tells of and the stage in which an
error says that it stopped are three tables.  They agree: what is told of an attach is a
walk along the edges from the first stage to the one that its end names.
-/

/-! ### Walks along the edges -/

/-- A sequence of stage changes along the edges, each of which begins where the one before
it ended, all told of one volume. -/
inductive Stage.Walk (volume : String) : Stage → List (String × Stage × Stage) → Stage → Prop
  | stay {s : Stage} : Walk volume s [] s
  | step {s t last : Stage} {changes : List (String × Stage × Stage)}
      (edge : s.canAdvance t = true) (rest : Walk volume t changes last) :
      Walk volume s ((volume, s, t) :: changes) last

namespace Stage.Walk

variable {volume : String} {s t last : Stage} {changes more : List (String × Stage × Stage)}

theorem trans (first : Walk volume s changes t) (second : Walk volume t more last) :
    Walk volume s (changes ++ more) last := by
  induction first with
  | stay => exact second
  | step edge rest ih => exact .step edge (ih second)

/-- No edge leads back to the first stage. -/
theorem eq_nil_of_idle (walk : Walk volume s changes .idle) : changes = [] := by
  generalize target : Stage.idle = last at walk
  induction walk with
  | stay => rfl
  | @step s t last changes edge rest ih =>
      -- What follows the change cannot move, so the change itself would lead back.
      have stays := ih target
      subst stays
      cases rest
      subst target
      cases s <;> cases edge

theorem eq_nil_of_terminal (walk : Walk volume s changes last) (terminal : s.isTerminal = true) :
    changes = [] := by
  cases walk with
  | stay => rfl
  | @step _ t _ _ edge rest =>
      rw [(Stage.isTerminal_iff s).mp terminal t] at edge
      cases edge

/-- A terminal stage is reached once, by the last of the changes. -/
theorem count_terminal (walk : Walk volume s changes last) (terminal : last.isTerminal = true)
    (away : s ≠ last) : (changes.map fun change => change.2.2).count last = 1 := by
  induction walk with
  | stay => exact absurd rfl away
  | @step s t last changes edge rest ih =>
      rw [List.map_cons]
      by_cases there : t = last
      · subst there
        rw [rest.eq_nil_of_terminal terminal]
        simp
      · rw [List.count_cons_of_ne there]
        exact ih terminal there

end Stage.Walk

/-! ### A watch tells of no stage -/

@[simp] theorem Journal.transitions_transition (volume : String) (s t : Stage) (j : Journal) :
    Journal.transitions (.transition volume s t :: j) =
      (volume, s, t) :: Journal.transitions j := rfl

@[simp] theorem Watch.transitions_turn {σ : Type} (host : Host σ) (w : Watch) (now : Nat)
    (s : σ) : Journal.transitions (w.turn host now s).diagnostics = [] := by
  rw [Journal.transitions, List.filterMap_eq_nil_iff]
  intro d told
  have watch := tellsWatch_of_mem_turn told
  cases d <;> first | rfl | cases watch

/-! ### The stages of an attach -/

/-- The stage in which an attach that ended stopped. -/
def Outcome.finalStage {ε : Type} : Outcome ε → Stage
  | .ok _ => .attached
  | .error failure => failure.finalStage

/-- The stage in which an attach stands. -/
def Status.stage {ε : Type} : Status ε → Stage
  | .running s => s.stage
  | .ended outcome => outcome.finalStage

/-- An attach that left its first stage ends in a terminal one. -/
theorem Outcome.isTerminal_finalStage {ε : Type} {outcome : Outcome ε}
    (left : outcome.finalStage ≠ .idle) : outcome.finalStage.isTerminal = true := by
  cases outcome with
  | ok result => rfl
  | error failure =>
      cases failure with
      | neverAppeared => rfl
      | unexpectedDevice => rfl
      | rollbackFailed => rfl
      | cloud => rfl
      | _ => exact absurd rfl left

/-! ### One stretch

Each stretch tells of a walk from the stage in which the attach waited to the one in which
it waits next or has ended. -/

namespace Agent

variable {σ ε ν : Type} [DeviceNaming ν]

theorem begin_walk (a : Agent ν) (host : Host σ) (busy : Bool) (order : Order) (s : σ) :
    Stage.Walk order.volume.id .idle
      (Journal.transitions (a.begin (ε := ε) host busy order s).diagnostics)
      (a.begin (ε := ε) host busy order s).status.stage := by
  rcases a.begin_inv (ε := ε) host busy order s with
    ⟨failure, told, stops, idle, silent⟩ | ⟨plan, told, setsOut, -, -, -, -, first⟩
  · rw [stops, silent]
    simp only [Status.stage, Outcome.finalStage, idle]
    exact .stay
  · rw [setsOut, first]
    exact .step rfl .stay

theorem conclude_walk (a : Agent ν) (plan : Plan) (finding : Finding) :
    Stage.Walk plan.volume.id .awaitingDevice
      (Journal.transitions (a.conclude (ε := ε) plan finding).diagnostics)
      (a.conclude (ε := ε) plan finding).value.stage := by
  unfold conclude
  cases finding with
  | found name =>
      by_cases same : (DeviceNaming.root a.naming).under name ≈ plan.expected
      · simp only [decide_eq_true same, if_true]
        exact .step rfl (.step rfl .stay)
      · simp only [decide_eq_false same, Bool.false_eq_true, if_false]
        exact .step rfl .stay
  | ambiguous names => exact .step rfl .stay
  | notFound => exact .step rfl .stay

theorem afterWatch_walk (a : Agent ν) (host : Host σ) (plan : Plan) (watch : Watch) (now : Nat)
    (s : σ) :
    Stage.Walk plan.volume.id .awaitingDevice
      (Journal.transitions (a.afterWatch (ε := ε) plan (watch.turn host now s)).diagnostics)
      (a.afterWatch (ε := ε) plan (watch.turn host now s)).status.stage := by
  unfold afterWatch
  cases (watch.turn host now s).next with
  | asleep later wake =>
      simp only [Watch.transitions_turn]
      exact .stay
  | ended finding =>
      simp only [Journal.transitions_append, Watch.transitions_turn, List.nil_append]
      exact a.conclude_walk plan finding

theorem attachAnswered_walk (a : Agent ν) (host : Host σ) (plan : Plan) (now : Nat)
    (answer : Except ε Unit) (s : σ) :
    Stage.Walk plan.volume.id .attaching
      (Journal.transitions (a.attachAnswered host plan now answer s).diagnostics)
      (a.attachAnswered host plan now answer s).status.stage := by
  cases answer with
  | error cause => exact .step rfl .stay
  | ok => exact .step rfl (a.afterWatch_walk host plan _ now s)

theorem detachAnswered_walk [ToString ε] (plan : Plan) (discovered : Option DevicePath)
    (answer : Except ε Unit) :
    Stage.Walk plan.volume.id .verifying
      (Journal.transitions (detachAnswered plan discovered answer).diagnostics)
      (detachAnswered plan discovered answer).value.stage := by
  cases answer with
  | error cause => exact .step rfl .stay
  | ok => exact .step rfl .stay

end Agent

namespace Site

variable {σ κ ε ν : Type} [DeviceNaming ν] [ToString ε] {site : Site σ κ ε ν} {order : Order}
  {w next final : World σ κ ε} {s : Suspension} {status : Status ε} {outcome : Outcome ε}

/-- Whatever the answer and the world are, to go on is to tell of a walk. -/
theorem hear_walk {answer : Except ε Unit} (h : site.hear s answer w = (status, next)) :
    ∃ told, next.journal = w.journal ++ told ∧
      Stage.Walk s.volumeId s.stage (Journal.transitions told) status.stage := by
  cases s with
  | attaching plan =>
      cases h
      exact ⟨_, (World.grows_stretch site.cloud w w.clock _ _ _ _).journal,
        site.agent.attachAnswered_walk site.host plan w.clock answer w.host⟩
  | watching plan watch wake =>
      cases h
      exact ⟨_, (World.grows_stretch site.cloud w w.clock _ _ _ _).journal,
        site.agent.afterWatch_walk site.host plan watch w.clock w.host⟩
  | detaching plan discovered =>
      cases h
      exact ⟨_, (World.grows_stretch site.cloud w w.clock w.host _ _ _).journal,
        Agent.detachAnswered_walk plan discovered answer⟩

/-- To put a question tells nothing. -/
theorem resume_walk (site : Site σ κ ε ν) (s : Suspension) (w : World σ κ ε) :
    (∃ told, (site.resume s w).2.journal = w.journal ++ told ∧
      Stage.Walk s.volumeId s.stage (Journal.transitions told) (site.resume s w).1.stage) ∧
    ∀ later, (site.resume s w).1 = .running later → later.volumeId = s.volumeId := by
  obtain ⟨status, next, resumes⟩ : ∃ status next, site.resume s w = (status, next) :=
    ⟨_, _, rfl⟩
  obtain ⟨answer, asked, heard, kept, -⟩ := resume_inv resumes
  rw [resumes, ← kept]
  refine ⟨hear_walk heard, ?_⟩
  intro later waits
  rcases hear_cases heard with ⟨_, goesOn, same, -⟩ | ⟨_, ends, -⟩
  · rw [goesOn] at waits
    cases waits
    rw [Suspension.volumeId, same]
    rfl
  · rw [ends] at waits
    cases waits

/-! ### The whole attach -/

/-- An attach that is carried to its end tells of a walk to the stage that its end names. -/
theorem complete_walk {stretches : Nat} {volume : String}
    (same : ∀ s, status = .running s → s.volumeId = volume)
    (h : site.complete stretches status w = some (outcome, final)) :
    ∃ told, final.journal = w.journal ++ told ∧
      Stage.Walk volume status.stage (Journal.transitions told) outcome.finalStage := by
  fun_induction site.complete stretches status w with
  | case1 stretches ended w =>
      cases h
      exact ⟨[], (List.append_nil _).symm, .stay⟩
  | case2 w s => cases h
  | case3 stretches s w next ih =>
      obtain ⟨⟨first, journal, walk⟩, kept⟩ := resume_walk site s (w.passUntil s.wake)
      change next.2.journal = w.journal ++ first at journal
      rw [same s rfl] at walk kept
      obtain ⟨rest, journal', walk'⟩ := ih kept h
      refine ⟨first ++ rest, ?_, ?_⟩
      · rw [journal', journal, List.append_assoc]
      · rw [Journal.transitions_append]
        exact walk.trans walk'

/-- The stage changes that are told of an attach are a walk along the edges from the first
stage to the one that its end names.  If that is the first stage, none is told; otherwise it
is a terminal stage, and it is reached once.  The attach is carried out on its own, by an
ideal clock that counts whole milliseconds. -/
theorem run_stages {answer : Answer ε} (h : site.run order w = some (answer, final)) :
    ∃ told, final.journal = w.journal ++ told ∧
      Stage.Walk order.volume.id .idle (Journal.transitions told) answer.outcome.finalStage ∧
      (answer.outcome.finalStage = .idle → Journal.transitions told = []) ∧
      (answer.outcome.finalStage ≠ .idle → answer.outcome.finalStage.isTerminal = true ∧
        ((Journal.transitions told).map fun change => change.2.2).count
          answer.outcome.finalStage = 1) := by
  obtain ⟨status, begun, hbegin⟩ : ∃ status begun, site.begin order w = (status, begun) :=
    ⟨_, _, rfl⟩
  obtain ⟨opens, -, -, grows⟩ := begin_opening hbegin
  have begins : Stage.Walk order.volume.id .idle
      (Journal.transitions (site.opening order w).diagnostics) status.stage := by
    rw [← opens]
    exact site.agent.begin_walk site.host _ order w.host
  have named : ∀ s, status = .running s → s.volumeId = order.volume.id := by
    intro s waits
    rcases begin_cases hbegin with ⟨failure, stops, -⟩ | ⟨plan, setsOut, suits, -⟩
    · rw [waits] at stops
      cases stops
    · rw [waits] at setsOut
      cases setsOut
      exact congrArg Volume.id suits.volume
  rw [run, hbegin] at h
  obtain ⟨⟨outcome, last⟩, completes, same⟩ := Option.map_eq_some_iff.mp h
  cases same
  obtain ⟨rest, journal, goesOn⟩ := complete_walk named completes
  have walk := begins.trans goesOn
  rw [← Journal.transitions_append] at walk
  refine ⟨_, ?_, walk, ?_, ?_⟩
  · rw [journal, grows.journal, List.append_assoc]
  · intro idle
    rw [idle] at walk
    exact walk.eq_nil_of_idle
  · intro left
    have terminal := Outcome.isTerminal_finalStage left
    exact ⟨terminal, walk.count_terminal terminal (Ne.symm left)⟩

/-- Two devices show themselves, and the cloud refuses to detach the volume. -/
theorem run_stages_of_failed_rollback :
    let host : Host Nat := .ofSights fun k =>
      ⟨.ok (.ofList (if k = 0 then ["sda"] else ["sda", "xvdj", "xvdk"])), fun _ => .ok 7⟩
    let site : Site Nat ScriptedCloud Refusal :=
      ⟨{ settings := ⟨20, 10⟩ }, host, ScriptedCloud.cloud⟩
    let order : Order := ⟨.ofSevenBytes "vol-1", "i-1", .anyFree⟩
    ∃ answer final,
      site.run order { host := 0, cloud := { refusesDetach := true } } = some (answer, final) ∧
      Stage.Walk "vol-1" .idle (Journal.transitions final.journal) .failed := by
  intro host site order
  have ends : (site.run order { host := 0, cloud := { refusesDetach := true } }).map
      (fun r => r.1.outcome) =
      some (.error (.rollbackFailed ⟨"/dev/sdb"⟩ none (.detach "vol-1"))) := by
    decide +kernel
  obtain ⟨⟨answer, final⟩, runs, outcome⟩ := Option.map_eq_some_iff.mp ends
  obtain ⟨told, journal, walk, -⟩ := run_stages runs
  have all : final.journal = told := journal
  rw [outcome, ← all] at walk
  exact ⟨answer, final, runs, walk⟩

end Site
end VolumeAttach
