/-
Module: VolumeAttach.Proofs.AttachJournal
Purpose: What an attach tells of its detach and of its end, and when.
Main exports: Journal.outcomes, Outcome.announced, Suspension.announced, Site.Passes,
  Site.hear_announced, Site.Passes.announced, Site.RollsBack, Site.run_journal
-/
import VolumeAttach.Proofs.Effects
import VolumeAttach.Proofs.WatchJournal

namespace VolumeAttach

/-!
Five diagnostics say how an attach came out; all others tell of the way there.  Four of
them are told at the end.  The warning of a detach is told before the cloud is asked for
it, while the attach still waits for the answer, so that it stands in the journal however
the cloud answers.

Which of the five have been told is therefore a function of where an attach stands.  That
it is the right one holds after the first stretch and is kept by each later one.
-/

/-! ### The diagnostics that say how an attach came out -/

/-- Whether a diagnostic says how an attach came out. -/
def Diagnostic.tellsOutcome : Diagnostic → Bool
  | .alreadyInFlight .. => true
  | .attached .. => true
  | .neverAppeared .. => true
  | .unexpectedDevice .. => true
  | .detachFailed .. => true
  | _ => false

theorem Diagnostic.tellsOutcome_of_tellsWatch {d : Diagnostic} (watch : d.tellsWatch = true) :
    d.tellsOutcome = false := by
  cases d <;> first | rfl | cases watch

/-- How these diagnostics are worded. -/
def outcomeWordings : List String :=
  ["attach already in progress for volume", "volume attached",
    "attached volume never appeared on the host",
    "volume surfaced as an unexpected device; detaching",
    "failed to detach volume after unexpected attachment"]

/-- No other diagnostic is worded like one of them. -/
theorem Diagnostic.message_mem_outcomeWordings (d : Diagnostic) :
    d.message ∈ outcomeWordings ↔ d.tellsOutcome = true := by
  cases d <;> simp [message, tellsOutcome, outcomeWordings]

namespace Journal

/-- The diagnostics that say how an attach came out, in order. -/
def outcomes (j : Journal) : Journal := j.filter Diagnostic.tellsOutcome

@[simp] theorem outcomes_append (first second : Journal) :
    outcomes (first ++ second) = first.outcomes ++ second.outcomes :=
  List.filter_append ..

theorem worded_outcomes (j : Journal) {level : Level} {message : String}
    (wording : message ∈ outcomeWordings) :
    j.outcomes.worded level message = j.worded level message := by
  rw [worded, outcomes, List.filter_filter]
  apply List.filter_congr
  intro d _
  by_cases same : d.message = message
  · subst same
    rw [d.message_mem_outcomeWordings.mp wording, Bool.and_true]
  · simp [same]

end Journal

/-- A watch says nothing of how the attach comes out. -/
@[simp] theorem Watch.outcomes_turn {σ : Type} (host : Host σ) (w : Watch) (now : Nat) (s : σ) :
    Journal.outcomes (w.turn host now s).diagnostics = [] := by
  rw [Journal.outcomes, List.filter_eq_nil_iff]
  intro d told
  rw [Diagnostic.tellsOutcome_of_tellsWatch (tellsWatch_of_mem_turn told)]
  nofun

/-- Whether a call is for a detach. -/
def CloudCall.isDetach : CloudCall → Bool
  | .attach .. => false
  | .detach _ => true

/-- A detach is asked for exactly if the end names what was discovered. -/
theorem Outcome.isDetach_exchanges {ε : Type} (outcome : Outcome ε) (order : Order)
    (slot : DevicePath) :
    (∃ exchange ∈ outcome.exchanges order slot, exchange.call.isDetach = true) ↔
      ∃ discovered, outcome.discovered? = some discovered := by
  cases outcome with
  | ok => simp [exchanges, discovered?, CloudCall.isDetach]
  | error failure => cases failure <;> simp [exchanges, discovered?, CloudCall.isDetach]

/-! ### What has been told by when -/

/-- The diagnostics that say how an attach came out, by the time it waits somewhere. -/
def Suspension.announced : Suspension → Journal
  | .attaching _ => []
  | .watching .. => []
  | .detaching plan discovered =>
      [.unexpectedDevice plan.volume.id plan.requested plan.expected discovered]

/-- The diagnostics that say how an attach came out, once it has ended.  The limit is that
of the settings, and the expected device is the one of the slot. -/
def Outcome.announced {ε : Type} [ToString ε] (order : Order) (limit : Nat)
    (expected : DevicePath) : Outcome ε → Journal
  | .ok result => [.attached order.volume.id order.compute result.device]
  | .error (.neverAppeared volume requested expected) =>
      [.neverAppeared volume requested expected limit]
  | .error (.unexpectedDevice requested discovered) =>
      [.unexpectedDevice order.volume.id requested expected discovered]
  | .error (.rollbackFailed requested discovered cause) =>
      [.unexpectedDevice order.volume.id requested expected discovered,
        .detachFailed order.volume.id requested discovered (toString cause)]
  | .error (.alreadyInFlight volume) => [.alreadyInFlight volume]
  | .error (.invalidName _) => []
  | .error (.slotInUse ..) => []
  | .error (.inventory _) => []
  | .error (.noFreeSlot _) => []
  | .error (.cloud _) => []

/-- Of these diagnostics each ending has its own, and all endings with a detach the warning. -/
theorem Outcome.worded_announced {ε : Type} [ToString ε] (outcome : Outcome ε) (order : Order)
    (limit : Nat) (expected : DevicePath) :
    (outcome.discovered? = none →
      (outcome.announced order limit expected).worded .warn
        "volume surfaced as an unexpected device; detaching" = []) ∧
    (outcome.announced order limit expected).worded .error
        "failed to detach volume after unexpected attachment" =
      (match outcome with
        | .error (.rollbackFailed requested discovered cause) =>
            [.detachFailed order.volume.id requested discovered (toString cause)]
        | _ => []) ∧
    (outcome.announced order limit expected).worded .warn
        "attached volume never appeared on the host" =
      (match outcome with
        | .error (.neverAppeared volume requested expected) =>
            [.neverAppeared volume requested expected limit]
        | _ => []) ∧
    (outcome.announced order limit expected).worded .info "volume attached" =
      (match outcome with
        | .ok result => [.attached order.volume.id order.compute result.device]
        | _ => []) ∧
    (outcome.announced order limit expected).worded .warn
        "attach already in progress for volume" =
      (match outcome with
        | .error (.alreadyInFlight volume) => [.alreadyInFlight volume]
        | _ => []) := by
  cases outcome with
  | ok result => exact ⟨fun _ => rfl, rfl, rfl, rfl, rfl⟩
  | error failure =>
      cases failure with
      | unexpectedDevice => exact ⟨nofun, rfl, rfl, rfl, rfl⟩
      | rollbackFailed => exact ⟨nofun, rfl, rfl, rfl, rfl⟩
      | _ => exact ⟨fun _ => rfl, rfl, rfl, rfl, rfl⟩

/-- The same for an attach that waits or has ended. -/
def Status.announced {ε : Type} [ToString ε] (order : Order) (limit : Nat)
    (expected : DevicePath) : Status ε → Journal
  | .running s => s.announced
  | .ended outcome => outcome.announced order limit expected

namespace Agent

variable {σ ε ν : Type} [DeviceNaming ν] [ToString ε]

theorem setOut_outcomes (a : Agent ν) (busy : Bool) (order : Order) (requested : DevicePath)
    (baseline : NameSet) (s : σ) (expected : DevicePath) :
    let t : Turn σ ε := a.setOut busy order.volume order.compute requested baseline s
    Journal.outcomes t.diagnostics = t.status.announced order a.settings.limit expected := by
  unfold setOut Agent.plan
  cases busy with
  | true => rfl
  | false =>
      cases DeviceNaming.expected a.naming requested with
      | error cause => rfl
      | ok path =>
          simp only [Bool.false_eq_true, if_false]
          cases isListed baseline requested || isListed baseline path <;> rfl

/-- The first stretch tells how an attach came out only if it rejects it. -/
theorem begin_outcomes (a : Agent ν) (host : Host σ) (busy : Bool) (order : Order) (s : σ)
    (expected : DevicePath) :
    Journal.outcomes (a.begin (ε := ε) host busy order s).diagnostics =
      (a.begin (ε := ε) host busy order s).status.announced order a.settings.limit expected := by
  obtain ⟨volume, compute, place⟩ := order
  cases place with
  | slot requested baseline =>
      exact a.setOut_outcomes busy ⟨volume, compute, .slot requested baseline⟩ requested baseline
        s expected
  | anyFree =>
      simp only [Agent.begin]
      cases (host.look s).1.listing with
      | error cause => rfl
      | ok names =>
          simp only [DeviceNaming.selectFreeReported]
          cases DeviceNaming.selectFree a.naming names with
          | error cause => rfl
          | ok slot =>
              exact a.setOut_outcomes busy ⟨volume, compute, .anyFree⟩ slot names _ expected

variable {order : Order} {plan : Plan}

/-- The judgement tells how an attach came out, or warns of the detach. -/
theorem conclude_outcomes (a : Agent ν) (suits : plan.Suits a order) (finding : Finding) :
    Journal.outcomes (a.conclude (ε := ε) plan finding).diagnostics =
      (a.conclude (ε := ε) plan finding).value.announced order a.settings.limit
        plan.expected := by
  unfold conclude
  cases finding with
  | found name =>
      by_cases same : (DeviceNaming.root a.naming).under name ≈ plan.expected
      · simp only [decide_eq_true same, if_true, suits.volume, suits.compute]
        rfl
      · simp only [decide_eq_false same, Bool.false_eq_true, if_false]
        rfl
  | ambiguous names => rfl
  | notFound => rfl

theorem afterWatch_outcomes (a : Agent ν) (suits : plan.Suits a order) (host : Host σ)
    (watch : Watch) (now : Nat) (s : σ) :
    let t : Turn σ ε := a.afterWatch plan (watch.turn host now s)
    Journal.outcomes t.diagnostics =
      t.status.announced order a.settings.limit plan.expected := by
  unfold afterWatch
  cases (watch.turn host now s).next with
  | asleep later wake => simp [Status.announced, Suspension.announced]
  | ended finding => simp [a.conclude_outcomes suits finding]

/-- Only the answer to the detach adds to what has been told. -/
theorem detachAnswered_outcomes (a : Agent ν) (suits : plan.Suits a order)
    (discovered : Option DevicePath) (answer : Except ε Unit) :
    (Suspension.detaching plan discovered).announced ++
        Journal.outcomes (detachAnswered plan discovered answer).diagnostics =
      (detachAnswered plan discovered answer).value.announced order a.settings.limit
        plan.expected := by
  cases answer <;>
  · simp only [Suspension.announced, detachAnswered, suits.volume]
    rfl

end Agent

namespace Site

variable {σ κ ε ν : Type} [DeviceNaming ν] [ToString ε] {site : Site σ κ ε ν} {order : Order}
  {w v next final : World σ κ ε} {s : Suspension} {status : Status ε} {outcome : Outcome ε}

/-- Whatever the answer and the world are, an attach that goes on tells what is missing
between what it had told and what it has to have told. -/
theorem hear_announced {answer : Except ε Unit} (suits : s.plan.Suits site.agent order)
    (h : site.hear s answer v = (status, next)) :
    ∃ told, next.journal = v.journal ++ told ∧ s.announced ++ Journal.outcomes told =
      status.announced order site.agent.settings.limit s.plan.expected := by
  cases s with
  | attaching plan =>
      cases h
      refine ⟨_, (World.grows_stretch site.cloud v v.clock _ _ _ _).journal, ?_⟩
      cases answer with
      | error cause => rfl
      | ok => exact site.agent.afterWatch_outcomes suits site.host _ v.clock v.host
  | watching plan watch wake =>
      cases h
      exact ⟨_, (World.grows_stretch site.cloud v v.clock _ _ _ _).journal,
        site.agent.afterWatch_outcomes suits site.host watch v.clock v.host⟩
  | detaching plan discovered =>
      cases h
      exact ⟨_, (World.grows_stretch site.cloud v v.clock v.host _ _ _).journal,
        site.agent.detachAnswered_outcomes suits discovered answer⟩

/-! ### The course of an attach -/

/-- An attach comes to stand somewhere, waiting or ended, while nothing else is running. -/
inductive Passes (site : Site σ κ ε ν) (order : Order) (w : World σ κ ε) :
    Status ε → World σ κ ε → Prop
  | begun {status : Status ε} {v : World σ κ ε} (begins : site.begin order w = (status, v)) :
      Passes site order w status v
  | resumed {s : Suspension} {v next : World σ κ ε} {status : Status ε}
      (before : Passes site order w (.running s) v)
      (goesOn : site.resume s (v.passUntil s.wake) = (status, next)) :
      Passes site order w status next

/-- An attach that is carried to its end passes through it. -/
theorem Passes.complete {stretches : Nat} (passes : site.Passes order w status v)
    (h : site.complete stretches status v = some (outcome, final)) :
    site.Passes order w (.ended outcome) final := by
  fun_induction site.complete stretches status v with
  | case1 stretches ended v =>
      cases h
      exact passes
  | case2 v s => cases h
  | case3 stretches s v next ih => exact ih (passes.resumed rfl) h

theorem passes_of_run {answer : Answer ε} (h : site.run order w = some (answer, final)) :
    site.Passes order w (.ended answer.outcome) final := by
  rw [run] at h
  obtain ⟨⟨outcome, last⟩, completes, same⟩ := Option.map_eq_some_iff.mp h
  cases same
  exact (Passes.begun rfl).complete completes

/-- Wherever an attach waits, it waits with a plan for what was ordered. -/
theorem Passes.suits (passes : site.Passes order w (.running s) v) :
    s.plan.Suits site.agent order := by
  generalize hstatus : Status.running s = status at passes
  induction passes generalizing s with
  | begun begins =>
      subst hstatus
      rcases begin_cases begins with ⟨failure, ends, -⟩ | ⟨plan, waits, suits, -⟩
      · cases ends
      · cases waits
        exact suits
  | resumed before goesOn ih =>
      subst hstatus
      obtain ⟨answer, asked, heard, -⟩ := resume_inv goesOn
      rcases hear_cases heard with ⟨later, waits, same, -⟩ | ⟨outcome, ends, -⟩
      · cases waits
        rw [same]
        exact ih rfl
      · cases ends

/-- Wherever an attach stands, it has told what it has to have told by then, and no more. -/
theorem Passes.announced (passes : site.Passes order w status v) :
    ∃ told expected, v.journal = w.journal ++ told ∧
      Journal.outcomes told = status.announced order site.agent.settings.limit expected := by
  induction passes with
  | @begun status v begins =>
      obtain ⟨opens, -, -, grows⟩ := begin_opening begins
      refine ⟨_, default, grows.journal, ?_⟩
      rw [← opens]
      exact site.agent.begin_outcomes site.host _ order w.host default
  | @resumed s v next status before goesOn ih =>
      obtain ⟨earlier, expected, journal, told⟩ := ih
      obtain ⟨answer, asked, heard, same, -⟩ := resume_inv goesOn
      obtain ⟨later, journal', adds⟩ := hear_announced before.suits heard
      refine ⟨earlier ++ later, s.plan.expected, ?_, ?_⟩
      · rw [journal', same, ← List.append_assoc, ← journal]
        rfl
      · rw [Journal.outcomes_append, told, ← adds]
        rfl

/-! ### The detach -/

/-- As long as it waits, an attach has not asked for a detach. -/
theorem Passes.not_detached (passes : site.Passes order w (.running s) v) :
    ∃ asked, v.exchanges = List.reverse asked ++ w.exchanges ∧
      ∀ exchange ∈ asked, exchange.call.isDetach = false := by
  generalize hstatus : Status.running s = status at passes
  induction passes generalizing s with
  | begun begins =>
      obtain ⟨-, -, -, grows⟩ := begin_opening begins
      exact ⟨[], grows.exchanges, nofun⟩
  | @resumed waiting v next status before goesOn ih =>
      subst hstatus
      obtain ⟨earlier, exchanges, none⟩ := ih rfl
      obtain ⟨answer, asked, heard, -, asks⟩ := resume_inv goesOn
      change next.exchanges = _ ++ v.exchanges at asks
      rw [exchanges] at asks
      cases waiting with
      | attaching plan =>
          let asked := CloudCall.attach plan.volume.id plan.compute plan.requested
          refine ⟨earlier ++ [⟨asked, answer⟩], ?_, ?_⟩
          · rw [asks, List.reverse_append]
            rfl
          · intro exchange inside
            rcases List.mem_append.mp inside with before | last
            · exact none exchange before
            · rw [List.mem_singleton.mp last]
              rfl
      | watching plan watch wake => exact ⟨earlier, asks, none⟩
      | detaching plan discovered =>
          -- The answer to the detach is the end.
          cases answer <;> cases heard

/-- A watch that ends an attach leaves nothing to detach. -/
theorem discovered?_of_hear_watching {plan : Plan} {watch : Watch} {wake : Nat}
    {answer : Except ε Unit}
    (h : site.hear (.watching plan watch wake) answer v = (.ended outcome, next)) :
    outcome.discovered? = none := by
  have ends : (site.agent.afterWatch plan (watch.turn site.host v.clock v.host)).status =
      .ended outcome := congrArg Prod.fst h
  rcases Agent.afterWatch_cases (ε := ε) site.agent plan (watch.turn site.host v.clock v.host) with
    ⟨later, wake, sleeps⟩ | ⟨finding, judged⟩
  · rw [sleeps] at ends
    cases ends
  · rw [judged] at ends
    rcases Agent.conclude_ended ends with rfl | rfl <;> rfl

/-- An attach whose end names what was discovered has waited for a detach, and the answer
to that was its end. -/
theorem Passes.detaching_of_discovered {discovered : Option DevicePath}
    (passes : site.Passes order w (.ended outcome) final)
    (names : outcome.discovered? = some discovered) :
    ∃ plan asking reply later,
      site.Passes order w (.running (.detaching plan discovered)) asking ∧
      final.exchanges = ⟨.detach plan.volume.id, reply⟩ :: asking.exchanges ∧
      final.journal = asking.journal ++ later ∧
      Journal.worded later .warn "volume surfaced as an unexpected device; detaching" = [] := by
  generalize hstatus : Status.ended outcome = status at passes
  cases passes with
  | begun begins =>
      subst hstatus
      obtain ⟨opens, -⟩ := begin_opening begins
      rcases begin_cases begins with ⟨failure, ends, -⟩ | ⟨plan, waits, -⟩
      · cases ends
        rw [Outcome.discovered?_of_idle (finalStage_of_opening opens)] at names
        cases names
      · cases waits
  | @resumed s v _ _ before goesOn =>
      subst hstatus
      obtain ⟨answer, asked, heard, same, asks⟩ := resume_inv goesOn
      cases s with
      | attaching plan =>
          cases answer with
          | error cause =>
              cases heard
              cases names
          | ok =>
              rw [hear_attaching_ok] at heard
              rw [discovered?_of_hear_watching heard] at names
              cases names
      | watching plan watch wake =>
          rw [discovered?_of_hear_watching heard] at names
          cases names
      | detaching plan found =>
          obtain ⟨later, journal, adds⟩ := hear_announced before.suits heard
          rw [same] at journal
          refine ⟨plan, v, answer, later, ?_, asks, journal, ?_⟩
          · cases answer <;>
            · cases heard
              cases names
              exact before
          · have told := site.agent.detachAnswered_outcomes before.suits found answer
            rw [← Journal.worded_outcomes later (by decide)]
            cases answer <;>
            · cases heard
              rw [List.append_cancel_left (adds.trans told.symm)]
              rfl

/-- What goes with the detach that an attach asks for after its watch. -/
structure RollsBack (site : Site σ κ ε ν) (order : Order) (w final : World σ κ ε)
    (outcome : Outcome ε) (told : Journal) (plan : Plan) (report : Watch.Report σ)
    (discovered : Option DevicePath) : Prop where
  /-- The plan is for what was ordered. -/
  suits : plan.Suits site.agent order
  /-- The end names what was discovered. -/
  named : outcome.discovered? = some discovered
  watched : ∃ baseline turns, order.baseline? (site.host.look w.host).1 = some baseline ∧
    Watch.run site.host turns
      (Watch.start site.agent.settings baseline order.volume.size w.clock) w.clock []
      (order.hostAtStart site.host w.host) = some report
  /-- A single device was discovered, or there were several. -/
  discovers : (∃ name, report.finding = .found name ∧
      discovered = some ((DeviceNaming.root site.agent.naming).under name)) ∨
    (∃ names, report.finding = .ambiguous names ∧ discovered = none)
  /-- The warning is told once. -/
  warned : told.worded .warn "volume surfaced as an unexpected device; detaching" =
    [.unexpectedDevice order.volume.id plan.requested plan.expected discovered]
  /-- It shows what the watch found. -/
  shown : (Diagnostic.unexpectedDevice order.volume.id plan.requested plan.expected
      discovered).fields =
    [("blockdevice_id", order.volume.id), ("requested", plan.requested.text),
      ("expected", plan.expected.text),
      ("discovered", match report.finding with
        | .found name => ((DeviceNaming.root site.agent.naming).under name).text
        | _ => "<ambiguous>")]
  /-- It has been told when the cloud is asked for the detach. -/
  before : ∃ asking earlier later reply,
    site.Passes order w (.running (.detaching plan discovered)) asking ∧
    asking.journal = w.journal ++ earlier ∧ told = earlier ++ later ∧
    Journal.worded earlier .warn "volume surfaced as an unexpected device; detaching" =
      [.unexpectedDevice order.volume.id plan.requested plan.expected discovered] ∧
    final.exchanges = ⟨.detach order.volume.id, reply⟩ :: asking.exchanges

/-- An attach whose end names what was discovered has warned of its detach. -/
theorem rollsBack_of_discovered {answer : Answer ε} {discovered : Option DevicePath}
    (h : site.run order w = some (answer, final))
    (names : answer.outcome.discovered? = some discovered) {told : Journal}
    (journal : final.journal = w.journal ++ told) :
    ∃ plan report, site.RollsBack order w final answer.outcome told plan report discovered := by
  obtain ⟨asked, _, ending, _⟩ := ending_of_run h
  obtain ⟨baseline, report, listed, ends, -, discovers⟩ := ending.watched_of_discovered names
  obtain ⟨turns, watched⟩ := ends.exists_run []
  obtain ⟨plan, asking, reply, later, passes, asks, goesOn, adds⟩ :=
    (passes_of_run h).detaching_of_discovered names
  obtain ⟨earlier, expected, before, outcomes⟩ := passes.announced
  have suits : plan.Suits site.agent order := passes.suits
  have parts : told = earlier ++ later := by
    rw [journal, before, List.append_assoc] at goesOn
    exact List.append_cancel_left goesOn
  let warning := Diagnostic.unexpectedDevice order.volume.id plan.requested plan.expected discovered
  have warns : Journal.worded earlier .warn
      "volume surfaced as an unexpected device; detaching" = [warning] := by
    rw [← Journal.worded_outcomes earlier (by decide), outcomes]
    simp only [Status.announced, Suspension.announced, suits.volume]
    rfl
  refine ⟨plan, report, suits, names, ⟨baseline, turns, listed, watched⟩, discovers, ?_, ?_,
    asking, earlier, later, reply, passes, before, parts, warns, ?_⟩
  · rw [parts, Journal.worded_append, warns, adds]
    rfl
  · rcases discovers with ⟨name, found, rfl⟩ | ⟨several, found, rfl⟩
    · rw [found]
      rfl
    · rw [found]
      rfl
  · rw [asks, suits.volume]

/-- What is told of an attach comes out as it did, each thing once.  The warning of a detach
goes with the detach and comes before it; a detach that fails, a device that never appears,
an attach that ends well and one of a volume that is busy are told of exactly if that is how
the attach ended.  As long as an attach waits, or if it goes on for ever, it has asked for no
detach and told nothing of this, except for the warning when it waits for the detach.  The
attach is carried out on its own, by an ideal clock that counts whole milliseconds. -/
theorem run_journal (site : Site σ κ ε ν) (order : Order) (w : World σ κ ε) :
    (∀ s v, site.Passes order w (.running s) v → ∃ asked told,
      v.exchanges = List.reverse asked ++ w.exchanges ∧ v.journal = w.journal ++ told ∧
      (∀ exchange ∈ asked, exchange.call.isDetach = false) ∧
      Journal.outcomes told = s.announced) ∧
    ∀ answer final, site.run order w = some (answer, final) → ∃ asked told,
      final.exchanges = List.reverse asked ++ w.exchanges ∧ final.journal = w.journal ++ told ∧
      ((∃ exchange ∈ asked, exchange.call.isDetach = true) →
        ∃ plan report discovered,
          site.RollsBack order w final answer.outcome told plan report discovered) ∧
      ((∀ exchange ∈ asked, exchange.call.isDetach = false) →
        Journal.worded told .warn "volume surfaced as an unexpected device; detaching" = []) ∧
      Journal.worded told .error "failed to detach volume after unexpected attachment" =
        (match answer.outcome with
          | .error (.rollbackFailed requested discovered cause) =>
              [.detachFailed order.volume.id requested discovered (toString cause)]
          | _ => []) ∧
      Journal.worded told .warn "attached volume never appeared on the host" =
        (match answer.outcome with
          | .error (.neverAppeared volume requested expected) =>
              [.neverAppeared volume requested expected site.agent.settings.limit]
          | _ => []) ∧
      Journal.worded told .info "volume attached" =
        (match answer.outcome with
          | .ok result => [.attached order.volume.id order.compute result.device]
          | _ => []) ∧
      Journal.worded told .warn "attach already in progress for volume" =
        (match answer.outcome with
          | .error (.alreadyInFlight volume) => [.alreadyInFlight volume]
          | _ => []) := by
  constructor
  · intro s v passes
    obtain ⟨asked, exchanges, none⟩ := passes.not_detached
    obtain ⟨told, expected, journal, outcomes⟩ := passes.announced
    exact ⟨asked, told, exchanges, journal, none, outcomes⟩
  intro answer final h
  obtain ⟨asked, _, ending, grows⟩ := ending_of_run h
  obtain ⟨slot, same, -⟩ := ending.asked_eq
  obtain ⟨told, expected, journal, outcomes⟩ := (passes_of_run h).announced
  have worded : ∀ level message, message ∈ outcomeWordings →
      Journal.worded told level message =
        (answer.outcome.announced order site.agent.settings.limit expected).worded level
          message := by
    intro level message wording
    rw [← Journal.worded_outcomes told wording, outcomes]
    rfl
  obtain ⟨silent, failed, lost, attached, busy⟩ :=
    answer.outcome.worded_announced order site.agent.settings.limit expected
  refine ⟨asked, told, grows.exchanges, journal, ?_, ?_, ?_, ?_, ?_, ?_⟩
  · intro detaches
    rw [same, Outcome.isDetach_exchanges] at detaches
    obtain ⟨discovered, names⟩ := detaches
    obtain ⟨plan, report, rollsBack⟩ := rollsBack_of_discovered h names journal
    exact ⟨plan, report, discovered, rollsBack⟩
  · intro keeps
    rw [worded _ _ (by decide)]
    apply silent
    rw [Option.eq_none_iff_forall_ne_some]
    intro discovered names
    have detaches := (answer.outcome.isDetach_exchanges order slot).mpr ⟨discovered, names⟩
    rw [← same] at detaches
    obtain ⟨exchange, inside, detach⟩ := detaches
    rw [keeps exchange inside] at detach
    cases detach
  · rw [worded _ _ (by decide), failed]
  · rw [worded _ _ (by decide), lost]
  · rw [worded _ _ (by decide), attached]
  · rw [worded _ _ (by decide), busy]

/-- Two devices show themselves, and the cloud refuses to detach the volume: the warning names
neither of them, and the failure of the detach is told after it. -/
theorem run_journal_of_refused_detach :
    let host : Host Nat := .ofSights fun k =>
      ⟨.ok (.ofList (if k = 0 then ["sda"] else ["sda", "xvdj", "xvdk"])), fun _ => .ok 7⟩
    let site : Site Nat ScriptedCloud Refusal :=
      ⟨{ settings := ⟨20, 10⟩ }, host, ScriptedCloud.cloud⟩
    let order : Order := ⟨.ofSevenBytes "vol-1", "i-1", .slot ⟨"/dev/sdj"⟩ (.ofList ["sda"])⟩
    ∃ answer final,
      site.run order { host := 0, cloud := { refusesDetach := true } } = some (answer, final) ∧
      Journal.worded final.journal .warn "volume surfaced as an unexpected device; detaching" =
        [.unexpectedDevice "vol-1" ⟨"/dev/sdj"⟩ ⟨"/dev/xvdj"⟩ none] ∧
      Journal.worded final.journal .error
          "failed to detach volume after unexpected attachment" =
        [.detachFailed "vol-1" ⟨"/dev/sdj"⟩ none (toString (Refusal.detach "vol-1"))] := by
  intro host site order
  have ends : (site.run order { host := 0, cloud := { refusesDetach := true } }).map
      (fun r => (r.1.outcome, r.2.exchanges.any fun exchange => exchange.call.isDetach)) =
      some (.error (.rollbackFailed ⟨"/dev/sdj"⟩ none (.detach "vol-1")), true) := by
    decide +kernel
  obtain ⟨⟨answer, final⟩, runs, same⟩ := Option.map_eq_some_iff.mp ends
  obtain ⟨outcome, detaches⟩ := Prod.mk.inj same
  obtain ⟨asked, told, exchanges, journal, detached, -, failed, -⟩ :=
    (run_journal site order { host := 0, cloud := { refusesDetach := true } }).2 answer final runs
  have all : final.journal = told := journal
  obtain ⟨exchange, inside, detach⟩ := List.any_eq_true.mp detaches
  rw [exchanges, List.append_nil, List.mem_reverse] at inside
  obtain ⟨plan, report, discovered, rollsBack⟩ := detached ⟨exchange, inside, detach⟩
  have requested : plan.requested = ⟨"/dev/sdj"⟩ := rollsBack.suits.place.1
  have translated : DeviceNaming.expected site.agent.naming ⟨"/dev/sdj"⟩ =
      .ok ⟨"/dev/xvdj"⟩ := by
    decide +kernel
  have planned := rollsBack.suits.expected
  rw [requested, translated] at planned
  have expected : plan.expected = ⟨"/dev/xvdj"⟩ := (Except.ok.inj planned).symm
  have named := rollsBack.named
  rw [outcome] at named failed
  have warned := rollsBack.warned
  rw [requested, expected, ← Option.some.inj named] at warned
  refine ⟨answer, final, runs, ?_, ?_⟩
  · rw [all]
    exact warned
  · rw [all]
    exact failed

end Site
end VolumeAttach
