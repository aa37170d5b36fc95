/-
Module: VolumeAttach.Proofs.Endings
Purpose: The ways in which an attach comes to its end, and what each leaves behind.
Main exports: Watch.Ends, Cloud.answerAll, World.Grows, Journal.transitions, Order.slot?,
  Order.baseline?, Agent.begin_inv, Site.opening, Site.Ending, Site.Ending.stopped_of_idle,
  Site.Ending.plan_of_asked, Site.Ending.plan_of_ok, Site.ending_of_run
-/
import VolumeAttach.Proofs.Acceptance

namespace VolumeAttach

/-!
An attach that comes to its end does so in one of four ways.  A check fails before the
cloud is asked; the cloud refuses; what the watch found is judged and nothing is left to
do; or the judgement leads to a detach, and the cloud's answer to that decides.

A run is allowed a number of stretches, and that number plays no part here: a run that
has an answer went through finitely many stretches, each of which is described as such.
-/

/-! ### A watch that comes to its end -/

namespace Watch

variable {σ : Type} {host : Host σ} {w : Watch} {now : Nat} {s : σ} {report : Report σ}

/-- A watch goes through turns until one of them ends it. -/
inductive Ends (host : Host σ) : Watch → Nat → σ → Report σ → Prop
  | now {w : Watch} {now : Nat} {s : σ} {finding : Finding}
      (verdict : (w.turn host now s).next = .ended finding) :
      Ends host w now s
        ⟨finding, (w.turn host now s).diagnostics, now, (w.turn host now s).host⟩
  | later {w watch : Watch} {now wake : Nat} {s : σ} {report : Report σ}
      (sleeps : (w.turn host now s).next = .asleep watch wake)
      (rest : Ends host watch wake (w.turn host now s).host report) :
      Ends host w now s
        { report with diagnostics := (w.turn host now s).diagnostics ++ report.diagnostics }

/-- Such a watch is a run with turns enough. -/
theorem Ends.exists_run (ends : Ends host w now s report) (told : List Diagnostic) :
    ∃ turns, run host turns w now told s =
      some { report with diagnostics := told.reverse ++ report.diagnostics } := by
  induction ends generalizing told with
  | now verdict =>
      refine ⟨1, ?_⟩
      simp [run, verdict, List.reverseAux_eq]
  | @later w watch now wake s report sleeps rest ih =>
      obtain ⟨turns, goesOn⟩ := ih ((w.turn host now s).diagnostics.reverseAux told)
      refine ⟨turns + 1, ?_⟩
      rw [run]
      simp only [sleeps, goesOn]
      simp [List.reverseAux_eq]

end Watch

/-! ### What is added to the records of a world -/

namespace Cloud

variable {κ ε : Type} {cloud : Cloud κ ε} {k next final : κ} {calls later : List CloudCall}
  {exchanges more : List (Exchange ε)}

/-- What a cloud answers to calls that are put to it one after the other. -/
def answerAll (cloud : Cloud κ ε) (k : κ) : List CloudCall → List (Exchange ε) × κ
  | [] => ([], k)
  | call :: later =>
      let (answer, next) := cloud.answer k call
      let (rest, final) := answerAll cloud next later
      (⟨call, answer⟩ :: rest, final)

theorem answerAll_append (first : cloud.answerAll k calls = (exchanges, next))
    (second : cloud.answerAll next later = (more, final)) :
    cloud.answerAll k (calls ++ later) = (exchanges ++ more, final) := by
  induction calls generalizing k exchanges with
  | nil =>
      cases first
      exact second
  | cons call rest ih =>
      simp only [answerAll, Prod.mk.injEq] at first
      obtain ⟨rfl, reached⟩ := first
      simp only [List.cons_append, answerAll, ih (Prod.ext rfl reached)]

end Cloud

namespace World

variable {σ κ ε : Type} {cloud : Cloud κ ε} {w next final : World σ κ ε}
  {asked later : List (Exchange ε)} {told more : Journal}

/-- A world in which the cloud was asked more, each time in the state in which it then was,
and more was told. -/
structure Grows (cloud : Cloud κ ε) (w : World σ κ ε) (asked : List (Exchange ε))
    (told : Journal) (next : World σ κ ε) : Prop where
  exchanges : next.exchanges = asked.reverse ++ w.exchanges
  answered : cloud.answerAll w.cloud (asked.map Exchange.call) = (asked, next.cloud)
  journal : next.journal = w.journal ++ told

theorem Grows.trans (first : w.Grows cloud asked told next)
    (second : next.Grows cloud later more final) :
    w.Grows cloud (asked ++ later) (told ++ more) final := by
  constructor
  · rw [second.exchanges, first.exchanges, List.reverse_append, List.append_assoc]
  · rw [List.map_append, Cloud.answerAll_append first.answered second.answered]
  · rw [second.journal, first.journal, List.append_assoc]

theorem settleRegistration_eq (w : World σ κ ε) (volume : String) (status : Status ε) :
    w.settleRegistration volume status =
      { w with inFlight := (w.settleRegistration volume status).inFlight } := by
  cases status <;> rfl

theorem grows_of_told (cloud : Cloud κ ε) (unasked : next.exchanges = w.exchanges)
    (same : next.cloud = w.cloud) (tells : next.told = told.reverseAux w.told) :
    w.Grows cloud [] told next := by
  constructor
  · rw [unasked]
    rfl
  · rw [same]
    rfl
  · simp [journal, tells, List.reverseAux_eq]

theorem grows_tell (cloud : Cloud κ ε) (w : World σ κ ε) (told : Journal) :
    w.Grows cloud [] told (w.tell told) :=
  grows_of_told cloud rfl rfl rfl

/-- A stretch changes the host, tells something and may end a registration. -/
theorem grows_stretch (cloud : Cloud κ ε) (w : World σ κ ε) (clock : Nat) (host : σ)
    (told : Journal) (volume : String) (status : Status ε) :
    w.Grows cloud [] told
      (({ w with clock := clock, host := host }.tell told).settleRegistration volume status) := by
  rw [settleRegistration_eq]
  exact grows_of_told cloud rfl rfl rfl

@[simp] theorem host_stretch (w : World σ κ ε) (told : Journal) (volume : String)
    (status : Status ε) : ((w.tell told).settleRegistration volume status).host = w.host := by
  rw [settleRegistration_eq]
  rfl

end World

/-! ### The first stretch and the judgement -/

/-- The stage changes among diagnostics, each with the volume that it is told of. -/
def Journal.transitions (j : Journal) : List (String × Stage × Stage) :=
  j.filterMap fun
    | .transition volume source target => some (volume, source, target)
    | _ => none

@[simp] theorem Journal.transitions_append (first second : Journal) :
    Journal.transitions (first ++ second) = first.transitions ++ second.transitions :=
  List.filterMap_append

/-- The slot that an order asks for: its own, or the lowest that a listing leaves free. -/
def Order.slot? {ν : Type} [DeviceNaming ν] (order : Order) (naming : ν) (sight : Sight) :
    Option DevicePath :=
  match order.place with
  | .slot requested _ => some requested
  | .anyFree =>
      match sight.listing with
      | .error _ => none
      | .ok names => (DeviceNaming.selectFree naming names).toOption

/-- The names by which an order is judged: its own, or those of a listing. -/
def Order.baseline? (order : Order) (sight : Sight) : Option NameSet :=
  match order.place with
  | .slot _ baseline => some baseline
  | .anyFree => sight.listing.toOption

/-- The host when the cloud is asked: only an order without a slot has looked at it. -/
def Order.hostAtStart {σ : Type} (order : Order) (host : Host σ) (s : σ) : σ :=
  match order.place with
  | .slot .. => s
  | .anyFree => (host.look s).2

namespace Agent

variable {σ ε ν : Type} [DeviceNaming ν]

/-- A check that fails stops an attach before its first stage is left. -/
theorem plan_inv (a : Agent ν) (busy : Bool) (volume : Volume) (compute : String)
    (requested : DevicePath) (baseline : NameSet) :
    (∃ failure told, a.plan (ε := ε) busy volume compute requested baseline =
        ⟨.error failure, told⟩ ∧ failure.finalStage = .idle ∧ Journal.transitions told = []) ∨
    (∃ expected, a.plan (ε := ε) busy volume compute requested baseline =
      ⟨.ok ⟨volume, compute, requested, expected, baseline⟩, []⟩) := by
  unfold Agent.plan
  cases busy with
  | true => exact .inl ⟨_, _, rfl, rfl, rfl⟩
  | false =>
      cases DeviceNaming.expected a.naming requested with
      | error cause => exact .inl ⟨_, _, rfl, rfl, rfl⟩
      | ok expected =>
          simp only [Bool.false_eq_true, if_false]
          split
          · exact .inl ⟨_, _, rfl, rfl, rfl⟩
          · exact .inr ⟨expected, rfl⟩

theorem setOut_inv (a : Agent ν) (busy : Bool) (volume : Volume) (compute : String)
    (requested : DevicePath) (baseline : NameSet) (s : σ) :
    (∃ failure told, a.setOut (ε := ε) busy volume compute requested baseline s =
        ⟨s, told, .ended (.error failure)⟩ ∧ failure.finalStage = .idle ∧
      Journal.transitions told = []) ∨
    (∃ expected, a.setOut (ε := ε) busy volume compute requested baseline s =
      ⟨s, [.transition volume.id .idle .attaching],
        .running (.attaching ⟨volume, compute, requested, expected, baseline⟩)⟩) := by
  unfold setOut
  rcases a.plan_inv (ε := ε) busy volume compute requested baseline with
    ⟨failure, told, fails, idle, silent⟩ | ⟨expected, passes⟩
  · rw [fails]
    exact .inl ⟨failure, told, rfl, idle, silent⟩
  · rw [passes]
    exact .inr ⟨expected, rfl⟩

/-- The first stretch stops an attach in its first stage, or lets it set out at the slot
that was asked for. -/
theorem begin_inv (a : Agent ν) (host : Host σ) (busy : Bool) (order : Order) (s : σ) :
    (∃ failure told, a.begin (ε := ε) host busy order s =
        ⟨order.hostAtStart host s, told, .ended (.error failure)⟩ ∧
      failure.finalStage = .idle ∧ Journal.transitions told = []) ∨
    (∃ plan told, a.begin (ε := ε) host busy order s =
        ⟨order.hostAtStart host s, told, .running (.attaching plan)⟩ ∧
      plan.volume = order.volume ∧ plan.compute = order.compute ∧
      order.slot? a.naming (host.look s).1 = some plan.requested ∧
      order.baseline? (host.look s).1 = some plan.baseline ∧
      Journal.transitions told = [(order.volume.id, .idle, .attaching)]) := by
  obtain ⟨volume, compute, place⟩ := order
  cases place with
  | slot requested baseline =>
      simp only [Agent.begin, Order.hostAtStart, Order.slot?, Order.baseline?]
      rcases a.setOut_inv (ε := ε) busy volume compute requested baseline s with
        ⟨failure, told, stops, idle, silent⟩ | ⟨expected, setsOut⟩
      · exact .inl ⟨failure, told, stops, idle, silent⟩
      · exact .inr ⟨_, _, setsOut, rfl, rfl, rfl, rfl, rfl⟩
  | anyFree =>
      simp only [Agent.begin, Order.hostAtStart, Order.slot?, Order.baseline?]
      cases hlisting : (host.look s).1.listing with
      | error cause => exact .inl ⟨_, _, rfl, rfl, rfl⟩
      | ok names =>
          simp only [DeviceNaming.selectFreeReported]
          cases hslot : DeviceNaming.selectFree a.naming names with
          | error cause => exact .inl ⟨_, _, rfl, rfl, rfl⟩
          | ok slot =>
              simp only
              rcases a.setOut_inv (ε := ε) busy volume compute slot names (host.look s).2 with
                ⟨failure, told, stops, idle, silent⟩ | ⟨expected, setsOut⟩
              · rw [stops]
                exact .inl ⟨failure, _, rfl, idle, silent⟩
              · rw [setsOut]
                exact .inr ⟨_, _, rfl, rfl, rfl, rfl, rfl, rfl⟩

/-- What was found is judged for good, or has to be detached. -/
theorem conclude_ends_or_detaches (a : Agent ν) (plan : Plan) (finding : Finding) :
    (∃ outcome, (a.conclude (ε := ε) plan finding).value = .ended outcome) ∨
    (∃ discovered,
      (a.conclude (ε := ε) plan finding).value = .running (.detaching plan discovered)) := by
  rcases conclude_cases (ε := ε) a plan finding with ends | detaches | ends
  · exact .inl ⟨_, ends⟩
  · exact .inr detaches
  · exact .inl ⟨_, ends⟩

/-- Judged for good, a volume is attached or its device was never seen. -/
theorem conclude_ended {a : Agent ν} {plan : Plan} {finding : Finding} {outcome : Outcome ε}
    (h : (a.conclude plan finding).value = .ended outcome) :
    outcome = .ok ⟨plan.volume.attached plan.compute, plan.expected⟩ ∨
      outcome = .error (.neverAppeared plan.volume.id plan.requested plan.expected) := by
  rcases conclude_cases (ε := ε) a plan finding with attached | ⟨discovered, detaches⟩ | lost
  · rw [attached] at h
    cases h
    exact .inl rfl
  · rw [detaches] at h
    cases h
  · rw [lost] at h
    cases h
    exact .inr rfl

end Agent

namespace Site

variable {σ κ ε ν : Type} {site : Site σ κ ε ν} {order : Order} {w final : World σ κ ε}
  {outcome : Outcome ε}

theorem grows_ask (site : Site σ κ ε ν) (w : World σ κ ε) (call : CloudCall) :
    w.Grows site.cloud [⟨call, (site.ask w call).1⟩] [] (site.ask w call).2 := by
  constructor
  · rfl
  · rfl
  · simp [ask, World.journal]

/-! ### The four endings -/

variable [DeviceNaming ν]

/-- The first stretch of an attach. -/
def opening (site : Site σ κ ε ν) (order : Order) (w : World σ κ ε) : Turn σ ε :=
  site.agent.begin site.host (w.inFlight.contains order.volume.id) order w.host

theorem opening_host (site : Site σ κ ε ν) (order : Order) (w : World σ κ ε) :
    (site.opening order w).host = order.hostAtStart site.host w.host := by
  unfold opening
  rcases site.agent.begin_inv (ε := ε) site.host (w.inFlight.contains order.volume.id) order
      w.host with ⟨_, _, opens, -⟩ | ⟨_, _, opens, -⟩
  · rw [opens]
  · rw [opens]

/-- An attach that stops at once has not left its first stage. -/
theorem finalStage_of_opening {failure : AttachError ε}
    (h : (site.opening order w).status = .ended (.error failure)) :
    failure.finalStage = .idle := by
  unfold opening at h
  rcases site.agent.begin_inv (ε := ε) site.host (w.inFlight.contains order.volume.id) order
      w.host with ⟨_, _, opens, idle, -⟩ | ⟨_, _, opens, -⟩
  · rw [opens] at h
    cases h
    exact idle
  · rw [opens] at h
    cases h

/-- An attach that sets out does so for the volume and at the slot that were asked for. -/
theorem plan_of_opening {plan : Plan}
    (h : (site.opening order w).status = .running (.attaching plan)) :
    plan.volume = order.volume ∧ plan.compute = order.compute ∧
      order.slot? site.agent.naming (site.host.look w.host).1 = some plan.requested ∧
      order.baseline? (site.host.look w.host).1 = some plan.baseline := by
  unfold opening at h
  rcases site.agent.begin_inv (ε := ε) site.host (w.inFlight.contains order.volume.id) order
      w.host with ⟨_, _, opens, -⟩ | ⟨_, _, opens, volume, compute, slot, baseline, -⟩
  · rw [opens] at h
    cases h
  · rw [opens] at h
    cases h
    exact ⟨volume, compute, slot, baseline⟩

/-- The watch of an attach that the cloud accepts at an instant. -/
def watchFor (site : Site σ κ ε ν) (plan : Plan) (now : Nat) : Watch :=
  Watch.start site.agent.settings plan.baseline plan.volume.size now

variable [ToString ε]

/-- How an attach ends, what the cloud was asked for it and answered, what was told of
it, and the host that it leaves behind. -/
inductive Ending (site : Site σ κ ε ν) (order : Order) (w : World σ κ ε) :
    Outcome ε → List (Exchange ε) → Journal → σ → Prop
  /-- A check fails. -/
  | stopped {failure : AttachError ε}
      (stops : (site.opening order w).status = .ended (.error failure)) :
      Ending site order w (.error failure) [] (site.opening order w).diagnostics
        (site.opening order w).host
  /-- The cloud refuses the attach. -/
  | refused {plan : Plan} {cause : ε}
      (setsOut : (site.opening order w).status = .running (.attaching plan)) :
      Ending site order w (.error (.cloud cause))
        [⟨.attach plan.volume.id plan.compute plan.requested, .error cause⟩]
        ((site.opening order w).diagnostics ++ [.transition plan.volume.id .attaching .failed])
        (site.opening order w).host
  /-- The judgement of what was found is the end. -/
  | judged {plan : Plan} {report : Watch.Report σ} {outcome : Outcome ε}
      (setsOut : (site.opening order w).status = .running (.attaching plan))
      (watched : (site.watchFor plan w.clock).Ends site.host w.clock
        (site.opening order w).host report)
      (verdict : (site.agent.conclude plan report.finding).value = .ended outcome) :
      Ending site order w outcome
        [⟨.attach plan.volume.id plan.compute plan.requested, .ok ()⟩]
        ((site.opening order w).diagnostics ++
          .transition plan.volume.id .attaching .awaitingDevice :: (report.diagnostics ++
            (site.agent.conclude (ε := ε) plan report.finding).diagnostics))
        report.host
  /-- What was found is detached, or cannot be. -/
  | detached {plan : Plan} {report : Watch.Report σ} {discovered : Option DevicePath}
      {answer : Except ε Unit} {outcome : Outcome ε}
      (setsOut : (site.opening order w).status = .running (.attaching plan))
      (watched : (site.watchFor plan w.clock).Ends site.host w.clock
        (site.opening order w).host report)
      (verdict : (site.agent.conclude (ε := ε) plan report.finding).value =
        .running (.detaching plan discovered))
      (answered : (Agent.detachAnswered plan discovered answer).value = .ended outcome) :
      Ending site order w outcome
        [⟨.attach plan.volume.id plan.compute plan.requested, .ok ()⟩,
          ⟨.detach plan.volume.id, answer⟩]
        ((site.opening order w).diagnostics ++
          .transition plan.volume.id .attaching .awaitingDevice :: (report.diagnostics ++
            (site.agent.conclude (ε := ε) plan report.finding).diagnostics ++
            (Agent.detachAnswered plan discovered answer).diagnostics))
        report.host

/-- An attach that ends in its first stage was stopped there and has asked nothing. -/
theorem Ending.stopped_of_idle {failure : AttachError ε} {asked : List (Exchange ε)}
    {told : Journal} {host : σ} (ending : site.Ending order w (.error failure) asked told host)
    (idle : failure.finalStage = .idle) :
    (site.opening order w).status = .ended (.error failure) ∧ asked = [] := by
  cases ending with
  | stopped stops => exact ⟨stops, rfl⟩
  | refused setsOut => cases idle
  | judged setsOut watched verdict =>
      rcases Agent.conclude_ended verdict with other | other <;> cases other
      cases idle
  | @detached plan report discovered answer _ setsOut watched verdict answered =>
      cases answer <;> cases answered <;> cases idle

/-- What an attach asks is asked for the plan with which it set out. -/
theorem Ending.plan_of_asked {asked : List (Exchange ε)} {told : Journal} {host : σ}
    {exchange : Exchange ε} (ending : site.Ending order w outcome asked told host)
    (asks : exchange ∈ asked) :
    ∃ plan, (site.opening order w).status = .running (.attaching plan) ∧
      (exchange.call = .attach plan.volume.id plan.compute plan.requested ∨
        exchange.call = .detach plan.volume.id) := by
  cases ending with
  | stopped stops => cases asks
  | @refused plan cause setsOut =>
      obtain rfl := List.mem_singleton.mp asks
      exact ⟨plan, setsOut, .inl rfl⟩
  | @judged plan report _ setsOut watched verdict =>
      obtain rfl := List.mem_singleton.mp asks
      exact ⟨plan, setsOut, .inl rfl⟩
  | @detached plan report discovered answer _ setsOut watched verdict answered =>
      rcases List.mem_pair.mp asks with rfl | rfl
      · exact ⟨plan, setsOut, .inl rfl⟩
      · exact ⟨plan, setsOut, .inr rfl⟩

/-- An attach that ends well gives what it planned. -/
theorem Ending.plan_of_ok {result : AttachedVolume} {asked : List (Exchange ε)} {told : Journal}
    {host : σ} (ending : site.Ending order w (.ok result) asked told host) :
    ∃ plan, (site.opening order w).status = .running (.attaching plan) ∧
      result = ⟨plan.volume.attached plan.compute, plan.expected⟩ := by
  cases ending with
  | @judged plan report _ setsOut watched verdict =>
      rcases Agent.conclude_ended verdict with good | other
      · exact ⟨plan, setsOut, Except.ok.inj good⟩
      · cases other
  | @detached plan report discovered answer _ setsOut watched verdict answered =>
      cases answer <;> cases answered

/-! ### Every run has one of them

Each lemma starts from the fact that a run came to its end, and tells what the run did up
to its next question to the cloud. -/

/-- The detach is the last question. -/
theorem complete_detaching_inv {stretches : Nat} {plan : Plan} {discovered : Option DevicePath}
    (h : site.complete stretches (.running (.detaching plan discovered)) w =
      some (outcome, final)) :
    ∃ answer, (Agent.detachAnswered plan discovered answer).value = .ended outcome ∧
      w.Grows site.cloud [⟨.detach plan.volume.id, answer⟩]
        (Agent.detachAnswered plan discovered answer).diagnostics final ∧
      final.host = w.host := by
  cases stretches with
  | zero => cases h
  | succ stretches =>
      have asks := grows_ask site w (.detach plan.volume.id)
      rw [complete, Suspension.wake, World.passUntil_zero] at h
      simp only [resume, Suspension.question?, hear] at h
      cases hanswer : (site.ask w (.detach plan.volume.id)).1 with
      | error cause =>
          rw [hanswer] at h asks
          simp only [Agent.detachAnswered, complete_ended] at h
          cases h
          exact ⟨.error cause, rfl, asks.trans (World.grows_stretch ..), rfl⟩
      | ok =>
          rw [hanswer] at h asks
          simp only [Agent.detachAnswered, complete_ended] at h
          cases h
          exact ⟨.ok (), rfl, asks.trans (World.grows_stretch ..), rfl⟩

/-- The watch of a run that came to its end has come to its own. -/
theorem complete_watching_inv {stretches : Nat} {plan : Plan} {watch : Watch} {wake : Nat}
    (early : w.clock ≤ wake)
    (h : site.complete stretches (.running (.watching plan watch wake)) w =
      some (outcome, final)) :
    ∃ report left judged, watch.Ends site.host wake w.host report ∧
      w.Grows site.cloud [] (report.diagnostics ++
        (site.agent.conclude (ε := ε) plan report.finding).diagnostics) judged ∧
      judged.host = report.host ∧
      site.complete left (site.agent.conclude plan report.finding).value judged =
        some (outcome, final) := by
  induction stretches generalizing watch wake w with
  | zero => cases h
  | succ stretches ih =>
      have woken := World.passUntil_of_le early
      rw [complete] at h
      simp only [Suspension.wake, woken, resume, Suspension.question?, hear, Agent.woken,
        Agent.afterWatch] at h
      cases hnext : (watch.turn site.host wake w.host).next with
      | ended finding =>
          rw [hnext] at h
          exact ⟨_, stretches, _, .now hnext, World.grows_stretch .., World.host_stretch .., h⟩
      | asleep later laterWake =>
          rw [hnext] at h
          obtain ⟨report, left, judged, ends, grows, host, rest⟩ :=
            ih (Watch.le_wake_of_asleep hnext) h
          refine ⟨_, left, judged, .later hnext ends, ?_, host, rest⟩
          rw [List.append_assoc]
          exact (World.grows_stretch site.cloud w _ _ _ _ _).trans grows

/-- A run that sets out is refused by the cloud, or watches. -/
theorem complete_attaching_inv {stretches : Nat} {plan : Plan}
    (h : site.complete stretches (.running (.attaching plan)) w = some (outcome, final)) :
    (∃ cause, outcome = .error (.cloud cause) ∧
      w.Grows site.cloud [⟨.attach plan.volume.id plan.compute plan.requested, .error cause⟩]
        [.transition plan.volume.id .attaching .failed] final ∧ final.host = w.host) ∨
    (∃ report left judged,
      (site.watchFor plan w.clock).Ends site.host w.clock w.host report ∧
      w.Grows site.cloud [⟨.attach plan.volume.id plan.compute plan.requested, .ok ()⟩]
        (.transition plan.volume.id .attaching .awaitingDevice :: (report.diagnostics ++
          (site.agent.conclude (ε := ε) plan report.finding).diagnostics)) judged ∧
      judged.host = report.host ∧
      site.complete left (site.agent.conclude plan report.finding).value judged =
        some (outcome, final)) := by
  cases stretches with
  | zero => cases h
  | succ stretches =>
      have asks := grows_ask site w (.attach plan.volume.id plan.compute plan.requested)
      cases hanswer : (site.ask w (.attach plan.volume.id plan.compute plan.requested)).1 with
      | error cause =>
          rw [complete, Suspension.wake, World.passUntil_zero] at h
          simp only [resume, Suspension.question?, hanswer, hear, Agent.attachAnswered,
            complete_ended] at h
          rw [hanswer] at asks
          cases h
          exact .inl ⟨cause, rfl, asks.trans (World.grows_stretch ..), rfl⟩
      | ok =>
          rw [complete_attaching_of_ok stretches hanswer] at h
          rw [hanswer] at asks
          let asked := (site.ask w (.attach plan.volume.id plan.compute plan.requested)).2
          have accepted := World.grows_tell site.cloud asked
            [.transition plan.volume.id .attaching .awaitingDevice]
          have now : (asked.tell [.transition plan.volume.id .attaching .awaitingDevice]).clock ≤
              w.clock := Nat.le_refl w.clock
          obtain ⟨report, left, judged, ends, grows, host, rest⟩ := complete_watching_inv now h
          exact .inr ⟨report, left, judged, ends, (asks.trans accepted).trans grows, host, rest⟩

omit [ToString ε] in
theorem begin_opening {status : Status ε} {begun : World σ κ ε}
    (h : site.begin order w = (status, begun)) :
    (site.opening order w).status = status ∧ begun.host = (site.opening order w).host ∧
      begun.clock = w.clock ∧ w.Grows site.cloud [] (site.opening order w).diagnostics begun := by
  cases h
  exact ⟨rfl, rfl, rfl, World.grows_of_told site.cloud rfl rfl rfl⟩

/-- Every attach that comes to its end does so in one of the four ways. -/
theorem ending_of_run {answer : Answer ε} (h : site.run order w = some (answer, final)) :
    ∃ asked told, site.Ending order w answer.outcome asked told final.host ∧
      w.Grows site.cloud asked told final := by
  obtain ⟨status, begun, hbegin⟩ : ∃ status begun, site.begin order w = (status, begun) :=
    ⟨_, _, rfl⟩
  obtain ⟨opening, openingHost, clock, opens⟩ := begin_opening hbegin
  rw [run, hbegin] at h
  obtain ⟨⟨outcome, last⟩, completes, same⟩ := Option.map_eq_some_iff.mp h
  cases same
  rcases begin_cases hbegin with ⟨failure, rfl, -⟩ | ⟨plan, rfl, -⟩
  · rw [complete_ended] at completes
    cases completes
    rw [openingHost]
    exact ⟨_, _, .stopped opening, opens⟩
  rcases complete_attaching_inv completes with
    ⟨cause, rfl, refusal, refusalHost⟩ | ⟨report, left, judged, watched, grows, judgedHost, rest⟩
  · rw [refusalHost, openingHost]
    exact ⟨_, _, .refused opening, opens.trans refusal⟩
  rw [clock, openingHost] at watched
  rcases Agent.conclude_ends_or_detaches (ε := ε) site.agent plan report.finding with
    ⟨outcome, ends⟩ | ⟨discovered, detaches⟩
  · rw [ends, complete_ended] at rest
    cases rest
    rw [judgedHost]
    exact ⟨_, _, .judged opening watched ends, opens.trans grows⟩
  · rw [detaches] at rest
    obtain ⟨answer, answered, detach, detachHost⟩ := complete_detaching_inv rest
    rw [detachHost, judgedHost]
    exact ⟨_, _, .detached opening watched detaches answered, opens.trans (grows.trans detach)⟩

end Site
end VolumeAttach
