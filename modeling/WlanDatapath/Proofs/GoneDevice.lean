import WlanDatapath.Proofs.BringingUp
import WlanDatapath.Proofs.Obstacles

/-!
# Being told that the device is gone

There are two notions of a device that is gone.  A transport that refuses a transfer judges
whether its status means that, and the removal latch follows this judgement
(`Refusal.fatal`).  The failure that the caller is told follows the status alone
(`Status.isFatal`).  `Refusal.IsTold` says what that comes to: the two agree if and only if
the transport judges the status as the status itself does.

A caller is refused in two places.  The sender of a frame is told at once
(`Engine.refused_enqueue`).  Bringing up that has a post refused tears the device down first
and is told once, whatever happens meanwhile (`Engine.failureTold_run`).
-/

namespace WlanDatapath

/-! ## Being told -/

/-- A refusal with a status, by a transport that judges which statuses mean that the device
is gone. -/
def Refusal.judged (judge : Status → Bool) (status : Status) : Refusal :=
  ⟨status, judge status⟩

/-- A result tells of a refusal: it is the failure of the status, and so it agrees with the
judgement of the transport if and only if that is the one of the status itself. -/
structure Refusal.IsTold (refusal : Refusal) (result : Except Fault Unit) : Prop where
  failure : result = .error (.failure (.ofStatus refusal.status))
  gone : result = .error (.failure .noDevice) ↔ refusal.status.isFatal = true
  agrees : (result = .error (.failure .noDevice) ↔ refusal.fatal = true) ↔
    refusal.fatal = refusal.status.isFatal

theorem Refusal.isTold (refusal : Refusal) :
    refusal.IsTold (.error (.failure (.ofStatus refusal.status))) := by
  have gone : (Except.error (.failure (.ofStatus refusal.status)) : Except Fault Unit) =
      .error (.failure .noDevice) ↔ refusal.status.isFatal = true := by
    rw [← Failure.ofStatus_eq_noDevice_iff, Except.error.injEq, Fault.failure.injEq]
  refine ⟨rfl, gone, ?_⟩
  rw [gone, ← Bool.eq_iff_iff]
  exact eq_comm

/-- The result that a further step of bringing up tells. -/
def Moment.outcome? (moment : Moment) : Option (Except Fault Unit) :=
  match moment.input, moment.reply with
  | .proceedBringUp, .over result => some result
  | _, _ => none

theorem Moment.outcome?_eq_none {moment : Moment} (other : moment.input ≠ .proceedBringUp) :
    moment.outcome? = none := by
  obtain ⟨engine, input⟩ := moment
  cases input with
  | proceedBringUp => contradiction
  | _ => rfl

namespace Engine

variable {engine : Engine}

/-! ## Frames -/

/-- The sender of a frame that the transport refuses is told. -/
theorem refused_enqueue {memory : Memory} {answer : Transfer Outgoing → Option Refusal}
    {frame : Outgoing} {key queue address : UInt8} {transfer : Transfer Outgoing}
    {refusal : Refusal}
    (refused : .submitTransmit address transfer (some refusal) ∈
      (engine.enqueue memory answer frame key queue).2.1) :
    (engine.enqueue memory answer frame key queue).1 = engine.noting (.refused refusal) ∧
      refusal.IsTold (engine.enqueue memory answer frame key queue).2.2 := by
  obtain ⟨accepts, same⟩ := engine.enqueue_of_refused refused
  obtain ⟨noted, told⟩ := refuseTransmit_eq accepts refusal
  rw [same]
  exact ⟨noted, told ▸ refusal.isTold⟩

/-! ## Bringing up -/

/-- A post that is refused ends the life of the device and begins a teardown. -/
theorem refused_answerPost {work : Work} (submitting : engine.bringUp = .submitting work)
    (started : engine.device.stage ≠ .created) (refusal : Refusal) :
    let refused := (Moment.mk engine (.answerPost (some refusal))).after
    refused.device = { engine.device with
        stage := .dead
        removed := refusal.fatal || engine.device.removed } ∧
      refused.bringUp = .failing (.ofStatus refusal.status) ∧ refused.teardowns ≠ 0 := by
  have device : (if refusal.fatal then engine.device.noteRemoval.2 else engine.device).kill =
      { engine.device with
        stage := .dead
        removed := refusal.fatal || engine.device.removed } := by
    cases refusal.fatal with
    | false => rfl
    | true =>
        unfold Device.noteRemoval
        cases stage : engine.device.stage with
        | created => exact absurd stage started
        | running | removed | dead => rfl
  simp only [Moment.after_answerPost, answerPost, submitting]
  exact ⟨device, rfl, Nat.succ_ne_zero _⟩

/-- A failure is told at most once, by a further step.  Until then it waits for the teardown
that it began, unless somebody else has finished that one. -/
inductive FailureTold (failure : Failure) : Engine → History → Prop where
  | waits {engine : Engine} {history : History} (failing : engine.bringUp = .failing failure)
      (untold : history.filterMap Moment.outcome? = [])
      (begun : (∀ moment ∈ history, moment.input ≠ .finishTeardown) → engine.teardowns ≠ 0) :
      FailureTold failure engine history
  | told {engine : Engine} {history : History} (idle : engine.bringUp = .idle)
      (once : history.filterMap Moment.outcome? = [.error (.failure failure)]) :
      FailureTold failure engine history

/-- On a dead device, only a further step moves bringing up that is over or has failed. -/
theorem bringUp_of_dead {moment : Moment} (dead : moment.before.device.stage = .dead)
    (settled : moment.before.bringUp = .idle ∨ ∃ failure, moment.before.bringUp = .failing failure)
    (other : moment.input ≠ .proceedBringUp) : moment.after.bringUp = moment.before.bringUp := by
  by_cases routine : moment.input.isRoutine = true
  · exact (Moment.rests routine).1
  obtain ⟨engine, input⟩ := moment
  dsimp only at dead settled
  cases input with
  | startBringUp supply => simp [startBringUp, dead]
  | proceedBringUp => contradiction
  | answerPost refusal =>
      rcases settled with idle | ⟨failure, failing⟩
      · simp [answerPost, idle]
      · simp [answerPost, failing]
  | beginTeardown => rfl
  | finishTeardown =>
      rw [Moment.after_finishTeardown]
      cases finish : engine.finishTeardown? with
      | none => rfl
      | some finished =>
          obtain ⟨-, -, rfl⟩ := finishTeardown?_eq_some finish
          rfl
  | _ => simp [Input.isRoutine] at routine

/-- A further step finds nothing to do. -/
theorem proceedBringUp_of_stuck (stuck : engine.proceedBringUp? = none) :
    let moment : Moment := ⟨engine, .proceedBringUp⟩
    moment.after = engine ∧ moment.outcome? = none := by
  simp [Moment.outcome?, Moment.reply, step, stuck]

/-- A further step tells a failure, unless its teardown cannot be finished yet. -/
theorem proceedBringUp_of_failing {failure : Failure}
    (failing : engine.bringUp = .failing failure) :
    let moment : Moment := ⟨engine, .proceedBringUp⟩
    if engine.teardowns = 0 ∨ engine.deferred.running = true then
      moment.after = engine ∧ moment.outcome? = none
    else moment.after.bringUp = .idle ∧ moment.outcome? = some (.error (.failure failure)) := by
  intro moment
  split
  next waits =>
    refine proceedBringUp_of_stuck ?_
    simp only [proceedBringUp?, failing, Option.map_eq_none_iff, finishTeardown?, Bool.or_eq_true,
      decide_eq_true_eq, if_pos waits]
  next ready =>
    obtain ⟨begun, free⟩ := not_or.mp ready
    obtain ⟨finished, -, ended⟩ :=
      proceedBringUp?_failing failing begun (Bool.eq_false_of_not_eq_true free)
    simp [moment, Moment.outcome?, Moment.reply, step, ended, ofBringUpStep, Except.mapError]

/-- Every moment keeps account of the failure. -/
theorem FailureTold.after {failure : Failure} {history : History} {moment : Moment}
    (dead : moment.before.device.stage = .dead)
    (account : FailureTold failure moment.before history) :
    FailureTold failure moment.after (history ++ [moment]) := by
  have silent : moment.outcome? = none → (history ++ [moment]).filterMap Moment.outcome? =
      history.filterMap Moment.outcome? := fun nothing => by simp [nothing]
  by_cases other : moment.input ≠ .proceedBringUp
  case pos =>
    have same := silent (Moment.outcome?_eq_none other)
    cases account with
    | waits failing untold begun =>
        refine .waits ((bringUp_of_dead dead (.inr ⟨_, failing⟩) other).trans failing)
          (same.trans untold) fun others => ?_
        have before := begun fun earlier member => others earlier (by simp [member])
        have further : moment.input ≠ .finishTeardown := others moment (by simp)
        -- Only these two inputs finish a teardown, so that none is taken away here.
        have kept : ¬ moment.after.teardowns < moment.before.teardowns := by
          intro fewer
          have released := Moment.isReleased_of_teardowns_lt fewer
          unfold Moment.isReleased at released
          split at released <;> contradiction
        omega
    | told idle once =>
        exact .told ((bringUp_of_dead dead (.inl idle) other).trans idle) (same.trans once)
  obtain ⟨engine, input⟩ := moment
  obtain rfl := not_not.mp other
  dsimp only at account
  cases account with
  | waits failing untold begun =>
      have proceeds := proceedBringUp_of_failing failing
      split at proceeds
      next stuck =>
        obtain ⟨after, nothing⟩ := proceeds
        rw [after]
        refine .waits failing ((silent nothing).trans untold) fun others => ?_
        exact begun fun earlier member => others earlier (by simp [member])
      next ready => exact .told proceeds.1 (by simp [untold, proceeds.2])
  | told idle once =>
      have stuck : engine.proceedBringUp? = none := by
        unfold proceedBringUp?
        rw [idle]
      obtain ⟨after, nothing⟩ := proceedBringUp_of_stuck stuck
      rw [after]
      exact .told idle ((silent nothing).trans once)

/-- Whatever happens after a failure, it is kept account of. -/
theorem failureTold_run {failure : Failure} (dead : engine.device.stage = .dead)
    (failing : engine.bringUp = .failing failure) (begun : engine.teardowns ≠ 0)
    (inputs : List Input) :
    FailureTold failure (engine.run inputs).1 (engine.history inputs) := by
  refine (History.invariant (fun late history =>
    late.device.stage = .dead ∧ FailureTold failure late history) ?_ ?_ inputs).2
  · exact ⟨dead, .waits failing rfl fun _ => begun⟩
  · rintro history moment ⟨dead, account⟩
    exact ⟨dead_run dead [moment.input], account.after dead⟩

/-- **A caller is told that the device is gone by the status alone.**

A transport judges, in whatever way it likes, which statuses mean that the device is gone.
If it refuses a frame or a post, the device is found removed if and only if it judges the
status so.  But the sender, or whoever brings the device up, is told that the device is gone
if and only if the status itself says so; the two agree if and only if the transport judges
this status as the status does.

Bringing up tells of the refusal at most once, and nothing else whatever happens meanwhile.
It tells as soon as no pass is going on, unless somebody else finished the teardown. -/
theorem refusals_told_by_status (config : Config) (inputs : List Input) (judge : Status → Bool)
    (status : Status) :
    let engine := ((fresh config).run inputs).1
    let refusal := Refusal.judged judge status
    (∀ (memory : Memory) (answer : Transfer Outgoing → Option Refusal) (frame : Outgoing)
        (key queue address : UInt8) (transfer : Transfer Outgoing),
      let step := engine.enqueue memory answer frame key queue
      .submitTransmit address transfer (some refusal) ∈ step.2.1 →
        refusal.IsTold step.2.2 ∧
          step.1.device =
            if judge status then { engine.device with stage := .removed, removed := true }
            else engine.device) ∧
    ∀ work, engine.bringUp = .submitting work →
      let refused := (Moment.mk engine (.answerPost (some refusal))).after
      refused.device = { engine.device with
          stage := .dead
          removed := judge status || engine.device.removed } ∧
        ∀ later,
          let told := (refused.history later).filterMap Moment.outcome?
          let late := (refused.run later).1
          (told = [] ∨ ∃ result, refusal.IsTold result ∧ told = [result]) ∧
            (told = [] → late.pass = .idle →
              (∀ moment ∈ refused.history later, moment.input ≠ .finishTeardown) →
              ∃ result, refusal.IsTold result ∧
                (Moment.mk late .proceedBringUp).outcome? = some result) := by
  intro engine refusal
  have sound : engine.Sound := sound_run config inputs
  constructor
  · intro memory answer frame key queue address transfer step refused
    obtain ⟨noted, told⟩ := refused_enqueue refused
    exact ⟨told, noted ▸ rfl⟩
  · intro work submitting refused
    have started : engine.device.stage ≠ .created := fun created => by
      have idle := congrArg Reception.bringUp (sound.reception.untouched created)
      exact absurd (submitting.symm.trans idle) (by simp [Reception.untouched])
    obtain ⟨device, failing, begun⟩ := refused_answerPost submitting started refusal
    refine ⟨device, fun later => ?_⟩
    intro told late
    have dead : refused.device.stage = .dead := by rw [device]
    have before : (Moment.mk engine (.answerPost (some refusal))).before.Sound := sound
    have soundLate : late.Sound := before.after.run later
    have account : FailureTold _ late (refused.history later) :=
      failureTold_run dead failing begun later
    cases account with
    | waits failing untold begun =>
        refine ⟨.inl untold, fun _ quiet others => ?_⟩
        have proceeds := proceedBringUp_of_failing failing
        rw [if_neg (by simp [begun others, soundLate.free quiet])] at proceeds
        exact ⟨_, refusal.isTold, proceeds.2⟩
    | told idle once =>
        refine ⟨.inr ⟨_, refusal.isTold, once⟩, fun nothing => ?_⟩
        exact absurd (nothing.symm.trans once) (by simp)

/-- Where the transport judges as the status does, whoever is refused is told so. -/
theorem refusals_told_by_status_shutdown :
    let refusal := Refusal.judged Status.isFatal .shutdown
    let transfer : Transfer Outgoing := .bind 64 (.sealed [1, 2, 3] 7 0xff 0)
    let engine := ((fresh .small).run bringUpInputs).1
    let step := engine.enqueue (fun _ => true) (fun _ => some refusal) (.bare [1, 2, 3] 7) 0xff 0
    let posting := ((fresh .small).run [.startBringUp .ample, .proceedBringUp]).1
    let refused := (Moment.mk posting (.answerPost (some refusal))).after
    (.submitTransmit (engine.config.outEndpoints.get ⟨1, by decide⟩) transfer (some refusal) ∈
        step.2.1 ∧
      step.2.2 = .error (.failure .noDevice) ∧ step.1.device.removed = true) ∧
    (∃ work, posting.bringUp = .submitting work) ∧ refused.device.removed = true ∧
      (Moment.mk refused .proceedBringUp).outcome? = some (.error (.failure .noDevice)) := by
  have sent :
      let engine := ((fresh .small).run bringUpInputs).1
      .submitTransmit (engine.config.outEndpoints.get ⟨1, by decide⟩)
          (.bind 64 (.sealed [1, 2, 3] 7 0xff 0)) (some (.judged Status.isFatal .shutdown)) ∈
        (engine.enqueue (fun _ => true) (fun _ => some (.judged Status.isFatal .shutdown))
          (.bare [1, 2, 3] 7) 0xff 0).2.1 := by
    decide +kernel
  have posted :
      let engine := ((fresh .small).run [.startBringUp .ample, .proceedBringUp]).1
      let refusal := Refusal.judged Status.isFatal .shutdown
      engine.bringUp = .submitting ⟨0, 384, .zeroed Config.small.bufferSize⟩ ∧
        (Moment.mk engine (.answerPost (some refusal))).after.pass = .idle := by
    decide +kernel
  -- Both runs are forgotten once the theorem is applied: they must not be evaluated again.
  have frames := (@refusals_told_by_status .small bringUpInputs Status.isFatal .shutdown).1
  have posts := (@refusals_told_by_status .small [.startBringUp .ample, .proceedBringUp]
    Status.isFatal .shutdown).2
  generalize ((fresh .small).run bringUpInputs).1 = up at sent frames ⊢
  generalize ((fresh .small).run [.startBringUp .ample, .proceedBringUp]).1 = began
    at posted posts ⊢
  intro refusal transfer engine step posting refused
  obtain ⟨told, device⟩ := frames _ _ _ _ _ _ _ sent
  obtain ⟨dead, later⟩ := posts _ posted.1
  obtain ⟨-, tells⟩ := later []
  obtain ⟨result, failed, outcome⟩ := tells rfl posted.2 (by simp)
  refine ⟨⟨sent, told.gone.mpr rfl, ?_⟩, ⟨_, posted.1⟩, ?_, ?_⟩
  · exact congrArg Device.removed device
  · exact congrArg Device.removed dead
  · rw [failed.gone.mpr rfl] at outcome
    exact outcome

/-- The sender of a frame, and whoever brings the device up, may not be told that the device is
gone although the transport judges the status so, and may be told so although it does not. -/
theorem removal_not_told :
    let judge : Status → Bool := fun status => status == .io (-71)
    let refuses (status : Status) : Transfer Outgoing → Option Refusal :=
      fun _ => some (.judged judge status)
    let engine := ((fresh .small).run bringUpInputs).1
    let send (status : Status) :=
      engine.enqueue (fun _ => true) (refuses status) (.bare [1, 2, 3] 7) 0xff 0
    let bringUp (status : Status) :=
      bringingUp .ample fun _ => some (.judged judge status)
    engine.device = { stage := .running } ∧
      ((send (.io (-71))).2.2 = .error (.failure (.submit (.io (-71)))) ∧
        (send (.io (-71))).1.device = { stage := .removed, removed := true }) ∧
      ((send .noDevice).2.2 = .error (.failure .noDevice) ∧
        (send .noDevice).1.device = { stage := .running }) ∧
      (((fresh .small).history (bringUp (.io (-71)))).bringUpRecord.results =
          [.error (.failure (.submit (.io (-71))))] ∧
        ((fresh .small).run (bringUp (.io (-71)))).1.device =
          { stage := .dead, removed := true }) ∧
      ((fresh .small).history (bringUp .noDevice)).bringUpRecord.results =
          [.error (.failure .noDevice)] ∧
        ((fresh .small).run (bringUp .noDevice)).1.device = { stage := .dead } := by
  intro judge refuses engine send bringUp
  decide +kernel

end Engine

end WlanDatapath
