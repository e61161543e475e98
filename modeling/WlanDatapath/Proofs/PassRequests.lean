import WlanDatapath.Proofs.ReceiveBuffers

/-!
# Requests for a pass

A buffer that was filed waits until a pass takes it, and somebody has to be told
to run the pass.  The engine raises exactly when it makes a new request, and every
pass that begins takes one request.  So raises and passes are in balance up to the
one request that may be open, and a buffer that waits while no pass is going on
has an open request.

The first fact is an equation of counts (`Moment.raises_add`), the second an
invariant of reception (`Reception.Announced`).  Both hold until the device is
dead; a teardown drops the request that is open.
-/

namespace WlanDatapath

/-! ## Observations -/

namespace Engine

/-- The pass has no buffer to take. -/
def isExhausted (engine : Engine) : Bool :=
  engine.receive.isEmpty || engine.receive.consumer?.isNone

end Engine

namespace Moment

/-- How often somebody is told to run the pass. -/
def raises (moment : Moment) : Nat :=
  moment.effects.count .raise

/-- A pass begins: somebody starts one, or the one that has nothing left to take is
followed by another. -/
def beginsPass (moment : Moment) : Bool :=
  match moment.input with
  | .startPass => moment.before.startPass.1
  | .proceedPass _ =>
      moment.before.pass == .popping && moment.before.isExhausted &&
        moment.after.pass == .popping
  | _ => false

end Moment

/-- How many passes have begun. -/
def History.passes (history : History) : Nat :=
  history.countP Moment.beginsPass

@[simp]
theorem History.passes_concat (history : History) (moment : Moment) :
    History.passes (history ++ [moment]) = history.passes + moment.beginsPass.toNat := by
  unfold passes
  rw [List.countP_append, List.countP_singleton]
  cases moment.beginsPass <;> rfl

/-- An input that may make a request or take one. -/
def Input.isAboutPass : Input → Bool
  | .completeReceive _ | .startPass | .proceedPass _ => true
  | _ => false

/-! ## The open request -/

namespace DeferredWork

variable {work entered : DeferredWork}

/-- Making a request leaves one open, unless the work is disabled. -/
theorem scheduled_schedule (enabled : work.disabled = false) :
    work.schedule.2.scheduled = true := by
  unfold schedule
  split
  next refused => simpa [enabled] using refused
  next => rfl

/-- The answer to a request is whether it opened one. -/
theorem toNat_schedule (work : DeferredWork) :
    work.scheduled.toNat + work.schedule.1.toNat = work.schedule.2.scheduled.toNat := by
  obtain ⟨scheduled, running, disabled⟩ := work
  cases scheduled <;> cases disabled <;> rfl

@[simp]
theorem disabled_schedule (work : DeferredWork) :
    work.schedule.2.disabled = work.disabled := by
  unfold schedule
  split <;> rfl

/-- Starting a pass takes the open request. -/
theorem enter?_eq_some (start : work.enter? = some entered) :
    work.scheduled = true ∧ work.disabled = false ∧
      entered = { work with scheduled := false, running := true } := by
  unfold enter? at start
  split at start
  next ready =>
    simp only [Bool.and_eq_true, Bool.not_eq_true'] at ready
    exact ⟨ready.1.1, ready.2, (Option.some.inj start).symm⟩
  next => contradiction

@[simp]
theorem disabled_leave (work : DeferredWork) : work.leave.2.disabled = work.disabled := by
  unfold leave
  split <;> rfl

/-- Ending a pass takes the open request if another pass follows. -/
theorem toNat_leave (work : DeferredWork) :
    work.scheduled.toNat = work.leave.1.toNat + work.leave.2.scheduled.toNat := by
  obtain ⟨scheduled, running, disabled⟩ := work
  cases scheduled <;> cases disabled <;> rfl

end DeferredWork

/-! ## Nothing else touches the request -/

namespace Engine

variable (engine : Engine)

theorem deferred_enqueue (memory : Memory) (answer : Transfer Outgoing → Option Refusal)
    (frame : Outgoing) (key queue : UInt8) :
    (engine.enqueue memory answer frame key queue).1.deferred = engine.deferred := by
  obtain ⟨stage, -, same⟩ := Reception.reception_enqueue engine memory answer frame key queue
  exact congrArg Reception.deferred same

theorem deferred_completeTransmit (address : UInt8) (transfer : Transfer Outgoing) :
    (engine.completeTransmit address transfer).1.deferred = engine.deferred :=
  congrArg Reception.deferred (Reception.reception_completeTransmit engine address transfer)

theorem deferred_acquire (supply : Supply) (needed : List Acquisition) :
    (engine.acquire supply needed).1.deferred = engine.deferred := by
  obtain ⟨slots, handles, accounted⟩ := engine.acquire_accounted supply needed
  rw [accounted.acquired.others]

theorem deferred_takeSegment (memory : Memory) (segment : Segment) (work : Work)
    (walker : Walker) :
    (engine.takeSegment memory segment work walker).1.deferred = engine.deferred := by
  unfold takeSegment
  split
  · rfl
  · split <;> rfl

theorem deferred_walkReceive (memory : Memory) (work : Work) (walker : Walker) :
    (engine.walkReceive memory work walker).1.deferred = engine.deferred := by
  unfold walkReceive
  split
  · rfl
  · rfl
  · exact engine.deferred_takeSegment memory _ work _

theorem deferred_returnReceive (work : Work) :
    (engine.returnReceive work).1.deferred = engine.deferred := by
  unfold returnReceive
  split <;> rfl

end Engine

/-- As long as the device lives, an input that is not about the pass leaves the
request as it is. -/
theorem Moment.deferred_after {moment : Moment} (sound : moment.before.Sound)
    (alive : moment.after.device.stage ≠ .dead) (aside : moment.input.isAboutPass = false) :
    moment.after.deferred = moment.before.deferred := by
  obtain ⟨engine, input⟩ := moment
  have unfinished : ∀ finished, engine.finishTeardown? = some finished →
      finished.1.device.stage = .dead := by
    intro finished finish
    obtain ⟨begun, -, rfl⟩ := Engine.finishTeardown?_eq_some finish
    exact sound.reception.begun begun
  cases input with
  | completeReceive | startPass | proceedPass => contradiction
  | startBringUp supply =>
      rw [after_startBringUp] at alive ⊢
      unfold Engine.startBringUp at alive ⊢
      have same := engine.deferred_acquire supply acquisitions
      split
      next => rfl
      next created =>
        rw [if_neg created] at alive
        cases result : engine.acquire supply acquisitions with
        | mk acquired rest =>
            obtain ⟨effects, failure⟩ := rest
            rw [result] at same alive
            cases failure with
            | none => exact same
            | some failure => exact absurd rfl alive
  | proceedBringUp =>
      rw [after_proceedBringUp] at alive ⊢
      cases proceeds : engine.proceedBringUp? with
      | none => rfl
      | some step =>
          rw [proceeds] at alive
          cases Engine.bringUpMove_of_proceeds proceeds with
          | posts | passes | comesUp => rfl
          | abandons => exact absurd rfl alive
          | fails _ finish => exact absurd (unfinished _ finish) alive
  | answerPost refusal =>
      rw [after_answerPost] at alive ⊢
      cases place : engine.bringUp with
      | idle | posting | failing => simp only [Engine.answerPost, place]
      | submitting work =>
          simp only [Engine.answerPost, place] at alive ⊢
          cases refusal with
          | none => rfl
          | some refusal => exact absurd rfl alive
  | answerDelivery accepted =>
      rw [after_answerDelivery]
      unfold Engine.answerDelivery
      split <;> rfl
  | answerRepost refusal =>
      rw [after_answerRepost]
      unfold Engine.answerRepost
      split
      · split <;> rfl
      · rfl
  | enqueue memory answer frame key queue =>
      exact engine.deferred_enqueue memory answer frame key queue
  | completeTransmit address transfer => exact engine.deferred_completeTransmit address transfer
  | finishStatistics =>
      rw [after_finishStatistics, Engine.finishStatistics]
      split <;> rfl
  | beginTeardown => exact absurd rfl alive
  | finishTeardown =>
      rw [after_finishTeardown] at alive ⊢
      cases finish : engine.finishTeardown? with
      | none => rfl
      | some finished =>
          rw [finish] at alive
          exact absurd (unfinished _ finish) alive

/-! ## Raises and passes -/

/-- No raise happens at an input that cannot lead to one. -/
theorem Moment.raises_eq_zero (moment : Moment)
    (other : Effect.Kind.raise ∉ moment.input.kinds) : moment.raises = 0 := by
  rw [raises, List.count_eq_zero]
  intro member
  exact other (moment.kind_mem_kinds _ member)

namespace Engine

variable (engine : Engine)

theorem count_complaint (status : Status) (line : LogLine) :
    (engine.complaint status line).count .raise = 0 := by
  rw [List.count_eq_zero]
  intro member
  cases engine.kind_complaint status line _ member

/-- A transfer that ends raises as it opens a request. -/
theorem raises_completeReceive (transfer : Transfer Buffer) :
    engine.deferred.scheduled.toNat + (engine.completeReceive transfer).2.count .raise =
      (engine.completeReceive transfer).1.deferred.scheduled.toNat := by
  have dismissed : ∀ anomaly line,
      (engine.dismissReceive transfer anomaly line).2.count .raise = 0 ∧
        (engine.dismissReceive transfer anomaly line).1.deferred = engine.deferred := by
    intro anomaly line
    constructor
    · rw [List.count_eq_zero]
      intro member
      cases engine.kind_dismissReceive transfer anomaly line _ member
    · simp only [dismissReceive, putBackByHandle]
      split <;> rfl
  have filed : engine.deferred.scheduled.toNat + (engine.fileReceive transfer).2.count .raise =
      (engine.fileReceive transfer).1.deferred.scheduled.toNat := by
    have balance := engine.deferred.toNat_schedule
    show engine.deferred.scheduled.toNat +
        (if engine.deferred.schedule.1 then [Effect.raise] else []).count .raise =
      engine.deferred.schedule.2.scheduled.toNat
    rw [← balance]
    cases engine.deferred.schedule.1 <;> rfl
  unfold completeReceive
  simp only [List.count_append, count_complaint, Nat.zero_add]
  split
  · rfl
  · split
    · obtain ⟨silent, same⟩ := dismissed .receiveRingFull (.receiveRingFull transfer.handle)
      rw [silent, same, Nat.add_zero]
    · split
      · exact filed
      · obtain ⟨silent, same⟩ := dismissed .receiveMismatch
          (.receiveUnexpected transfer.handle (engine.receive.producer?.map (·.handle)))
        rw [silent, same, Nat.add_zero]

/-- A pass that has nothing left to take ends, or another one takes the request. -/
theorem begins_popReceive :
    engine.deferred.scheduled.toNat =
      (engine.isExhausted && engine.popReceive.pass == .popping).toNat +
        engine.popReceive.deferred.scheduled.toNat := by
  have ended : ∀ left : Engine, left.deferred = engine.deferred →
      engine.deferred.scheduled.toNat =
        (left.endPass.pass == .popping).toNat + left.endPass.deferred.scheduled.toNat := by
    intro left same
    rw [engine.deferred.toNat_leave]
    simp only [endPass, same]
    cases engine.deferred.leave.1 <;> rfl
  unfold popReceive
  cases retired : engine.receive.retire? with
  | none =>
      have empty : engine.isExhausted = true := by
        unfold Ring.retire? at retired
        split at retired
        next empty => rw [isExhausted, empty, Bool.true_or]
        next => contradiction
      rw [empty, Bool.true_and]
      exact ended engine rfl
  | some result =>
      obtain ⟨index, ring⟩ := result
      obtain ⟨present, rfl, rfl⟩ := Ring.retire?_eq_some retired
      have found : engine.isExhausted = engine.receive.slots[engine.receive.start]?.isNone := by
        rw [isExhausted, present, Bool.false_or]
        rfl
      rw [found]
      cases front : engine.receive.slots[engine.receive.start]? with
      | none =>
          simp only [front, Option.isNone_none, Bool.true_and]
          exact ended _ rfl
      | some slot =>
          simp only [front, Option.isNone_some, Bool.false_and, Bool.toNat_false, Nat.zero_add]
          cases slot.buffer <;> rfl

end Engine

/-- A raise opens a request, and a pass that begins takes one. -/
theorem Moment.raises_add {moment : Moment} (sound : moment.before.Sound)
    (alive : moment.after.device.stage ≠ .dead) :
    moment.before.deferred.scheduled.toNat + moment.raises =
      moment.beginsPass.toNat + moment.after.deferred.scheduled.toNat := by
  cases aside : moment.input.isAboutPass with
  | false =>
      have silent : moment.raises = 0 := by
        apply moment.raises_eq_zero
        obtain ⟨engine, input⟩ := moment
        cases input <;> first | contradiction | simp [Input.kinds]
      have still : moment.beginsPass = false := by
        obtain ⟨engine, input⟩ := moment
        cases input <;> first | contradiction | rfl
      rw [silent, still, moment.deferred_after sound alive aside]
      exact (Nat.zero_add _).symm
  | true =>
      obtain ⟨engine, input⟩ := moment
      cases input with
      | completeReceive transfer =>
          exact (engine.raises_completeReceive transfer).trans (Nat.zero_add _).symm
      | startPass =>
          show engine.deferred.scheduled.toNat + 0 =
            engine.startPass.1.toNat + engine.startPass.2.deferred.scheduled.toNat
          unfold Engine.startPass
          cases start : engine.deferred.enter? with
          | none => exact Nat.add_comm _ _
          | some entered =>
              obtain ⟨requested, -, rfl⟩ := DeferredWork.enter?_eq_some start
              rw [requested]
              rfl
      | proceedPass memory =>
          have silent : (Moment.mk engine (.proceedPass memory)).raises = 0 :=
            Moment.raises_eq_zero _ (by simp [Input.kinds])
          rw [silent, Nat.add_zero]
          unfold beginsPass
          simp only [after_proceedPass, Engine.proceedPass?]
          cases place : engine.pass with
          | idle | delivering | submitting =>
              exact (Nat.zero_add _).symm
          | popping => exact engine.begins_popReceive
          | walking work walker =>
              simp only [Option.getD_some, engine.deferred_walkReceive]
              exact (Nat.zero_add _).symm
          | returning work =>
              simp only [Option.getD_some, engine.deferred_returnReceive]
              exact (Nat.zero_add _).symm
      | _ => contradiction

/-- An open request is not announced again. -/
theorem Moment.raise_notMem {moment : Moment}
    (scheduled : moment.before.deferred.scheduled = true) : .raise ∉ moment.effects := by
  rw [← List.count_eq_zero]
  by_cases other : Effect.Kind.raise ∈ moment.input.kinds
  · obtain ⟨engine, input⟩ := moment
    cases input with
    | completeReceive transfer =>
        have balance := engine.raises_completeReceive transfer
        have bound := Bool.toNat_le (engine.completeReceive transfer).1.deferred.scheduled
        rw [scheduled, Bool.toNat_true] at balance
        rw [effects_completeReceive]
        omega
    | _ => simp [Input.kinds] at other
  · exact moment.raises_eq_zero other

/-! ## Waiting buffers -/

namespace Reception

/-- Requests are taken, and there is one if a buffer waits while no pass is going
on. -/
structure Announced (reception : Reception) : Prop where
  enabled : reception.deferred.disabled = false
  waiting : 0 < reception.ring.used → reception.pass = .idle →
    reception.deferred.scheduled = true

variable {reception next : Reception} {event : Event}

theorem announced_untouched : untouched.Announced where
  enabled := rfl
  waiting := fun waits => absurd waits (Nat.lt_irrefl 0)

/-- Neither the request nor the number of waiting buffers changes. -/
theorem Announced.keep (announced : reception.Announced)
    (deferred : next.deferred = reception.deferred) (used : next.ring.used = reception.ring.used)
    (pass : next.pass = .idle → reception.pass = .idle) : next.Announced where
  enabled := deferred ▸ announced.enabled
  waiting waits idle := by
    rw [deferred]
    exact announced.waiting (used ▸ waits) (pass idle)

/-- While a pass is going on, only disabling matters. -/
theorem Announced.of_active (enabled : next.deferred.disabled = false)
    (active : next.pass ≠ .idle) : next.Announced where
  enabled := enabled
  waiting _ idle := absurd idle active

theorem Announced.step (announced : reception.Announced) (sound : reception.Sound)
    (step : Step reception event next) (alive : next.stage ≠ .dead) : next.Announced := by
  have enabled := announced.enabled
  cases step with
  | acquisitionFailed | slotMissing | postRefused | closed => exact absurd rfl alive
  | drained begun => exact absurd (sound.begun begun) alive
  | filed expected =>
      constructor
      · exact (DeferredWork.disabled_schedule _).trans enabled
      · intro _ _
        exact DeferredWork.scheduled_schedule enabled
  | passStarted entered =>
      obtain ⟨-, -, rfl⟩ := DeferredWork.enter?_eq_some entered
      exact .of_active enabled (by simp)
  | nothingLeft popping empty =>
      constructor
      · exact (DeferredWork.disabled_leave _).trans enabled
      · intro waits _
        unfold Ring.retire? at empty
        split at empty
        next none =>
          have nothing : reception.ring.used = 0 := by simpa [Ring.isEmpty] using none
          exact absurd nothing (Nat.ne_of_gt waits)
        next => contradiction
  | slotLost popping retired missing =>
      have accepts := sound.accepts_of_active alive (by simp [popping])
      exact absurd missing (sound.slot_ne_none_of_retire accepts retired)
  | slotSkipped popping => exact .of_active enabled (by simp [popping])
  | opened | setAside | walked | rejected | dropped | handedUp | judged | givenBack | kept | taken
  | refused => exact .of_active enabled (by simp)
  | unchanged | acquired | posted | passedOver | cameUp | postTaken | dismissed | dismissedTo =>
      exact announced.keep rfl rfl id

end Reception

/-! ## Runs -/

namespace Engine

variable {config : Config} {inputs : List Input}

/-- As long as the device lives, waiting buffers are announced. -/
theorem announced_run (alive : ((fresh config).run inputs).1.device.stage ≠ .dead) :
    ((fresh config).run inputs).1.reception.Announced := by
  induction inputs using List.reverseRecOn with
  | nil => exact Reception.announced_untouched
  | append_singleton inputs input hypothesis =>
      rw [run_concat] at alive ⊢
      obtain ⟨event, step, -⟩ :=
        (Moment.mk ((fresh config).run inputs).1 input).reception_step
      exact (hypothesis (step.alive alive)).step (sound_run config inputs).reception step alive

/-- As long as the device lives, every raise was followed by the beginning of a
pass, but for the one that may be open. -/
theorem raises_run (alive : ((fresh config).run inputs).1.device.stage ≠ .dead) :
    ((fresh config).run inputs).2.count .raise =
      ((fresh config).history inputs).passes +
        ((fresh config).run inputs).1.deferred.scheduled.toNat := by
  induction inputs using List.reverseRecOn with
  | nil => rfl
  | append_singleton inputs input hypothesis =>
      have sound := sound_run config inputs
      rw [run_concat] at alive
      obtain ⟨event, step, -⟩ :=
        (Moment.mk ((fresh config).run inputs).1 input).reception_step
      have before := hypothesis (step.alive alive)
      have balance := Moment.raises_add sound alive
      rw [run_concat, history_concat, run_effects, history_concat, List.flatMap_append,
        List.count_append, ← run_effects, before, History.passes_concat, Nat.add_assoc,
        Nat.add_assoc, ← balance]
      simp [Moment.raises]

/-- Pending receive work is announced, once.  Whatever transfers end and whoever
starts passes, until the device is dead: raises and passes are in balance up to the
open request, without a pass the work is not running and waiting buffers have an
open request, and an open request is not announced again. -/
theorem pending_work_announced (config : Config) (inputs : List Input)
    (alive : ((fresh config).run inputs).1.device.stage ≠ .dead) :
    let history := (fresh config).history inputs
    let engine := ((fresh config).run inputs).1
    ((fresh config).run inputs).2.count .raise =
        history.passes + engine.deferred.scheduled.toNat ∧
      (engine.pass = .idle →
        engine.deferred.running = false ∧
          (0 < engine.receiveOccupancy → engine.deferred.scheduled = true)) ∧
      ∀ moment ∈ history, moment.before.deferred.scheduled = true → .raise ∉ moment.effects := by
  intro history engine
  refine ⟨raises_run alive, ?_, fun moment _ scheduled => Moment.raise_notMem scheduled⟩
  intro idle
  constructor
  · have active := (sound_run config inputs).reception.running
    rw [← Bool.not_eq_true]
    exact fun running => active.mp running idle
  · exact fun waits => (announced_run alive).waiting waits idle

/-- The inputs of a run in which somebody starts a pass in vain after the pass over
two segments, a transfer ends in turn, and one that nobody posted ends behind it. -/
def forgedInputs : List Input :=
  aggregateInputs ++
    [.proceedPass fun _ => true, .startPass, .completeReceive ⟨386, ⟨[1]⟩, .io 5, 0⟩,
      .completeReceive ⟨7, ⟨[]⟩, .ok, 0⟩]

/-- In that run two passes begin, the second one for a transfer that ended during the
first, and a third is announced. -/
theorem pending_work_announced_forged :
    let history := (fresh .small).history forgedInputs
    let engine := ((fresh .small).run forgedInputs).1
    engine.device.stage ≠ .dead ∧ engine.pass = .idle ∧ 0 < engine.receiveOccupancy ∧
      history.passes = 2 ∧ engine.deferred.scheduled = true ∧
      ((fresh .small).run forgedInputs).2.count .raise = 3 := by
  have facts : ((fresh .small).run forgedInputs).1.device.stage ≠ .dead ∧
      ((fresh .small).run forgedInputs).1.pass = .idle ∧
      0 < ((fresh .small).run forgedInputs).1.receiveOccupancy ∧
      ((fresh .small).history forgedInputs).passes = 2 := by
    decide +kernel
  obtain ⟨alive, idle, waits, passes⟩ := facts
  obtain ⟨balance, boundary, -⟩ := pending_work_announced .small forgedInputs alive
  have scheduled := (boundary idle).2 waits
  rw [passes, scheduled] at balance
  exact ⟨alive, idle, waits, passes, scheduled, balance⟩

end Engine

end WlanDatapath
