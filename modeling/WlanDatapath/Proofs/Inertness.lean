import WlanDatapath.Proofs.Custody

/-!
# Before and after the life of a device

An engine whose device was only created does nothing until it is brought up, and an
engine whose teardown is over does nothing any more.  Late and forged completions,
frames to be sent, requests for a pass, answers that nobody awaits and further
teardowns write at most to the log, and the only count they add to is that of
transmit transfers that ended on an address which is no output endpoint.

Both are the same state, `Engine.Inert`: the device does not accept, the rings are
empty, there is no pass, and none is requested.  `Engine.Inert.step` says that it is
kept by every input except one that brings a created device up, and
`Moment.Inert` what such a moment amounts to.
-/

namespace WlanDatapath

/-! ## Inert engines -/

/-- An engine that has nothing and has nothing to do. -/
structure Engine.Inert (engine : Engine) : Prop where
  shut : engine.device.accepts = false
  receive : engine.receive = .empty receiveSlots
  transmit : ∀ lane : Lane, engine.transmit.get lane = .empty transmitSlots
  idle : engine.pass = .idle
  unscheduled : engine.deferred.scheduled = false

/-- An input that asks for a service, and so for a result. -/
def Input.isRequest : Input → Bool
  | .startBringUp _ | .enqueue _ _ _ _ _ => true
  | .proceedBringUp | .answerPost _ | .completeReceive _ | .startPass | .proceedPass _
  | .answerDelivery _ | .answerRepost _ | .completeTransmit _ _ | .finishStatistics
  | .beginTeardown | .finishTeardown => false

namespace Moment

/-- A transmit transfer ends on an address that is no output endpoint. -/
def isAstray (moment : Moment) : Bool :=
  match moment.input with
  | .completeTransmit address _ => (moment.before.config.lane? address).isNone
  | _ => false

/-- A device that was only created is brought up. -/
def awakens (moment : Moment) : Bool :=
  match moment.input with
  | .startBringUp _ => moment.before.device.stage == .created
  | _ => false

/-- Nothing comes of the input but lines of the log. -/
structure Inert (moment : Moment) : Prop where
  /-- No call is made. -/
  silent : ∀ effect ∈ moment.effects, effect.kind = .log
  /-- A service is refused. -/
  refused : moment.input.isRequest = true → moment.reply = .over (.error (.failure .notReady))
  /-- No pass starts. -/
  unstarted : moment.input = .startPass → moment.reply = .started false
  /-- Only transfers on unknown addresses are counted. -/
  counters : moment.after.counters =
    { moment.before.counters with
      txMismatches := moment.before.counters.txMismatches + if moment.isAstray then 1 else 0 }
  receiveOccupancy : moment.after.receiveOccupancy = 0
  transmitOccupancy : ∀ lane : Lane, moment.after.transmitOccupancy? lane = some 0

end Moment

namespace Engine

variable {engine : Engine}

namespace Inert

theorem receiveOccupancy_eq (inert : engine.Inert) : engine.receiveOccupancy = 0 := by
  rw [receiveOccupancy, inert.receive]
  rfl

theorem transmitOccupancy?_eq (inert : engine.Inert) (lane : Lane) :
    engine.transmitOccupancy? lane = some 0 := by
  have found : engine.transmit[lane.val]? = some (engine.transmit.get lane) :=
    Vector.getElem?_eq_getElem lane.isLt
  rw [transmitOccupancy?, found, inert.transmit lane]
  rfl

/-- Only these parts of an engine make it inert. -/
theorem congr {other : Engine} (inert : engine.Inert)
    (device : other.device.accepts = engine.device.accepts)
    (receive : other.receive = engine.receive)
    (transmit : other.transmit = engine.transmit) (pass : other.pass = engine.pass)
    (deferred : other.deferred.scheduled = engine.deferred.scheduled) : other.Inert where
  shut := device.trans inert.shut
  receive := receive.trans inert.receive
  transmit := transmit ▸ inert.transmit
  idle := pass.trans inert.idle
  unscheduled := deferred.trans inert.unscheduled

/-! ## Reception -/

theorem completeReceive_eq (inert : engine.Inert) (transfer : Transfer Buffer) :
    engine.completeReceive transfer =
      (engine, engine.complaint transfer.status
        (.receiveFailed transfer.handle transfer.status)) := by
  have incomplete : engine.receive.isComplete = false := by
    rw [inert.receive]
    decide
  simp [completeReceive, incomplete]

theorem startPass_eq (inert : engine.Inert) : engine.startPass = (false, engine) := by
  simp [startPass, DeferredWork.enter?, inert.unscheduled]

theorem proceedPass?_eq (inert : engine.Inert) (memory : Memory) :
    engine.proceedPass? memory = none := by
  simp [proceedPass?, inert.idle]

theorem answerDelivery_eq (inert : engine.Inert) (accepted : Bool) :
    engine.answerDelivery accepted = engine := by
  simp [answerDelivery, inert.idle]

theorem answerRepost_eq (inert : engine.Inert) (refusal : Option Refusal) :
    engine.answerRepost refusal = (engine, []) := by
  simp [answerRepost, inert.idle]

/-! ## Transmission -/

theorem enqueue_eq (inert : engine.Inert) (memory : Memory)
    (answer : Transfer Outgoing → Option Refusal) (frame : Outgoing) (key queue : UInt8) :
    engine.enqueue memory answer frame key queue = (engine, [], .error (.failure .notReady)) := by
  simp [enqueue, inert.shut]

/-- A transfer on an output endpoint finds its ring gone; one on any other address is
counted. -/
theorem completeTransmit (inert : engine.Inert) (address : UInt8) (transfer : Transfer Outgoing) :
    (engine.completeTransmit address transfer).1.Inert ∧
      (engine.completeTransmit address transfer).1.counters = { engine.counters with
        txMismatches := engine.counters.txMismatches +
          if (engine.config.lane? address).isNone then 1 else 0 } ∧
      ∀ effect ∈ (engine.completeTransmit address transfer).2, effect.kind = .log := by
  have complaint := engine.kind_complaint transfer.status
    (.transmitFailed transfer.handle transfer.status)
  unfold Engine.completeTransmit
  cases engine.config.lane? address with
  | none =>
      refine ⟨inert.congr rfl rfl rfl rfl rfl, rfl, ?_⟩
      rw [List.forall_mem_append]
      exact ⟨complaint, engine.kind_dismissTransmit _⟩
  | some lane =>
      have incomplete : (engine.transmit.get lane).isComplete = false := by
        rw [inert.transmit lane]
        decide
      simp only [incomplete, Bool.not_false, if_true, List.append_nil]
      exact ⟨inert, rfl, complaint⟩

theorem finishStatistics_eq (inert : engine.Inert) :
    engine.finishStatistics =
      ({ engine with device := engine.device.takeCompletions.2.releaseReading }, []) := by
  simp [finishStatistics, inert.shut]

/-! ## Bringing up and tearing down -/

theorem beginTeardown_effects (inert : engine.Inert) : engine.beginTeardown.2 = [] := by
  simp [beginTeardown, inert.receive, Ring.empty]

theorem beginTeardown (inert : engine.Inert) : engine.beginTeardown.1.Inert where
  shut := accepts_beginTeardown engine
  receive := inert.receive
  transmit := inert.transmit
  idle := inert.idle
  unscheduled := inert.unscheduled

/-- There is nothing left to give back. -/
theorem finishTeardown? (inert : engine.Inert) {finished : Engine × List Effect}
    (finish : engine.finishTeardown? = some finished) :
    finished.1.Inert ∧ finished.2 = [] ∧ finished.1.counters = engine.counters := by
  obtain ⟨-, -, rfl⟩ := finishTeardown?_eq_some finish
  refine ⟨⟨inert.shut, ?_, ?_, inert.idle, rfl⟩, ?_, rfl⟩
  · simp [inert.receive, Ring.drain, Ring.empty]
  · intro lane
    simp [inert.transmit lane, Ring.drain, Ring.empty]
  · simp [inert.receive, inert.transmit, Ring.drain, releaseLane, Ring.empty]

theorem abandon (inert : engine.Inert) (failure : Failure) :
    (engine.abandon failure).1.Inert ∧
      (engine.abandon failure).2 = [.log (.bringUpFailed failure)] := by
  refine ⟨inert.beginTeardown.congr rfl rfl rfl rfl rfl, ?_⟩
  rw [Engine.abandon, inert.beginTeardown_effects]

/-- A post whose slot is gone is given up. -/
theorem answerPost (inert : engine.Inert) (refusal : Option Refusal) :
    (engine.answerPost refusal).1.Inert ∧
      (∀ effect ∈ (engine.answerPost refusal).2, effect.kind = .log) ∧
      (engine.answerPost refusal).1.counters = engine.counters := by
  unfold Engine.answerPost
  split
  next work submitting =>
    split
    · exact ⟨inert.congr rfl rfl rfl rfl rfl, by simp, rfl⟩
    next refusal =>
      have kept : (Engine.putBackAt { engine with
          device := if refusal.fatal then engine.device.noteRemoval.2 else engine.device }
            work.index work.buffer).Inert := by
        refine inert.congr ?_ ?_ rfl rfl rfl
        · show (if _ then _ else _ : Device).accepts = _
          split
          · exact engine.device.accepts_noteRemoval
          · rfl
        · simp [putBackAt, inert.receive, Ring.modify, Ring.empty]
      obtain ⟨after, log⟩ := kept.abandon (.ofStatus refusal.status)
      refine ⟨after, ?_, rfl⟩
      rw [log]
      simp [Effect.kind]
  all_goals exact ⟨inert, by simp, rfl⟩

theorem proceedBringUp? (inert : engine.Inert) {step : BringUpStep}
    (proceeds : engine.proceedBringUp? = some step) :
    step.1.Inert ∧ (∀ effect ∈ step.2.1, effect.kind = .log) ∧
      step.1.counters = engine.counters := by
  have missing : ∀ index : Nat, engine.receive.slots[index]? = none := by
    intro index
    simp [inert.receive, Ring.empty]
  cases bringUpMove_of_proceeds proceeds with
  | posts _ _ found | passes _ _ found =>
      rw [missing] at found
      contradiction
  | abandons =>
      obtain ⟨after, log⟩ := inert.abandon .notReady
      refine ⟨after, ?_, rfl⟩
      rw [log]
      simp [Effect.kind]
  | comesUp => exact ⟨inert.congr rfl rfl rfl rfl rfl, by simp [Effect.kind], rfl⟩
  | fails _ finish =>
      obtain ⟨after, silent, counters⟩ := inert.finishTeardown? finish
      exact ⟨after.congr rfl rfl rfl rfl rfl, by simp [silent], counters⟩

/-! ## Every input -/

/-- A moment is inert if it leads to such an engine, is silent and refuses what it
should, and counts a transmit transfer at most. -/
theorem moment_of_leads {moment : Moment} (step : Engine × List Effect)
    (leads : (moment.after, moment.effects) = step) (inert : step.1.Inert)
    (silent : ∀ effect ∈ step.2, effect.kind = .log)
    (counters : step.1.counters = { moment.before.counters with
      txMismatches := moment.before.counters.txMismatches + if moment.isAstray then 1 else 0 })
    (refused : moment.input.isRequest = true → moment.reply = .over (.error (.failure .notReady)))
    (unstarted : moment.input = .startPass → moment.reply = .started false) :
    moment.after.Inert ∧ moment.Inert := by
  subst leads
  exact ⟨inert, silent, refused, unstarted, counters, inert.receiveOccupancy_eq,
    inert.transmitOccupancy?_eq⟩

/-- An input that asks for no service and starts no pass has nothing to refuse. -/
theorem moment_of_plain {moment : Moment} (step : Engine × List Effect)
    (leads : (moment.after, moment.effects) = step) (inert : step.1.Inert)
    (silent : ∀ effect ∈ step.2, effect.kind = .log)
    (counters : step.1.counters = { moment.before.counters with
      txMismatches := moment.before.counters.txMismatches + if moment.isAstray then 1 else 0 })
    (plain : moment.input.isRequest = false) (other : moment.triesPass = false) :
    moment.after.Inert ∧ moment.Inert := by
  refine moment_of_leads step leads inert silent counters (fun asks => ?_) (fun starts => ?_)
  · rw [plain] at asks
    contradiction
  · rw [Moment.triesPass, starts] at other
    contradiction

/-- **An inert engine stays inert** at every input that does not bring a created
device up, and nothing comes of the input. -/
theorem step {moment : Moment} (inert : moment.before.Inert) (asleep : moment.awakens = false) :
    moment.after.Inert ∧ moment.Inert := by
  obtain ⟨engine, input⟩ := moment
  replace inert : engine.Inert := inert
  -- where nothing happens at all
  have still : ∀ effect ∈ ([] : List Effect), effect.kind = .log := by simp
  cases input with
  | startBringUp supply =>
      have refused : engine.startBringUp supply = (engine, [], some (.error .notReady)) :=
        if_pos (by simpa [Moment.awakens] using asleep)
      refine moment_of_leads (engine, []) ?_ inert still rfl ?_ (by simp)
      · simp [refused]
      · simp [Moment.reply, Engine.step, refused, ofBringUpStep, Except.mapError]
  | proceedBringUp =>
      cases proceeds : engine.proceedBringUp? with
      | none => exact moment_of_plain (engine, []) (by simp [proceeds]) inert still rfl rfl rfl
      | some step =>
          obtain ⟨after, silent, counters⟩ := inert.proceedBringUp? proceeds
          exact moment_of_plain (step.1, step.2.1) (by simp [proceeds]) after silent counters
            rfl rfl
  | answerPost refusal =>
      obtain ⟨after, silent, counters⟩ := inert.answerPost refusal
      exact moment_of_plain _ rfl after silent counters rfl rfl
  | completeReceive transfer =>
      exact moment_of_plain _ (inert.completeReceive_eq transfer) inert
        (engine.kind_complaint _ _) rfl rfl rfl
  | startPass =>
      refine moment_of_leads (engine, []) ?_ inert still rfl (by simp [Input.isRequest]) ?_
      · simp [inert.startPass_eq]
      · simp [Moment.reply, Engine.step, inert.startPass_eq]
  | proceedPass memory =>
      exact moment_of_plain (engine, []) (by simp [inert.proceedPass?_eq]) inert still rfl
        rfl rfl
  | answerDelivery accepted =>
      exact moment_of_plain (engine, []) (by simp [inert.answerDelivery_eq]) inert still rfl
        rfl rfl
  | answerRepost refusal =>
      exact moment_of_plain _ (inert.answerRepost_eq refusal) inert still rfl rfl rfl
  | enqueue memory answer frame key queue =>
      have refused := inert.enqueue_eq memory answer frame key queue
      refine moment_of_leads (engine, []) ?_ inert still rfl ?_ (by simp)
      · simp [refused]
      · simp [Moment.reply, Engine.step, refused]
  | completeTransmit address transfer =>
      obtain ⟨after, counters, silent⟩ := inert.completeTransmit address transfer
      exact moment_of_plain _ rfl after silent counters rfl rfl
  | finishStatistics =>
      exact moment_of_plain _ inert.finishStatistics_eq (inert.congr rfl rfl rfl rfl rfl) still
        rfl rfl rfl
  | beginTeardown =>
      exact moment_of_plain _ rfl inert.beginTeardown (by simp [inert.beginTeardown_effects]) rfl
        rfl rfl
  | finishTeardown =>
      cases finish : engine.finishTeardown? with
      | none => exact moment_of_plain (engine, []) (by simp [finish]) inert still rfl rfl rfl
      | some finished =>
          obtain ⟨after, silent, counters⟩ := inert.finishTeardown? finish
          exact moment_of_plain finished (by simp [finish]) after (by simp [silent]) counters
            rfl rfl

/-- A run of an inert engine that does not bring a created device up is inert
throughout. -/
theorem run (inert : engine.Inert) (inputs : List Input)
    (asleep : ∀ moment ∈ engine.history inputs, moment.awakens = false) :
    (engine.run inputs).1.Inert ∧ ∀ moment ∈ engine.history inputs, moment.Inert := by
  induction inputs generalizing engine with
  | nil => exact ⟨inert, by simp⟩
  | cons input later hypothesis =>
      rw [history, List.forall_mem_cons] at asleep
      obtain ⟨next, first⟩ := inert.step asleep.1
      obtain ⟨last, rest⟩ := hypothesis next asleep.2
      rw [history, List.forall_mem_cons]
      exact ⟨last, first, rest⟩

end Inert

/-! ## Where engines are inert -/

theorem Sound.inert_of_created (sound : engine.Sound) (created : engine.device.stage = .created) :
    engine.Inert := by
  have untouched := sound.reception.untouched created
  refine ⟨?_, ?_, sound.transmission.untouched created, ?_, ?_⟩
  · rw [Device.accepts, created]
    rfl
  · exact congrArg Reception.ring untouched
  · exact congrArg Reception.pass untouched
  · exact congrArg (fun reception => reception.deferred.scheduled) untouched

/-- A teardown that is over was finished just now. -/
theorem finished_of_isReleased {moment : Moment} (released : moment.isReleased = true) :
    ∃ finished bringUp, moment.before.finishTeardown? = some finished ∧
      moment.after = { finished.1 with bringUp := bringUp } := by
  obtain ⟨engine, input⟩ := moment
  cases input with
  | finishTeardown =>
      cases finish : engine.finishTeardown? with
      | none => simp [Moment.isReleased, Moment.reply, Engine.step, unlessStuck, finish] at released
      | some finished => exact ⟨finished, finished.1.bringUp, rfl, by simp [finish]⟩
  | proceedBringUp =>
      cases proceeds : engine.proceedBringUp? with
      | none => simp [Moment.isReleased, Moment.reply, Engine.step, proceeds] at released
      | some step =>
          simp only [Moment.isReleased, Moment.reply, Engine.step, proceeds,
            ofBringUpStep] at released
          cases bringUpMove_of_proceeds proceeds with
          | posts | passes | abandons | comesUp => cases released
          | fails _ finish => exact ⟨_, .idle, finish, by simp [proceeds]⟩
  | startBringUp | answerPost | completeReceive | startPass | proceedPass | answerDelivery
  | answerRepost | enqueue | completeTransmit | finishStatistics | beginTeardown =>
      cases released

/-- Once a teardown is over, the engine is inert. -/
theorem Sound.inert_of_isReleased {moment : Moment} (sound : moment.before.Sound)
    (released : moment.isReleased = true) : moment.after.Inert := by
  obtain ⟨finished, bringUp, finish, leads⟩ := finished_of_isReleased released
  obtain ⟨begun, quiet, rfl⟩ := finishTeardown?_eq_some finish
  have idle : moment.before.pass = .idle := by
    by_contra active
    have running := sound.reception.running.mpr active
    rw [Engine.reception, quiet] at running
    contradiction
  rw [leads]
  refine ⟨?_, ?_, ?_, idle, rfl⟩
  · have dead : moment.before.device.stage = .dead := sound.reception.begun begun
    simp [Device.accepts, dead]
  · exact congrArg Ring.empty sound.reception.capacity
  · intro lane
    have capacity : (moment.before.transmit.get lane).capacity = transmitSlots :=
      sound.transmission.capacity lane
    simp [Ring.drain, capacity]

/-- A dead device is not brought up again. -/
theorem asleep_of_dead (dead : engine.device.stage = .dead) (inputs : List Input) :
    ∀ moment ∈ engine.history inputs, moment.awakens = false := by
  intro moment member
  obtain ⟨past, later, split⟩ := List.append_of_mem member
  obtain ⟨before, input, after, -, -, rfl, -⟩ := history_eq_append_cons split
  have still := dead_run dead before
  cases input <;> simp [Moment.awakens, still]

/-- Behind the end of a teardown a run stays inert. -/
theorem Sound.inert_run {engine : Engine} (sound : engine.Sound) {inputs : List Input}
    {moment : Moment} (member : moment ∈ engine.history inputs)
    (released : moment.isReleased = true) :
    (engine.run inputs).1.Inert ∧ (engine.run inputs).1.device.stage = .dead := by
  have before := sound.of_mem member
  have inert := before.inert_of_isReleased released
  have dead := (Moment.emptied_of_isReleased before released).dead
  obtain ⟨past, later, split⟩ := List.append_of_mem member
  obtain ⟨early, input, late, rfl, -, rfl, -⟩ := history_eq_append_cons split
  rw [run_append, run_cons]
  exact ⟨(inert.run late (asleep_of_dead dead late)).1, dead_run dead late⟩

/-- A device that is not asked to start is not brought up. -/
theorem asleep_of_unasked {inputs : List Input}
    (unasked : ∀ input ∈ inputs, ∀ supply, input ≠ .startBringUp supply) :
    ∀ moment ∈ engine.history inputs, moment.awakens = false := by
  intro moment member
  obtain ⟨past, later, split⟩ := List.append_of_mem member
  obtain ⟨before, input, after, rfl, -, rfl, -⟩ := history_eq_append_cons split
  cases input with
  | startBringUp supply => exact absurd rfl (unasked _ (by simp) supply)
  | _ => rfl

/-- **Before and after its life an engine does nothing.**

The engine of a run was only created and is not brought up in the moments that
follow, or a teardown was finished, be it of a device that was up, of one that was
never brought up, or of one whose bringing up failed.  Then at every later input,
whatever it is, no call is made, services are refused, no pass starts, the rings stay
empty and nothing is counted but transmit transfers on unknown addresses.  Throughout
the run a dead device stays dead. -/
theorem inert_outside_life (config : Config) (before after : List Input)
    (outside :
      ((fresh config).run before).1.device.stage = .created ∧
          (∀ input ∈ after, ∀ supply, input ≠ .startBringUp supply) ∨
        ∃ moment ∈ (fresh config).history before, moment.isReleased = true) :
    let engine := ((fresh config).run before).1
    engine.receiveOccupancy = 0 ∧ (∀ lane : Lane, engine.transmitOccupancy? lane = some 0) ∧
      (∀ moment ∈ engine.history after, moment.Inert) ∧
      ∀ moment ∈ (fresh config).history (before ++ after),
        moment.before.device.stage = .dead → moment.after.device.stage = .dead := by
  intro engine
  have inert : engine.Inert ∧ ∀ moment ∈ engine.history after, moment.awakens = false := by
    rcases outside with ⟨created, unasked⟩ | ⟨moment, member, released⟩
    · exact ⟨(sound_run config before).inert_of_created created, asleep_of_unasked unasked⟩
    · obtain ⟨inert, dead⟩ := (sound_fresh config).inert_run member released
      exact ⟨inert, asleep_of_dead dead after⟩
  exact ⟨inert.1.receiveOccupancy_eq, inert.1.transmitOccupancy?_eq,
    (inert.1.run after inert.2).2, fun moment _ dead => dead_run dead [moment.input]⟩

/-- Inputs that nobody should make of an engine without a device: transfers that end,
one of them on an unknown address, a frame to be sent, a pass, an answer, a reading of
statistics, and a teardown. -/
def futileInputs : List Input :=
  let all : Memory := fun _ => true
  let frame : Outgoing := ⟨[], 1, 0, false⟩
  [.completeReceive ⟨384, ⟨[1]⟩, .ok, 1⟩, .completeTransmit 8 ⟨0, frame, .ok, 0⟩,
    .completeTransmit 99 ⟨0, frame, .io 5, 0⟩, .startPass, .proceedPass all,
    .enqueue all (fun _ => none) frame 0xff 0, .answerPost none, .answerRepost none,
    .finishStatistics, .beginTeardown, .finishTeardown]

/-- They come to nothing before a device is brought up.  They come to nothing once a
device was torn down that had a frame in flight and a received buffer waiting, and such
a device is not brought up again. -/
theorem inert_outside_life_futile :
    let torn := bringUpInputs ++
      [.enqueue (fun _ => true) (fun _ => none) ⟨[], 1, 0, false⟩ 0xff 0,
        .completeReceive ⟨384, ⟨[1]⟩, .ok, 1⟩, .beginTeardown, .finishTeardown]
    let late := futileInputs ++ [.startBringUp .ample]
    let engine := ((fresh .small).run torn).1
    (∃ moment ∈ (fresh .small).history torn, moment.isReleased = true) ∧
      (∀ moment ∈ engine.history late, moment.Inert) ∧
      engine.counters.rxCompletions = 1 ∧ engine.counters.txSubmitted = 1 ∧
      (engine.run late).1.counters.txMismatches = 1 ∧
      (∀ moment ∈ (fresh .small).history futileInputs, moment.Inert) ∧
      ((fresh .small).run futileInputs).1.counters.txMismatches = 1 := by
  intro torn late engine
  have facts : (∃ moment ∈ (fresh .small).history torn, moment.isReleased = true) ∧
      engine.counters.rxCompletions = 1 ∧ engine.counters.txSubmitted = 1 ∧
      (engine.run late).1.counters.txMismatches = 1 ∧
      ((fresh .small).run futileInputs).1.counters.txMismatches = 1 := by
    decide +kernel
  obtain ⟨released, received, submitted, lateMismatch, earlyMismatch⟩ := facts
  have unasked : ∀ input ∈ futileInputs, ∀ supply, input ≠ .startBringUp supply := by
    simp [futileInputs]
  obtain ⟨-, -, after, -⟩ := inert_outside_life .small torn late (Or.inr released)
  obtain ⟨-, -, before, -⟩ := inert_outside_life .small [] futileInputs (Or.inl ⟨rfl, unasked⟩)
  exact ⟨released, after, received, submitted, lateMismatch, before, earlyMismatch⟩

end Engine

end WlanDatapath
