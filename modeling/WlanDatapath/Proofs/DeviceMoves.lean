import WlanDatapath.Proofs.FlowControl

/-!
# What the inputs do to a device

The stage of life, the removal latch and the statistics flags change together, and
in a few ways only.  `Moment.DeviceMove` lists them, with the readings of statistics
that each of them schedules; `Moment.deviceMove` says that there are no others.

Most inputs leave the device alone.  Three tell it that the transport takes it to be
gone, and two handle the statistics: a transfer that ended well asks for a reading,
and a reading that is over is followed by another one or gives up the claim.
-/

namespace WlanDatapath

/-- The delay after which an act has statistics read. -/
def Effect.scheduled? : Effect → Option Nat
  | .scheduleStatistics delay => some delay
  | _ => none

theorem Effect.watches_scheduled? : Watches scheduled? .scheduleStatistics := by
  intro effect other
  cases effect <;> simp_all [kind, scheduled?]

namespace Moment

/-- The delays of the readings of statistics that are scheduled, in order. -/
def scheduled (moment : Moment) : List Nat :=
  moment.effects.filterMap Effect.scheduled?

/-- A reading of statistics is over. -/
def finishes (moment : Moment) : Bool :=
  match moment.input with
  | .finishStatistics => true
  | _ => false

/-- The oldest transfer in flight on an output endpoint ends well. -/
def completesWell (moment : Moment) : Bool :=
  moment.retiring?.any fun retired => retired.2.status.isOk

/-- Nothing happens that has to do with statistics. -/
def IsCalm (moment : Moment) : Prop :=
  moment.finishes = false ∧ moment.completesWell = false

/-- A frame is refused on the ground that the device is gone. -/
def IsSentInVain (moment : Moment) : Prop :=
  ∃ endpoint transfer refusal,
    .submitTransmit endpoint transfer (some refusal) ∈ moment.effects ∧ refusal.fatal = true

/-- What happens to the device, and the readings of statistics that are scheduled. -/
inductive DeviceMove (moment : Moment) : Device → List Nat → Prop where
  | kept (calm : moment.IsCalm) :
      DeviceMove moment moment.before.device []
  | started (calm : moment.IsCalm) :
      DeviceMove moment moment.before.device.start.2 []
  | killed (calm : moment.IsCalm) :
      DeviceMove moment moment.before.device.kill []
  | postRefused (calm : moment.IsCalm) {refusal : Refusal}
      (input : moment.input = .answerPost (some refusal)) (fatal : refusal.fatal = true) :
      DeviceMove moment moment.before.device.noteRemoval.2.kill []
  | repostRefused (calm : moment.IsCalm) {refusal : Refusal}
      (input : moment.input = .answerRepost (some refusal)) (fatal : refusal.fatal = true) :
      DeviceMove moment moment.before.device.noteRemoval.2 []
  | frameRefused (calm : moment.IsCalm) (vain : moment.IsSentInVain) :
      DeviceMove moment moment.before.device.noteRemoval.2 []
  | completed (unfinished : moment.finishes = false) (well : moment.completesWell = true) :
      DeviceMove moment moment.before.device.noteCompletion.claimReading.2
        (if moment.before.device.readingStatistics then []
        else [moment.before.config.statisticsDelay])
  | reread (finish : moment.finishes = true) (unsent : moment.completesWell = false)
      (more : moment.before.device.moreStatistics = true)
      (accepts : moment.before.device.accepts = true) :
      DeviceMove moment moment.before.device.takeCompletions.2
        [moment.before.config.statisticsRequeueDelay]
  | released (finish : moment.finishes = true) (unsent : moment.completesWell = false)
      (unneeded :
        (moment.before.device.moreStatistics && moment.before.device.accepts) = false) :
      DeviceMove moment moment.before.device.takeCompletions.2.releaseReading []

end Moment

/-! ## Frames -/

namespace Engine

variable (engine : Engine)

/-- A refusal that finds the device removed is among the acts. -/
theorem device_enqueue (memory : Memory) (answer : Transfer Outgoing → Option Refusal)
    (frame : Outgoing) (key queue : UInt8) :
    let step := engine.enqueue memory answer frame key queue
    step.1.device = engine.device ∨ step.1.device = engine.device.noteRemoval.2 ∧
      ∃ endpoint transfer refusal,
        .submitTransmit endpoint transfer (some refusal) ∈ step.2.1 ∧ refusal.fatal = true := by
  intro step
  have move := engine.sendMove_enqueue memory answer frame key queue
  change engine.SendMove memory answer frame key queue step at move
  generalize step = step at move ⊢
  cases move with
  | turnedDown | overflowed => exact .inl rfl
  | taken =>
      left
      unfold enterTransmit
      split <;> rfl
  | @refused _ _ _ refusal =>
      cases fatal : refusal.fatal
      · exact .inl (by simp [refuseTransmit, fatal])
      · exact .inr ⟨by simp [refuseTransmit, fatal], _, _, refusal, List.mem_cons_self, fatal⟩

variable {engine}

/-! ## The end of a transfer -/

theorem device_acceptTransmit (lane : Lane) (transfer : Transfer Outgoing) :
    (engine.acceptTransmit lane transfer).1.device =
      if transfer.status.isOk then engine.device.noteCompletion.claimReading.2
      else engine.device := by
  unfold acceptTransmit
  simp only
  split <;> rfl

theorem scheduled_acceptTransmit (lane : Lane) (transfer : Transfer Outgoing) :
    (engine.acceptTransmit lane transfer).2.filterMap Effect.scheduled? =
      if transfer.status.isOk then
        if engine.device.readingStatistics then [] else [engine.config.statisticsDelay]
      else [] := by
  rw [snd_acceptTransmit]
  cases transfer.status.isOk <;> cases engine.device.readingStatistics <;> split <;> rfl

/-- The transfer whose turn it is is taken by its endpoint. -/
theorem completeTransmit_of_awaits {address : UInt8} {transfer : Transfer Outgoing} {lane : Lane}
    (found : engine.config.lane? address = some lane)
    (awaits : (engine.transmit.get lane).Awaits transfer.handle) :
    engine.completeTransmit address transfer =
      ((engine.acceptTransmit lane transfer).1,
        engine.complaint transfer.status (.transmitFailed transfer.handle transfer.status) ++
          (engine.acceptTransmit lane transfer).2) := by
  obtain ⟨complete, present, expected⟩ := awaits
  simp [completeTransmit, found, complete, present, expected]

/-- Any other transfer is only written to the log. -/
theorem completeTransmit_of_unexpected {address : UInt8} {transfer : Transfer Outgoing}
    (unexpected : (Moment.mk engine (.completeTransmit address transfer)).retiring? = none) :
    (engine.completeTransmit address transfer).1.device = engine.device ∧
      ∀ effect ∈ (engine.completeTransmit address transfer).2, effect.kind = .log := by
  have complaint := engine.kind_complaint transfer.status
    (.transmitFailed transfer.handle transfer.status)
  obtain ⟨step, move, same⟩ := engine.exists_returnMove address transfer
  rw [same]
  cases move with
  | dismissed line =>
      exact ⟨rfl, List.forall_mem_append.mpr ⟨complaint, engine.kind_dismissTransmit line⟩⟩
  | ignored => exact ⟨rfl, List.forall_mem_append.mpr ⟨complaint, by simp⟩⟩
  | accepted found awaits =>
      simp [Moment.retiring?, Moment.sent?, found, awaits] at unexpected

end Engine

/-! ## Every input -/

namespace Moment

variable {engine : Engine}

/-- An input other than the end of a transfer and of a reading has nothing to do with
statistics. -/
theorem scheduled_eq_nil {moment : Moment}
    (other : .scheduleStatistics ∉ moment.input.kinds) : moment.scheduled = [] :=
  Effect.watches_scheduled?.effects_eq_nil moment other

theorem deviceMove_startBringUp (supply : Supply) :
    let moment := mk engine (.startBringUp supply)
    moment.DeviceMove moment.after.device [] := by
  intro moment
  have acquired := engine.device_acquire supply acquisitions
  rw [after_startBringUp, Engine.startBringUp]
  split
  · exact .kept ⟨rfl, rfl⟩
  · split
    next after effects failure result =>
      rw [result] at acquired
      show moment.DeviceMove after.device.kill []
      rw [acquired]
      exact .killed ⟨rfl, rfl⟩
    next after effects result =>
      rw [result] at acquired
      show moment.DeviceMove after.device.start.2 []
      rw [acquired]
      exact .started ⟨rfl, rfl⟩

theorem deviceMove_proceedBringUp :
    let moment := mk engine .proceedBringUp
    moment.DeviceMove moment.after.device [] := by
  intro moment
  rw [after_proceedBringUp]
  cases proceeds : engine.proceedBringUp? with
  | none => exact .kept ⟨rfl, rfl⟩
  | some step =>
      cases Engine.bringUpMove_of_proceeds proceeds with
      | posts | passes | comesUp => exact .kept ⟨rfl, rfl⟩
      | abandons => exact .killed ⟨rfl, rfl⟩
      | fails _ finish =>
          obtain ⟨-, -, rfl⟩ := Engine.finishTeardown?_eq_some finish
          exact .kept ⟨rfl, rfl⟩

theorem deviceMove_answerPost (refusal : Option Refusal) :
    let moment := mk engine (.answerPost refusal)
    moment.DeviceMove moment.after.device [] := by
  intro moment
  rw [after_answerPost, Engine.answerPost]
  split
  · split
    · exact .kept ⟨rfl, rfl⟩
    next refusal =>
      show moment.DeviceMove (if refusal.fatal then _ else _ : Device).kill []
      cases fatal : refusal.fatal
      · exact .killed ⟨rfl, rfl⟩
      · exact .postRefused ⟨rfl, rfl⟩ rfl fatal
  all_goals exact .kept ⟨rfl, rfl⟩

theorem deviceMove_answerRepost (refusal : Option Refusal) :
    let moment := mk engine (.answerRepost refusal)
    moment.DeviceMove moment.after.device [] := by
  intro moment
  rw [after_answerRepost, Engine.answerRepost]
  split
  · split
    · exact .kept ⟨rfl, rfl⟩
    next refusal =>
      show moment.DeviceMove (if refusal.fatal then _ else _ : Device) []
      cases fatal : refusal.fatal
      · exact .kept ⟨rfl, rfl⟩
      · exact .repostRefused ⟨rfl, rfl⟩ rfl fatal
  · exact .kept ⟨rfl, rfl⟩

theorem deviceMove_enqueue (memory : Memory) (answer : Transfer Outgoing → Option Refusal)
    (frame : Outgoing) (key queue : UInt8) :
    let moment := mk engine (.enqueue memory answer frame key queue)
    moment.DeviceMove moment.after.device [] := by
  intro moment
  rcases engine.device_enqueue memory answer frame key queue with same | ⟨noted, vain⟩
  · rw [after_enqueue, same]
    exact .kept ⟨rfl, rfl⟩
  · rw [after_enqueue, noted]
    exact .frameRefused ⟨rfl, rfl⟩ vain

theorem deviceMove_completeTransmit (address : UInt8) (transfer : Transfer Outgoing) :
    let moment := mk engine (.completeTransmit address transfer)
    moment.DeviceMove moment.after.device moment.scheduled := by
  intro moment
  cases retiring : moment.retiring? with
  | none =>
      obtain ⟨device, calm⟩ := engine.completeTransmit_of_unexpected retiring
      have unscheduled : moment.scheduled = [] :=
        Effect.watches_scheduled?.filterMap_logs (by decide) calm
      rw [unscheduled, after_completeTransmit, device]
      exact .kept ⟨rfl, by rw [completesWell, retiring]; rfl⟩
  | some retired =>
      obtain ⟨lane, same⟩ := retired
      obtain ⟨address, sent, found, awaits⟩ := retiring?_eq_some retiring
      cases sent
      have well : moment.completesWell = transfer.status.isOk := by
        rw [completesWell, retiring]
        rfl
      rw [scheduled, after_completeTransmit, effects_completeTransmit,
        Engine.completeTransmit_of_awaits found awaits, List.filterMap_append,
        Effect.watches_scheduled?.filterMap_logs (by decide) (engine.kind_complaint _ _),
        List.nil_append, Engine.device_acceptTransmit, Engine.scheduled_acceptTransmit]
      cases status : transfer.status.isOk
      · exact .kept ⟨rfl, well.trans status⟩
      · exact .completed rfl (well.trans status)

theorem deviceMove_finishStatistics :
    let moment := mk engine .finishStatistics
    moment.DeviceMove moment.after.device moment.scheduled := by
  intro moment
  rw [scheduled, after_finishStatistics, effects_finishStatistics, Engine.finishStatistics]
  split
  next again =>
    rw [Bool.and_eq_true] at again
    exact .reread rfl rfl again.1 again.2
  next unneeded => exact .released rfl rfl (Bool.eq_false_of_not_eq_true unneeded)

/-- Every moment changes the device in one of these ways. -/
theorem deviceMove (moment : Moment) : moment.DeviceMove moment.after.device moment.scheduled := by
  obtain ⟨engine, input⟩ := moment
  have silent : .scheduleStatistics ∉ input.kinds →
      (mk engine input).DeviceMove (mk engine input).after.device [] →
      (mk engine input).DeviceMove (mk engine input).after.device (mk engine input).scheduled := by
    intro other move
    rwa [scheduled_eq_nil other]
  have still : .scheduleStatistics ∉ input.kinds → (mk engine input).IsCalm →
      (mk engine input).after.device = engine.device →
      (mk engine input).DeviceMove (mk engine input).after.device (mk engine input).scheduled := by
    intro other calm same
    refine silent other ?_
    rw [same]
    exact .kept calm
  cases input with
  | startBringUp supply => exact silent (by simp [Input.kinds]) (deviceMove_startBringUp supply)
  | proceedBringUp => exact silent (by simp [Input.kinds]) deviceMove_proceedBringUp
  | answerPost refusal => exact silent (by simp [Input.kinds]) (deviceMove_answerPost refusal)
  | completeReceive | startPass | proceedPass | answerDelivery =>
      exact still (by simp [Input.kinds]) ⟨rfl, rfl⟩ (receives rfl).device
  | answerRepost refusal => exact silent (by simp [Input.kinds]) (deviceMove_answerRepost refusal)
  | enqueue memory answer frame key queue =>
      exact silent (by simp [Input.kinds]) (deviceMove_enqueue memory answer frame key queue)
  | completeTransmit address transfer => exact deviceMove_completeTransmit address transfer
  | finishStatistics => exact deviceMove_finishStatistics
  | beginTeardown => exact silent (by simp [Input.kinds]) (.killed ⟨rfl, rfl⟩)
  | finishTeardown =>
      refine still (by simp [Input.kinds]) ⟨rfl, rfl⟩ ?_
      rw [after_finishTeardown]
      cases finish : engine.finishTeardown? with
      | none => rfl
      | some finished =>
          obtain ⟨-, -, rfl⟩ := Engine.finishTeardown?_eq_some finish
          rfl

end Moment

end WlanDatapath
