import WlanDatapath.Proofs.Custody
import WlanDatapath.Proofs.TransmitOrder

/-!
# Flow control of the upper queues

A queue is stopped when a frame of it fills the ring of an output endpoint, and a
queue is woken when a transfer of it takes the ring down through the watermark.
`Moment.filling?` and `Moment.draining?` say when the number of transfers in
flight crosses these two levels, from 63 to 64 and from 56 to 55; the engine signals
there and nowhere else.

The two signals name the queues of two different frames.  On an endpoint that
serves one upper queue only they agree, and a queue that was stopped is woken
before the ring is below the watermark.  On an endpoint that is shared they need
not agree, and a queue can be left stopped.
-/

namespace WlanDatapath

/-! ## Signals to the queues -/

/-- The upper queue that an act stops. -/
def Effect.stopped? : Effect → Option UInt8
  | .stopQueue queue => some queue
  | _ => none

/-- The upper queue that an act wakes. -/
def Effect.woken? : Effect → Option UInt8
  | .wakeQueue queue => some queue
  | _ => none

theorem Effect.watches_stopped? : Watches stopped? .stopQueue := by
  intro effect other
  cases effect <;> simp_all [kind, stopped?]

theorem Effect.watches_woken? : Watches woken? .wakeQueue := by
  intro effect other
  cases effect <;> simp_all [kind, woken?]

/-- How often queues were stopped, and how often they were woken. -/
def Counters.signals (counters : Counters) : Nat × Nat :=
  (counters.txStops, counters.txWakes)

instance (ring : Ring Handle) (handle : Handle) : Decidable (ring.Awaits handle) :=
  inferInstanceAs (Decidable (_ ∧ _ ∧ _))

namespace Moment

/-- The queues that are stopped, in order. -/
def stopped (moment : Moment) : List UInt8 :=
  moment.effects.filterMap Effect.stopped?

/-- The queues that are woken, in order. -/
def woken (moment : Moment) : List UInt8 :=
  moment.effects.filterMap Effect.woken?

/-- The transfer that ends, if it is the oldest one in flight on its endpoint. -/
def retiring? (moment : Moment) : Option (Lane × Transfer Outgoing) :=
  moment.sent?.bind fun ended =>
    (moment.before.config.lane? ended.1).bind fun lane =>
      if (moment.before.transmit.get lane).Awaits ended.2.handle then some (lane, ended.2)
      else none

/-- The endpoint whose last free slot a frame takes, and the queue of the frame. -/
def filling? (moment : Moment) : Option (Lane × UInt8) :=
  match moment.input with
  | .enqueue _ _ frame _ queue =>
      (laneOfQueue queue).toOption.bind fun lane =>
        if (moment.before.transmit.get lane).used = 63 ∧
            (moment.after.transmit.get lane).used = 64 then
          some (lane, frame.queue)
        else none
  | _ => none

/-- The endpoint that a transfer takes below the watermark, from 56 transfers in flight
to 55, and the queue of the frame that it carries. -/
def draining? (moment : Moment) : Option (Lane × UInt8) :=
  moment.retiring?.bind fun retired =>
    if (moment.before.transmit.get retired.1).used = 56 ∧
        (moment.after.transmit.get retired.1).used = 55 then
      some (retired.1, retired.2.content.queue)
    else none

/-- A ring is full behind the frame that fills it. -/
theorem full_of_filling? {moment : Moment} {lane : Lane} {queue : UInt8}
    (filling : moment.filling? = some (lane, queue)) :
    (moment.after.transmit.get lane).used = 64 := by
  unfold filling? at filling
  split at filling
  · obtain ⟨used, -, rest⟩ := Option.bind_eq_some_iff.mp filling
    split at rest
    next crosses =>
      cases rest
      exact crosses.2
    next => contradiction
  · contradiction

theorem retiring?_eq_some {moment : Moment} {lane : Lane} {transfer : Transfer Outgoing}
    (retiring : moment.retiring? = some (lane, transfer)) :
    ∃ address, moment.sent? = some (address, transfer) ∧
      moment.before.config.lane? address = some lane ∧
      (moment.before.transmit.get lane).Awaits transfer.handle := by
  obtain ⟨⟨address, ended⟩, sent, rest⟩ := Option.bind_eq_some_iff.mp retiring
  obtain ⟨used, found, turn⟩ := Option.bind_eq_some_iff.mp rest
  split at turn
  next awaits =>
    cases turn
    exact ⟨address, sent, found, awaits⟩
  next => contradiction

end Moment

/-- The watermark of an output endpoint. -/
theorem wakeLevel_transmitSlots : wakeLevel transmitSlots = 56 :=
  rfl

/-! ## What sending does to rings and queues -/

namespace Engine

variable {engine : Engine}

/-- What enqueueing a frame does to the rings and to its queue. -/
inductive EntryMove (engine : Engine) (frame : Outgoing) (queue : UInt8) :
    EnqueueStep → Prop where
  | turnedDown {step : EnqueueStep} (lanes : step.1.transmit = engine.transmit)
      (counted : step.1.counters.signals = engine.counters.signals)
      (calm : ∀ effect ∈ step.2.1, effect.kind ∈ [Effect.Kind.submitTransmit, .log]) :
      EntryMove engine frame queue step
  | entered {step : EnqueueStep} {lane : Lane} {ring : Ring Handle}
      (mapped : laneOfQueue queue = .ok lane)
      (published : (engine.transmit.get lane).publish = .ok ring)
      (lanes : step.1.transmit = engine.transmit.set lane ring lane.isLt)
      (stopped : step.2.1.filterMap Effect.stopped? =
        if ring.isFull then [frame.queue] else [])
      (counted : step.1.counters.signals =
        (engine.counters.txStops + if ring.isFull then 1 else 0, engine.counters.txWakes)) :
      EntryMove engine frame queue step

theorem entryMove_enqueue (memory : Memory) (answer : Transfer Outgoing → Option Refusal)
    (frame : Outgoing) (key queue : UInt8) :
    engine.EntryMove frame queue (engine.enqueue memory answer frame key queue) := by
  have move := engine.sendMove_enqueue memory answer frame key queue
  generalize engine.enqueue memory answer frame key queue = step at move ⊢
  cases move with
  | turnedDown => exact .turnedDown rfl rfl (by simp)
  | overflowed => exact .turnedDown rfl rfl (by simp [Effect.kind])
  | taken ready reserved =>
      have same := Outgoing.queue_of_wrapsTo ⟨_, _, _, ready.wrap⟩
      obtain ⟨ring, published⟩ :=
        Ring.exists_publish (Transmission.offers_of_reserve? reserved).2.1
      refine .entered ready.mapped published ?_ ?_ ?_
      · simp only [enterTransmit, published]
        rfl
      · simp only [enterTransmit, published, same]
        cases ring.isFull <;> rfl
      · simp only [enterTransmit, published]
        rfl
  | @refused _ _ _ refusal =>
      have others : (engine.refuseTransmit refusal).1.transmit = engine.transmit ∧
          (engine.refuseTransmit refusal).1.counters.signals = engine.counters.signals := by
        unfold refuseTransmit
        simp only
        split <;> exact ⟨rfl, rfl⟩
      refine .turnedDown others.1 others.2 ?_
      intro effect member
      rcases List.mem_cons.mp member with rfl | inStep
      · simp [Effect.kind]
      · simp [engine.kind_refuseTransmit refusal effect inStep]

/-- What the end of a transfer does to the rings and to the queue of its frame. -/
inductive RetirementMove (engine : Engine) (address : UInt8) (transfer : Transfer Outgoing) :
    Engine × List Effect → Prop where
  | turnedDown {step : Engine × List Effect} (lanes : step.1.transmit = engine.transmit)
      (counted : step.1.counters.signals = engine.counters.signals)
      (calm : ∀ effect ∈ step.2, effect.kind = .log) :
      RetirementMove engine address transfer step
  | retired {step : Engine × List Effect} {lane : Lane} {ring : Ring Handle} {index : Nat}
      (found : engine.config.lane? address = some lane)
      (awaits : (engine.transmit.get lane).Awaits transfer.handle)
      (retires : (engine.transmit.get lane).retire? = some (index, ring))
      (lanes : step.1.transmit = engine.transmit.set lane ring lane.isLt)
      (woken : step.2.filterMap Effect.woken? =
        if (engine.transmit.get lane).used = wakeLevel (engine.transmit.get lane).capacity then
          [transfer.content.queue]
        else [])
      (counted : step.1.counters.signals =
        (engine.counters.txStops, engine.counters.txWakes +
          if (engine.transmit.get lane).used = wakeLevel (engine.transmit.get lane).capacity
          then 1 else 0)) :
      RetirementMove engine address transfer step

theorem woken_acceptTransmit (lane : Lane) (transfer : Transfer Outgoing) :
    (engine.acceptTransmit lane transfer).2.filterMap Effect.woken? =
      if (engine.transmit.get lane).used = wakeLevel (engine.transmit.get lane).capacity then
        [transfer.content.queue]
      else [] := by
  rw [snd_acceptTransmit]
  split <;> split <;> rfl

theorem retirementMove_completeTransmit (address : UInt8) (transfer : Transfer Outgoing) :
    engine.RetirementMove address transfer (engine.completeTransmit address transfer) := by
  have complaint := engine.kind_complaint transfer.status
    (.transmitFailed transfer.handle transfer.status)
  obtain ⟨step, move, same⟩ := engine.exists_returnMove address transfer
  rw [same]
  cases move with
  | dismissed line =>
      exact .turnedDown rfl rfl
        (List.forall_mem_append.mpr ⟨complaint, engine.kind_dismissTransmit line⟩)
  | ignored => exact .turnedDown rfl rfl (List.forall_mem_append.mpr ⟨complaint, by simp⟩)
  | accepted found awaits =>
      obtain ⟨index, ring, retires⟩ := Ring.exists_retire? awaits.2.1
      refine .retired found awaits retires ?_ ?_ ?_
      · simp only [acceptTransmit, retires]
        split <;> rfl
      · rw [List.filterMap_append, woken_acceptTransmit,
          Effect.watches_woken?.filterMap_logs (by decide) complaint, List.nil_append]
      · simp only [acceptTransmit]
        split <;> rfl

end Engine

/-! ## Everything else leaves the queues alone -/

/-- An input that neither sends nor ends a transmit transfer. -/
def Input.isReceiving : Input → Bool
  | .enqueue _ _ _ _ _ | .completeTransmit _ _ => false
  | _ => true

theorem Input.kinds_of_isReceiving {input : Input} (receiving : input.isReceiving = true) :
    Effect.Kind.stopQueue ∉ input.kinds ∧ Effect.Kind.wakeQueue ∉ input.kinds := by
  cases input <;> simp_all [isReceiving, kinds]

theorem Engine.Receives.signals {before after : Engine} (receives : before.Receives after) :
    after.counters.signals = before.counters.signals := by
  show after.counters.sending.signals = before.counters.sending.signals
  rw [receives.sending]

namespace Moment

/-- Signals to the queues are counted at no other input. -/
theorem signals_of_isReceiving {moment : Moment} (receiving : moment.input.isReceiving = true) :
    moment.after.counters.signals = moment.before.counters.signals := by
  obtain ⟨engine, input⟩ := moment
  cases input with
  | startBringUp | proceedBringUp | answerPost | beginTeardown | finishTeardown =>
      exact congrArg Counters.signals (keepsRecords rfl).counters
  | completeReceive | startPass | proceedPass | answerDelivery =>
      exact (receives rfl).signals
  | answerRepost refusal => exact (engine.receives_answerRepost refusal).signals
  | enqueue | completeTransmit => contradiction
  | finishStatistics =>
      rw [after_finishStatistics, Engine.finishStatistics]
      simp only
      split <;> rfl

/-! ## The levels are crossed where the queues are signalled -/

/-- The queue of a frame that fills a ring. -/
def fillingQueue (moment : Moment) : List UInt8 :=
  (moment.filling?.map (·.2)).toList

/-- The queue of a transfer that takes a ring below the watermark. -/
def drainingQueue (moment : Moment) : List UInt8 :=
  (moment.draining?.map (·.2)).toList

/-- Queues are signalled exactly where the levels are crossed, and each signal is
counted. -/
structure Signals (moment : Moment) : Prop where
  stopped : moment.stopped = moment.fillingQueue
  woken : moment.woken = moment.drainingQueue
  counted : moment.after.counters.signals =
    (moment.before.counters.txStops + moment.stopped.length,
      moment.before.counters.txWakes + moment.woken.length)

theorem stopped_eq_nil (moment : Moment) (other : Effect.Kind.stopQueue ∉ moment.input.kinds) :
    moment.stopped = [] :=
  Effect.watches_stopped?.effects_eq_nil moment other

theorem woken_eq_nil (moment : Moment) (other : Effect.Kind.wakeQueue ∉ moment.input.kinds) :
    moment.woken = [] :=
  Effect.watches_woken?.effects_eq_nil moment other

/-- No ring is filled where the rings are left alone. -/
theorem filling?_eq_none {moment : Moment}
    (lanes : moment.after.transmit = moment.before.transmit) : moment.filling? = none := by
  unfold filling?
  split
  next memory answer frame key queue _ =>
    rw [lanes]
    cases (laneOfQueue queue).toOption with
    | none => rfl
    | some lane =>
        rw [Option.bind_some, if_neg (by omega)]
  next => rfl

/-- No ring falls below the watermark where the rings are left alone. -/
theorem draining?_eq_none {moment : Moment}
    (lanes : moment.after.transmit = moment.before.transmit) : moment.draining? = none := by
  unfold draining?
  rw [lanes]
  cases moment.retiring? with
  | none => rfl
  | some retired => rw [Option.bind_some, if_neg (by omega)]

theorem signals_enqueue {engine : Engine} (sound : engine.Sound) (memory : Memory)
    (answer : Transfer Outgoing → Option Refusal) (frame : Outgoing) (key queue : UInt8) :
    Signals ⟨engine, .enqueue memory answer frame key queue⟩ := by
  have unwoken := woken_eq_nil ⟨engine, .enqueue memory answer frame key queue⟩
    (by simp [Input.kinds])
  have after := after_enqueue engine memory answer frame key queue
  have effects := effects_enqueue engine memory answer frame key queue
  cases engine.entryMove_enqueue memory answer frame key queue with
  | turnedDown lanes counted calm =>
      have unstopped : (mk engine (.enqueue memory answer frame key queue)).stopped = [] := by
        rw [stopped, effects]
        apply Effect.watches_stopped?.filterMap_eq_nil
        intro effect member same
        have kind := calm effect member
        simp [same] at kind
      refine ⟨?_, by rw [unwoken]; rfl, ?_⟩
      · rw [unstopped, fillingQueue, filling?_eq_none (after ▸ lanes)]
        rfl
      · rw [unstopped, unwoken, after, counted]
        rfl
  | @entered lane ring mapped published lanes stops counted =>
      have capacity : (engine.transmit.get lane).capacity = transmitSlots :=
        sound.transmission.capacity lane
      have ringAfter : (mk engine (.enqueue memory answer frame key queue)).after.transmit.get
          lane = ring := by
        rw [after, lanes, Lane.get_set, if_pos rfl]
      obtain ⟨room, whole⟩ := Ring.publish_eq_ok published
      have full : ((engine.transmit.get lane).used = 63 ∧ ring.used = 64) ↔
          ring.isFull = true := by
        simp only [Ring.isFull, capacity, transmitSlots, decide_eq_false_iff_not, Nat.not_le]
          at room
        simp only [whole, Ring.isFull, capacity, transmitSlots, decide_eq_true_eq]
        omega
      have filling : (mk engine (.enqueue memory answer frame key queue)).filling? =
          if ring.isFull then some (lane, frame.queue) else none := by
        simp only [filling?, mapped, Except.toOption, Option.bind_some, ringAfter, full]
      refine ⟨?_, by rw [unwoken]; rfl, ?_⟩
      · rw [stopped, effects, stops, fillingQueue, filling]
        split <;> rfl
      · rw [stopped, effects, stops, unwoken, after, counted]
        split <;> rfl

theorem signals_completeTransmit {engine : Engine} (sound : engine.Sound) (address : UInt8)
    (transfer : Transfer Outgoing) : Signals ⟨engine, .completeTransmit address transfer⟩ := by
  have unstopped := stopped_eq_nil ⟨engine, .completeTransmit address transfer⟩
    (by simp [Input.kinds])
  have after := after_completeTransmit engine address transfer
  have effects := effects_completeTransmit engine address transfer
  cases engine.retirementMove_completeTransmit address transfer with
  | turnedDown lanes counted calm =>
      have unwoken : (mk engine (.completeTransmit address transfer)).woken = [] := by
        rw [woken, effects]
        exact Effect.watches_woken?.filterMap_logs (by decide) calm
      refine ⟨unstopped, ?_, ?_⟩
      · rw [unwoken, drainingQueue, draining?_eq_none (after ▸ lanes)]
        rfl
      · rw [unstopped, unwoken, after, counted]
        rfl
  | @retired lane ring index found awaits retires lanes wakes counted =>
      have capacity : (engine.transmit.get lane).capacity = transmitSlots :=
        sound.transmission.capacity lane
      rw [capacity, wakeLevel_transmitSlots] at wakes counted
      have ringAfter : (mk engine (.completeTransmit address transfer)).after.transmit.get
          lane = ring := by
        rw [after, lanes, Lane.get_set, if_pos rfl]
      have retiring : (mk engine (.completeTransmit address transfer)).retiring? =
          some (lane, transfer) := by
        simp only [retiring?, sent?, Option.bind_some, found, awaits, if_true]
      obtain ⟨present, -, whole⟩ := Ring.retire?_eq_some retires
      have below : ((engine.transmit.get lane).used = 56 ∧ ring.used = 55) ↔
          (engine.transmit.get lane).used = 56 := by
        simp only [Ring.isEmpty, beq_eq_false_iff_ne] at present
        simp only [whole]
        omega
      have draining : (mk engine (.completeTransmit address transfer)).draining? =
          if (engine.transmit.get lane).used = 56 then some (lane, transfer.content.queue)
          else none := by
        simp only [draining?, retiring, Option.bind_some, ringAfter, below]
      refine ⟨unstopped, ?_, ?_⟩
      · rw [woken, effects, wakes, drainingQueue, draining]
        split <;> rfl
      · rw [unstopped, woken, effects, wakes, after, counted]
        split <;> rfl

/-- Every moment signals to the queues where the levels are crossed. -/
theorem signals {moment : Moment} (sound : moment.before.Sound) : moment.Signals := by
  obtain ⟨engine, input⟩ := moment
  have alone : input.isReceiving = true → (mk engine input).filling? = none →
      (mk engine input).sent? = none → (mk engine input).Signals := by
    intro receiving unfilled unsent
    obtain ⟨noStop, noWake⟩ := Input.kinds_of_isReceiving receiving
    have unstopped := stopped_eq_nil ⟨engine, input⟩ noStop
    have unwoken := woken_eq_nil ⟨engine, input⟩ noWake
    refine ⟨?_, ?_, ?_⟩
    · rw [unstopped, fillingQueue, unfilled]
      rfl
    · rw [unwoken, drainingQueue, draining?, retiring?, unsent]
      rfl
    · rw [unstopped, unwoken]
      exact signals_of_isReceiving receiving
  cases input with
  | enqueue memory answer frame key queue =>
      exact signals_enqueue sound memory answer frame key queue
  | completeTransmit address transfer => exact signals_completeTransmit sound address transfer
  | startBringUp | proceedBringUp | answerPost | completeReceive | startPass | proceedPass
  | answerDelivery | answerRepost | finishStatistics | beginTeardown | finishTeardown =>
      exact alone rfl rfl rfl

end Moment

/-! ## Transfers in flight -/

namespace Transmission

variable {transmission next : Transmission}

theorem Step.accepts_of_taken {lane : Lane} {transfer : Transfer Outgoing}
    (step : Step transmission (.taken lane transfer) next) :
    transmission.stage.accepts = true := by
  cases step with
  | taken accepts => exact accepts

theorem Step.teardowns_lt_of_drained (step : Step transmission .drained next) :
    next.teardowns < transmission.teardowns := by
  cases step with
  | drained begun => exact Nat.pred_lt begun

end Transmission

namespace Moment

/-- What a moment does to the number of transfers in flight on an endpoint. -/
inductive Loads (moment : Moment) (lane : Lane) : Prop where
  | rests (unaccepted : moment.acceptedOn? lane = none)
      (same : (moment.after.transmit.get lane).used = (moment.before.transmit.get lane).used)
  | grows (accepts : moment.before.device.stage.accepts = true)
      (room : (moment.before.transmit.get lane).used < transmitSlots)
      (more : (moment.after.transmit.get lane).used =
        (moment.before.transmit.get lane).used + 1)
  | falls {transfer : Transfer Outgoing} (unaccepted : moment.acceptedOn? lane = none)
      (retiring : moment.retiring? = some (lane, transfer))
      (fewer : (moment.after.transmit.get lane).used + 1 =
        (moment.before.transmit.get lane).used)
  | empties (unaccepted : moment.acceptedOn? lane = none)
      (released : moment.isReleased = true)
      (dead : moment.after.device.stage = .dead)

theorem loads {moment : Moment} (sound : moment.before.Sound) (lane : Lane) :
    moment.Loads lane := by
  obtain ⟨event, step, tells⟩ := moment.transmission_step
  have ring := step.lane_step lane
  have capacity : (moment.before.transmit.get lane).capacity = transmitSlots :=
    sound.transmission.capacity lane
  have same : ∀ ring, moment.after.transmission.lanes.get lane = ring →
      (moment.after.transmit.get lane).used = ring.used := fun _ equal => congrArg Ring.used equal
  generalize moment.after.transmission.lanes.get lane = after at ring same
  cases ring with
  | kept _ untaken => exact .rests (tells.acceptedOn?_eq_none untaken) (same _ rfl)
  | published offers published =>
      obtain ⟨room, rfl⟩ := Ring.publish_eq_ok published
      have used : (moment.before.transmit.get lane).used < transmitSlots := by
        have room : (moment.before.transmit.get lane).isFull = false := room
        simpa [Ring.isFull, capacity] using room
      exact .grows step.accepts_of_taken used (same _ rfl)
  | @retired address transfer index ring awaits retired =>
      obtain ⟨present, -, rfl⟩ := Ring.retire?_eq_some retired
      have used : (moment.before.transmit.get lane).used ≠ 0 := by
        have present : (moment.before.transmit.get lane).isEmpty = false := present
        simpa [Ring.isEmpty] using present
      have found : moment.before.config.lane? address = some lane := step.found_of_retired
      have turn : (moment.before.transmit.get lane).Awaits transfer.handle := awaits
      have retiring : moment.retiring? = some (lane, transfer) := by
        simp only [retiring?, tells.sent, Transmission.Event.sent?, Option.bind_some, found,
          turn, if_true]
      refine .falls (tells.acceptedOn?_eq_none (by simp)) retiring ?_
      rw [same _ rfl]
      show (moment.before.transmit.get lane).used - 1 + 1 = _
      omega
  | extended =>
      refine .rests (tells.acceptedOn?_eq_none (by simp)) ?_
      rw [same _ rfl]
      rfl
  | emptied =>
      have fewer : moment.after.teardowns < moment.before.teardowns :=
        step.teardowns_lt_of_drained
      have released := isReleased_of_teardowns_lt fewer
      exact .empties (tells.acceptedOn?_eq_none (by simp)) released
        (emptied_of_isReleased sound released).dead

end Moment

namespace Engine

/-- A full ring stays full, or the device is dead, until a transfer on its endpoint
is retired. -/
theorem full_run {engine : Engine} (sound : engine.Sound) {lane : Lane}
    (full : (engine.transmit.get lane).used = transmitSlots) (inputs : List Input)
    (unretired : ∀ moment ∈ engine.history inputs, ∀ transfer,
      moment.retiring? ≠ some (lane, transfer)) :
    ((engine.run inputs).1.transmit.get lane).used = transmitSlots ∨
      (engine.run inputs).1.device.stage = .dead := by
  have invariant := History.invariant
    (fun engine history => engine.Sound ∧
      ((∀ moment ∈ history, ∀ transfer, moment.retiring? ≠ some (lane, transfer)) →
        (engine.transmit.get lane).used = transmitSlots ∨ engine.device.stage = .dead))
    ⟨sound, fun _ => Or.inl full⟩ ?_ inputs
  · exact invariant.2 unretired
  · rintro history moment ⟨sound, before⟩
    refine ⟨sound.after, fun calm => ?_⟩
    obtain ⟨event, step, -⟩ := moment.reception_step
    rcases before fun earlier member => calm earlier (by simp [member]) with full | dead
    · cases moment.loads sound lane with
      | rests _ same => exact Or.inl (same.trans full)
      | grows _ room => exact absurd full room.ne
      | falls _ retiring => exact absurd retiring (calm moment (by simp) _)
      | empties _ _ dead => exact Or.inr dead
    · exact Or.inr (by_contra fun alive => step.alive alive dead)

/-- A ring that is not below the watermark stays so until a transfer takes it there
or its handles are given back. -/
theorem high_run {engine : Engine} (sound : engine.Sound) {lane : Lane}
    (high : 56 ≤ (engine.transmit.get lane).used) (inputs : List Input)
    (undrained : ∀ moment ∈ engine.history inputs, ∀ queue,
      moment.draining? ≠ some (lane, queue))
    (unreleased : ∀ moment ∈ engine.history inputs, moment.isReleased = false) :
    56 ≤ ((engine.run inputs).1.transmit.get lane).used := by
  have invariant := History.invariant
    (fun engine history => engine.Sound ∧
      ((∀ moment ∈ history, (∀ queue, moment.draining? ≠ some (lane, queue)) ∧
          moment.isReleased = false) →
        56 ≤ (engine.transmit.get lane).used))
    ⟨sound, fun _ => high⟩ ?_ inputs
  · exact invariant.2 fun moment member => ⟨undrained moment member, unreleased moment member⟩
  · rintro history moment ⟨sound, before⟩
    refine ⟨sound.after, fun calm => ?_⟩
    have high := before fun earlier member => calm earlier (by simp [member])
    obtain ⟨undrained, unreleased⟩ := calm moment (by simp)
    cases moment.loads sound lane with
    | rests _ same => exact same ▸ high
    | grows _ _ more => omega
    | @falls transfer _ retiring fewer =>
        by_contra low
        have crosses : (moment.before.transmit.get lane).used = 56 ∧
            (moment.after.transmit.get lane).used = 55 := by
          omega
        apply undrained transfer.content.queue
        rw [Moment.draining?, retiring, Option.bind_some, if_pos crosses]
    | empties _ released =>
        rw [unreleased] at released
        contradiction

/-- A full endpoint accepts no frame before one of its transfers is retired. -/
theorem retired_before_accepted {engine : Engine} (sound : engine.Sound) {lane : Lane}
    (full : (engine.transmit.get lane).used = transmitSlots) (inputs : List Input) :
    Throughout (fun between moment => moment.acceptedOn? lane ≠ none →
      ∃ other ∈ between, ∃ transfer, other.retiring? = some (lane, transfer))
      (engine.history inputs) := by
  intro between moment later split accepted
  have member : moment ∈ engine.history inputs := by simp [split]
  have soundBefore := sound.of_mem member
  obtain ⟨waited, input, -, -, rfl, rfl, -⟩ := history_eq_append_cons split
  by_contra unretired
  push Not at unretired
  rcases full_run sound full waited unretired with still | dead
  · cases Moment.loads soundBefore lane with
    | grows _ room => exact absurd still room.ne
    | rests unaccepted | falls unaccepted | empties unaccepted => exact accepted unaccepted
  · cases Moment.loads soundBefore lane with
    | grows accepts =>
        rw [dead] at accepts
        contradiction
    | rests unaccepted | falls unaccepted | empties unaccepted => exact accepted unaccepted

/-- An endpoint that is not below the watermark gets there by a transfer that wakes
a queue, unless its handles are given back. -/
theorem woken_before_low {engine : Engine} (sound : engine.Sound) {lane : Lane}
    (high : 56 ≤ (engine.transmit.get lane).used) (inputs : List Input) :
    Throughout (fun between moment =>
      (moment.after.transmit.get lane).used ≤ 55 →
      (∀ other ∈ between ++ [moment], other.isReleased = false) →
      ∃ other ∈ between ++ [moment], ∃ woken,
        other.draining? = some (lane, woken) ∧ other.woken = [woken])
      (engine.history inputs) := by
  intro between moment later split low unreleased
  obtain ⟨waited, input, -, rfl, rfl, rfl, -⟩ := history_eq_append_cons split
  rw [← history_concat] at unreleased ⊢
  have drained : ∃ other ∈ engine.history (waited ++ [input]), ∃ woken,
      other.draining? = some (lane, woken) := by
    by_contra undrained
    push Not at undrained
    have high := high_run sound high (waited ++ [input]) undrained unreleased
    rw [run_concat] at high
    omega
  obtain ⟨other, member, woken, draining⟩ := drained
  refine ⟨other, member, woken, draining, ?_⟩
  rw [(other.signals (sound.of_mem member)).woken, Moment.drainingQueue, draining]
  rfl

/-- Behind a frame that fills an endpoint, the endpoint gets below the watermark by
a transfer that wakes a queue, unless its handles are given back. -/
theorem woken_after_filling {config : Config} {inputs : List Input} {past later : History}
    {stop : Moment} {lane : Lane} {queue : UInt8}
    (split : (fresh config).history inputs = past ++ stop :: later)
    (filling : stop.filling? = some (lane, queue)) :
    Throughout (fun between moment =>
      (moment.after.transmit.get lane).used ≤ 55 →
      (∀ other ∈ between ++ [moment], other.isReleased = false) →
      ∃ other ∈ between ++ [moment], ∃ woken,
        other.draining? = some (lane, woken) ∧ other.woken = [woken]) later := by
  have member : stop ∈ (fresh config).history inputs := by simp [split]
  have sound := ((sound_fresh config).of_mem member).after
  have high : 56 ≤ (stop.after.transmit.get lane).used := by
    rw [Moment.full_of_filling? filling]
    decide
  obtain ⟨-, -, after, -, -, -, rfl⟩ := history_eq_append_cons split
  exact woken_before_low sound high after

/-- Each signal to a queue is counted. -/
theorem signals_run (config : Config) (inputs : List Input) :
    let history := (fresh config).history inputs
    ((fresh config).run inputs).1.counters.signals =
      (history.countP fun moment => moment.filling?.isSome,
        history.countP fun moment => moment.draining?.isSome) := by
  have invariant := History.invariant
    (fun engine history => engine.Sound ∧ engine.counters.signals =
      (history.countP fun moment => moment.filling?.isSome,
        history.countP fun moment => moment.draining?.isSome))
    ⟨sound_fresh config, rfl⟩ ?_ inputs
  · exact invariant.2
  · rintro history moment ⟨sound, counted⟩
    have signals := moment.signals sound
    have length : ∀ crossing : Option (Lane × UInt8),
        (crossing.map (·.2)).toList.length = if crossing.isSome then 1 else 0 := by
      rintro (_ | crossing) <;> rfl
    rw [Counters.signals, Prod.mk.injEq] at counted
    refine ⟨sound.after, ?_⟩
    rw [signals.counted, signals.stopped, signals.woken, counted.1, counted.2,
      Moment.fillingQueue, Moment.drainingQueue, length, length]
    simp only [List.countP_append, List.countP_singleton]

/-- Flow control over whole runs.  A queue is stopped exactly where a frame of it
takes an endpoint from 63 transfers in flight to 64, a queue is woken exactly where a
transfer of it takes an endpoint from 56 to 55, and both are counted.  A full
endpoint accepts no frame before one of its transfers is retired.  After a stop an
endpoint has not come down to 55 before one of its transfers has woken a queue,
unless its handles were given back. -/
theorem signals_at_crossings (config : Config) (inputs : List Input) :
    let history := (fresh config).history inputs
    let counters := ((fresh config).run inputs).1.counters
    (∀ moment ∈ history,
      moment.stopped = moment.fillingQueue ∧ moment.woken = moment.drainingQueue) ∧
    counters.txStops = (history.countP fun moment => moment.filling?.isSome) ∧
    counters.txWakes = (history.countP fun moment => moment.draining?.isSome) ∧
    (∀ lane past full later, history = past ++ full :: later →
      (full.after.transmit.get lane).used = 64 →
      Throughout (fun between moment => moment.acceptedOn? lane ≠ none →
        ∃ other ∈ between, ∃ transfer, other.retiring? = some (lane, transfer)) later) ∧
    ∀ lane queue past stop later, history = past ++ stop :: later →
      stop.filling? = some (lane, queue) →
      Throughout (fun between moment =>
        (moment.after.transmit.get lane).used ≤ 55 →
        (∀ other ∈ between ++ [moment], other.isReleased = false) →
        ∃ other ∈ between ++ [moment], ∃ woken,
          other.draining? = some (lane, woken) ∧ other.woken = [woken]) later := by
  have signals := signals_run config inputs
  simp only [Counters.signals, Prod.mk.injEq] at signals
  refine ⟨?_, signals.1, signals.2, ?_, ?_⟩
  · intro moment member
    have signals := moment.signals ((sound_fresh config).of_mem member)
    exact ⟨signals.stopped, signals.woken⟩
  · intro lane past full later split filled
    have member : full ∈ (fresh config).history inputs := by simp [split]
    have sound := ((sound_fresh config).of_mem member).after
    obtain ⟨-, -, after, -, -, -, rfl⟩ := history_eq_append_cons split
    exact retired_before_accepted sound filled after
  · intro lane queue past stop later split filling
    exact woken_after_filling split filling

/-- A frame of an upper queue for the first endpoint for data. -/
def sending (queue : UInt8) : Input :=
  .enqueue (fun _ => true) (fun _ => none) (.bare [] queue) noHardwareKey 0

/-- The end of the transfer of such a frame. -/
def ending (queue : UInt8) (handle : Handle) : Input :=
  let content := Outgoing.wrapWith (.bare [] queue) .distributed (transmitFlags noHardwareKey)
  .completeTransmit 4 ((Transfer.bind handle content).complete .ok content.length)

/-- The ends of the oldest transfers on that endpoint. -/
def endings (queue : UInt8) (count : Nat) : List Input :=
  (List.range count).map fun place => ending queue (.ofNat (64 + place))

/-- Two queues on one endpoint: the frame that fills it is of the second queue, and
the ninth transfer that ends is of the first. -/
theorem signals_at_crossings_twice :
    let before := bringUpInputs ++ List.replicate 63 (sending 1)
    let stop : Moment := ⟨((fresh .small).run before).1, sending 2⟩
    let last : Moment := ⟨(stop.after.run (endings 1 8)).1, ending 1 72⟩
    let lane : Lane := ⟨1, by decide⟩
    stop.stopped = [2] ∧
      (∃ other ∈ stop.after.history (endings 1 8) ++ [last], ∃ woken,
        other.draining? = some (lane, woken) ∧ other.woken = [woken]) ∧
      last.after.counters.txStops = 1 ∧ last.after.counters.txWakes = 1 := by
  intro before stop last lane
  let inputs := before ++ sending 2 :: (endings 1 8 ++ [ending 1 72])
  have facts : stop.filling? = some (lane, 2) ∧
      (last.after.transmit.get lane).used ≤ 55 ∧
      (∀ other ∈ stop.after.history (endings 1 8) ++ [last], other.isReleased = false) ∧
      last.after.counters = ((fresh .small).run inputs).1.counters ∧
      (((fresh .small).history inputs).countP fun moment => moment.filling?.isSome) = 1 ∧
      (((fresh .small).history inputs).countP fun moment => moment.draining?.isSome) = 1 := by
    decide +kernel
  obtain ⟨filling, low, unreleased, same, stops, wakes⟩ := facts
  have split := history_append_cons (fresh .small) before (sending 2) (endings 1 8 ++ [ending 1 72])
  obtain ⟨signals, stopCount, wakeCount, -, crossings⟩ := signals_at_crossings .small inputs
  have member : stop ∈ (fresh .small).history inputs :=
    split ▸ List.mem_append_right _ (List.mem_cons_self ..)
  refine ⟨?_, ?_, ?_, ?_⟩
  · rw [(signals stop member).1, Moment.fillingQueue, filling]
    rfl
  · exact crossings lane 2 _ stop _ split filling _ last []
      (history_concat stop.after (endings 1 8) _) low unreleased
  · rw [same, stopCount, stops]
  · rw [same, wakeCount, wakes]

end Engine

/-! ## One queue on an endpoint, and several -/

/-- A transfer that ends carries a frame that the transport took on its address. -/
def Moment.ReturnsTaken (past : History) (moment : Moment) : Prop :=
  ∀ ended ∈ moment.sent?, ∃ earlier ∈ past, ∃ taken ∈ earlier.takenOn ended.1,
    taken.content = ended.2.content

instance (past : History) (moment : Moment) : Decidable (moment.ReturnsTaken past) :=
  inferInstanceAs (Decidable (∀ ended ∈ moment.sent?, _))

/-- A transfer that the transport takes on an endpoint carries a frame that was
accepted there. -/
theorem Moment.accepted_of_takenOn {moment : Moment} {lane : Lane} {taken : Transfer Outgoing}
    (valid : moment.before.config.isValid = true)
    (member : taken ∈ moment.takenOn (moment.before.config.outEndpoints.get lane)) :
    ∃ frame, moment.acceptedOn? lane = some frame ∧ frame.WrapsTo taken.content := by
  obtain ⟨event, -, tells⟩ := moment.transmission_step
  rw [tells.takenOn_eq valid lane, Option.mem_toList] at member
  obtain rfl := Transmission.Event.eq_taken_of_takenOn? member
  obtain ⟨frame, accepted, -, wraps⟩ := tells.exists_acceptedOn?
  exact ⟨frame, accepted, wraps⟩

namespace Engine

/-- On an endpoint that serves one upper queue a transfer wakes that queue. -/
theorem queue_of_draining {config : Config} {inputs : List Input} {lane : Lane}
    {queue woken : UInt8} {moment : Moment} (valid : config.isValid = true)
    (returned : Throughout Moment.ReturnsTaken ((fresh config).history inputs))
    (unshared : ∀ moment ∈ (fresh config).history inputs, ∀ frame ∈ moment.acceptedOn? lane,
      frame.queue = queue)
    (member : moment ∈ (fresh config).history inputs)
    (draining : moment.draining? = some (lane, woken)) : woken = queue := by
  obtain ⟨⟨used, transfer⟩, retiring, crosses⟩ := Option.bind_eq_some_iff.mp draining
  split at crosses
  · cases crosses
    obtain ⟨address, sent, found, -⟩ := Moment.retiring?_eq_some retiring
    obtain ⟨past, later, split⟩ := List.append_of_mem member
    obtain ⟨earlier, early, taken, onAddress, content⟩ :=
      returned past moment later split (address, transfer) sent
    have inHistory : earlier ∈ (fresh config).history inputs := by
      rw [split]
      exact List.mem_append_left _ early
    have same : earlier.before.config = moment.before.config :=
      (config_of_mem inHistory).trans (config_of_mem member).symm
    rw [← Config.lane?_eq_some found, ← same] at onAddress
    obtain ⟨frame, accepted, wraps⟩ :=
      Moment.accepted_of_takenOn (by rw [config_of_mem inHistory, valid]) onAddress
    rw [← content, Outgoing.queue_of_wrapsTo wraps]
    exact unshared earlier inHistory frame accepted
  · contradiction

/-- On an endpoint that serves one upper queue a stop is followed by a wake, over
whole runs of an engine that is up, if the transport gives back the frames that it
took: whenever the endpoint is below the watermark again, its queue has been woken
since it was stopped. -/
theorem stopped_queue_woken (config : Config) (inputs : List Input) (lane : Lane) (queue : UInt8)
    (valid : config.isValid = true) (up : History.IsUp ((fresh config).history inputs))
    (returned : Throughout Moment.ReturnsTaken ((fresh config).history inputs))
    (unshared : ∀ moment ∈ (fresh config).history inputs, ∀ frame ∈ moment.acceptedOn? lane,
      frame.queue = queue) :
    ∀ past stop later, (fresh config).history inputs = past ++ stop :: later →
      stop.filling? = some (lane, queue) →
      Throughout (fun between moment =>
        (moment.after.transmit.get lane).used < 56 →
        ∃ other ∈ between ++ [moment], queue ∈ other.woken) later := by
  intro past stop later split filling between moment rest behind low
  have whole : (fresh config).history inputs =
      (past ++ stop :: (between ++ [moment])) ++ rest := by
    simp [split, behind]
  have member : ∀ other ∈ between ++ [moment], other ∈ (fresh config).history inputs := by
    intro other inFront
    rw [whole]
    exact List.mem_append_left _ (List.mem_append_right _ (List.mem_cons_of_mem _ inFront))
  obtain ⟨other, inFront, woken, draining, wakes⟩ :=
    woken_after_filling split filling between moment rest behind (Nat.le_of_lt_succ low)
      fun other inFront => unreleased_of_isUp up (member other inFront)
  have same := queue_of_draining valid returned unshared (member other inFront) draining
  exact ⟨other, inFront, by rw [wakes, same, List.mem_singleton]⟩

/-- A stop of the one queue of an endpoint, and the wake that follows it. -/
theorem stopped_queue_woken_once :
    let stop : Moment :=
      ⟨((fresh .small).run (bringUpInputs ++ List.replicate 63 (sending 7))).1, sending 7⟩
    let last : Moment := ⟨(stop.after.run (endings 7 8)).1, ending 7 72⟩
    let lane : Lane := ⟨1, by decide⟩
    stop.filling? = some (lane, 7) ∧
      (last.after.transmit.get lane).used < 56 ∧
      ∃ other ∈ stop.after.history (endings 7 8) ++ [last], 7 ∈ other.woken := by
  intro stop last lane
  let before := bringUpInputs ++ List.replicate 63 (sending 7)
  let inputs := before ++ sending 7 :: (endings 7 8 ++ [ending 7 72])
  have facts : stop.filling? = some (lane, 7) ∧
      (last.after.transmit.get lane).used < 56 ∧
      History.IsUp ((fresh .small).history inputs) ∧
      Throughout Moment.ReturnsTaken ((fresh .small).history inputs) ∧
      ∀ moment ∈ (fresh .small).history inputs, ∀ frame ∈ moment.acceptedOn? lane,
        frame.queue = 7 := by
    decide +kernel
  obtain ⟨filling, low, up, returned, unshared⟩ := facts
  have woken := stopped_queue_woken .small inputs lane 7 (by decide) up returned unshared
    ((fresh .small).history before) stop (stop.after.history (endings 7 8 ++ [ending 7 72]))
    (history_append_cons _ before (sending 7) _) filling
  exact ⟨filling, low, woken _ last [] (history_concat stop.after (endings 7 8) _) low⟩

/-- On an endpoint that two queues share, a queue can be left stopped: the frame
that fills the endpoint is of the second queue, and the transfer that takes it
below the watermark is of the first.  The transport completes the transfers in
order, and every frame of the second queue was sent on that endpoint. -/
theorem shared_queue_left_stopped :
    let before := bringUpInputs ++ List.replicate 63 (sending 1)
    let history := (fresh .small).history (before ++ sending 2 :: endings 1 9)
    let stop : Moment := ⟨((fresh .small).run before).1, sending 2⟩
    let lane : Lane := ⟨1, by decide⟩
    History.IsUp history ∧ Throughout Moment.InOrder history ∧
      (∀ moment ∈ history, ∀ accepted ∈ moment.accepted?,
        accepted.2.queue = 2 → accepted.1 = lane) ∧
      history = (fresh .small).history before ++ stop :: stop.after.history (endings 1 9) ∧
      stop.filling? = some (lane, 2) ∧ stop.stopped = [2] ∧
      ((stop.after.run (endings 1 9)).1.transmit.get lane).used < 56 ∧
      ∀ moment ∈ stop.after.history (endings 1 9), 2 ∉ moment.woken := by
  intro before history stop lane
  have facts : History.IsUp history ∧ Throughout Moment.InOrder history ∧
      (∀ moment ∈ history, ∀ accepted ∈ moment.accepted?,
        accepted.2.queue = 2 → accepted.1 = lane) ∧
      stop.filling? = some (lane, 2) ∧ stop.stopped = [2] ∧
      ((stop.after.run (endings 1 9)).1.transmit.get lane).used < 56 ∧
      ∀ moment ∈ stop.after.history (endings 1 9), 2 ∉ moment.woken := by
    decide +kernel
  obtain ⟨up, inOrder, alone, rest⟩ := facts
  exact ⟨up, inOrder, alone, history_append_cons _ before (sending 2) _, rest⟩

end Engine

end WlanDatapath
