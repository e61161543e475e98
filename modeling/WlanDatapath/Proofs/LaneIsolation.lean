import WlanDatapath.Proofs.FlowControl

/-!
# Output endpoints do not see each other

The output endpoints share the life of the device, the counters, the reports of
anomalies and the flags about statistics, and they share the transport with reception.
All that one of them sees of the rest is the life of the device, and of that not even
its removal.

`Endpoint` is an engine as an output endpoint sees it, and `Moment.concern?` tells
whether a moment concerns the endpoint.  A moment that does not leaves the endpoint
alone (`Moment.endpoint_of_unconcerned`).  At moments that do, two engines that the
endpoint cannot tell apart do the same for it and stay so (`Moment.actsAlike`), if
others answer alike.  So what happens on an endpoint is settled by the moments that
concern it.
-/

namespace WlanDatapath

/-! ## What an output endpoint sees -/

/-- A stage of life without the news that the device is gone. -/
def Stage.standing : Stage → Stage
  | .removed => .running
  | .created => .created
  | .running => .running
  | .dead => .dead

namespace Stage

theorem Follows.standing_eq {earlier later : Stage} (follows : earlier.Follows later) :
    later.standing = earlier.standing := by
  rcases follows with rfl | ⟨rfl, rfl⟩ <;> rfl

variable {stage other : Stage}

theorem created_iff_of_standing (same : stage.standing = other.standing) :
    stage = .created ↔ other = .created := by
  cases stage <;> cases other <;> simp_all [standing]

end Stage

/-- Whether bringing up is going on, and whether it failed. -/
inductive BringUp.Outline where
  | idle
  | active
  | failing (failure : Failure)
deriving DecidableEq, Repr

/-- Bringing up without the place where it stands. -/
def BringUp.outline : BringUp → Outline
  | .idle => .idle
  | .posting _ | .submitting _ => .active
  | .failing failure => .failing failure

/-- An engine as an output endpoint sees it. -/
structure Endpoint where
  config : Config
  standing : Stage
  bringUp : BringUp.Outline
  ring : Ring Handle

/-- What an output endpoint sees of an engine. -/
def Engine.endpoint (engine : Engine) (lane : Lane) : Endpoint where
  config := engine.config
  standing := engine.device.stage.standing
  bringUp := engine.bringUp.outline
  ring := engine.transmit.get lane

/-- What concerns an output endpoint: the life of the device, the frames of its hardware
queue and the transfers that end on its address. -/
inductive Concern where
  | starts
  /-- Bringing up fails and begins a teardown, because of a refusal if there is one. -/
  | givesUp (refusal? : Option Refusal)
  /-- Bringing up is over. -/
  | ends
  | closes
  | releases
  | sends (frame : Outgoing) (key queue : UInt8)
  | takesBack (transfer : Transfer Outgoing)
deriving DecidableEq

/-- An act by which an output endpoint shows. -/
def Effect.isTraffic : Effect → Bool
  | .submitTransmit _ _ _ | .stopQueue _ | .wakeQueue _ | .reportSent _ _ => true
  | .allocate _ | .free _ | .poison _ | .submitReceive _ _ | .deliver _ _
  | .scheduleStatistics _ | .raise | .log _ => false

/-- The acts by which output endpoints show. -/
def traffic (effects : List Effect) : List Effect :=
  effects.filter Effect.isTraffic

namespace Moment

/-- How a moment concerns an output endpoint. -/
def concern? (moment : Moment) (lane : Lane) : Option Concern :=
  match moment.input with
  | .startBringUp _ => some .starts
  | .proceedBringUp =>
      match moment.reply, moment.after.bringUp with
      | .over _, _ => some .ends
      | .done, .failing _ => some (.givesUp none)
      | _, _ => none
  | .answerPost refusal =>
      match moment.before.bringUp with
      | .submitting _ => refusal.map fun refusal => .givesUp (some refusal)
      | .idle | .posting _ | .failing _ => none
  | .beginTeardown => some .closes
  | .finishTeardown =>
      match moment.reply with
      | .done => some .releases
      | .inapplicable | .started _ | .over _ => none
  | .enqueue _ _ frame key queue =>
      if (laneOfQueue queue).toOption = some lane then some (.sends frame key queue) else none
  | .completeTransmit address transfer =>
      if address = moment.before.config.outEndpoints.get lane then some (.takesBack transfer)
      else none
  | .completeReceive _ | .startPass | .proceedPass _ | .answerDelivery _ | .answerRepost _
  | .finishStatistics => none

/-- What is granted to a device that is being brought up. -/
def supplied? (moment : Moment) : Option (List Handle × List Bool) :=
  match moment.input with
  | .startBringUp supply =>
      if moment.before.device.stage = .created then
        some (supply.handles, acquisitions.map supply.grants)
      else none
  | _ => none

/-- The outcome of wrapping a frame, for which memory may be needed. -/
def wrapping? (moment : Moment) : Option (Except Fault Outgoing) :=
  match moment.input with
  | .enqueue memory _ frame key queue =>
      if moment.before.device.accepts then
        (laneOfQueue queue).toOption.map fun lane =>
          frame.wrap memory (selectorOfLane lane) (transmitFlags key)
      else none
  | _ => none

/-- At two moments others give the same answers, where they are asked at both. -/
structure AnsweredAlike (moment other : Moment) : Prop where
  supplied : ∀ supplied ∈ moment.supplied?, ∀ given ∈ other.supplied?, supplied = given
  wrapped : ∀ wrapped ∈ moment.wrapping?, ∀ given ∈ other.wrapping?, wrapped = given
  transport : ∀ submitted ∈ moment.transmitted, ∀ given ∈ other.transmitted,
    submitted.2.2 = given.2.2

/-- Two moments lead to the same on an output endpoint. -/
structure ActsAlike (lane : Lane) (moment other : Moment) : Prop where
  reply : moment.reply = other.reply
  traffic : traffic moment.effects = traffic other.effects
  ring : moment.after.transmit.get lane = other.after.transmit.get lane

/-- Two moments concern an output endpoint in the same way, and others answer alike. -/
structure Corresponds (lane : Lane) (moment other : Moment) : Prop where
  concern : moment.concern? lane = other.concern? lane
  answers : moment.AnsweredAlike other

end Moment

instance (lane : Lane) (moment other : Moment) : Decidable (moment.Corresponds lane other) :=
  decidable_of_iff
    (moment.concern? lane = other.concern? lane ∧
      (∀ supplied ∈ moment.supplied?, ∀ given ∈ other.supplied?, supplied = given) ∧
      (∀ wrapped ∈ moment.wrapping?, ∀ given ∈ other.wrapping?, wrapped = given) ∧
      ∀ submitted ∈ moment.transmitted, ∀ given ∈ other.transmitted,
        submitted.2.2 = given.2.2)
    ⟨fun same => ⟨same.1, same.2.1, same.2.2.1, same.2.2.2⟩,
      fun same => ⟨same.concern, same.answers.supplied, same.answers.wrapped,
        same.answers.transport⟩⟩

/-- The moments that concern an output endpoint. -/
def History.concerning (history : History) (lane : Lane) : History :=
  history.filter fun moment => (moment.concern? lane).isSome

/-! ## What does not concern an endpoint leaves it alone -/

namespace Moment

variable {moment : Moment} {lane : Lane}

/-- Of the rest an endpoint sees nothing at a routine input. -/
theorem endpoint_of_isRoutine (sound : moment.before.Sound)
    (routine : moment.input.isRoutine = true) :
    moment.after.endpoint lane =
      { moment.before.endpoint lane with ring := moment.after.transmit.get lane } := by
  obtain ⟨bringUp, teardowns⟩ := moment.rests routine
  obtain ⟨event, step, -⟩ := moment.reception_step
  obtain ⟨-, follows, -⟩ := step.of_rests sound.reception bringUp teardowns
  have standing : moment.after.device.stage.standing = moment.before.device.stage.standing :=
    follows.standing_eq
  simp only [Engine.endpoint, Engine.config_after moment, bringUp, standing]

/-- A frame or a transfer of another endpoint leaves the ring alone. -/
theorem ring_of_unconcerned (routine : moment.input.isRoutine = true)
    (unconcerned : moment.concern? lane = none) :
    moment.after.transmit.get lane = moment.before.transmit.get lane := by
  obtain ⟨engine, input⟩ := moment
  cases input with
  | startBringUp | proceedBringUp | answerPost | beginTeardown | finishTeardown => cases routine
  | completeReceive | startPass | proceedPass | answerDelivery => rw [(receives rfl).transmit]
  | answerRepost refusal =>
      rw [after_answerRepost, (engine.receives_answerRepost refusal).transmit]
  | finishStatistics =>
      exact congrArg (fun transmission => transmission.lanes.get lane)
        engine.transmission_finishStatistics
  | enqueue memory answer frame key queue =>
      rw [after_enqueue]
      cases engine.entryMove_enqueue memory answer frame key queue with
      | turnedDown lanes => rw [lanes]
      | @entered used ring mapped published lanes =>
          have apart : used ≠ lane := by
            rintro rfl
            simp [concern?, mapped, Except.toOption] at unconcerned
          rw [lanes, Lane.get_set, if_neg apart]
  | completeTransmit address transfer =>
      rw [after_completeTransmit]
      cases engine.retirementMove_completeTransmit address transfer with
      | turnedDown lanes => rw [lanes]
      | @retired used ring index found awaits retires lanes =>
          have apart : used ≠ lane := by
            rintro rfl
            simp [concern?, Config.lane?_eq_some found] at unconcerned
          rw [lanes, Lane.get_set, if_neg apart]

/-- A moment that does not concern an endpoint leaves it alone. -/
theorem endpoint_of_unconcerned (sound : moment.before.Sound)
    (unconcerned : moment.concern? lane = none) :
    moment.after.endpoint lane = moment.before.endpoint lane := by
  cases routine : moment.input.isRoutine with
  | true =>
      rw [endpoint_of_isRoutine sound routine, ring_of_unconcerned routine unconcerned]
      rfl
  | false =>
      obtain ⟨engine, input⟩ := moment
      cases input with
      | startBringUp | beginTeardown => simp [concern?] at unconcerned
      | proceedBringUp =>
          rw [after_proceedBringUp]
          cases proceeds : engine.proceedBringUp? with
          | none => rfl
          | some step =>
              simp only [concern?, reply, Engine.step, proceeds, Engine.ofBringUpStep,
                after_proceedBringUp, Option.getD_some] at unconcerned
              cases Engine.bringUpMove_of_proceeds proceeds with
              | posts posting | passes posting =>
                  simp [Engine.endpoint, posting, BringUp.outline]
              | abandons => simp [Engine.abandon] at unconcerned
              | comesUp | fails => simp at unconcerned
      | answerPost refusal =>
          rw [after_answerPost]
          cases place : engine.bringUp with
          | idle | posting | failing => simp only [Engine.answerPost, place]
          | submitting work =>
              cases refusal with
              | none => simp [Engine.answerPost, Engine.endpoint, place, BringUp.outline]
              | some refusal => simp [concern?, place] at unconcerned
      | finishTeardown =>
          rw [after_finishTeardown]
          cases finish : engine.finishTeardown? with
          | none => rfl
          | some finished =>
              simp [concern?, reply, Engine.step, finish, Engine.unlessStuck, Engine.possible]
                at unconcerned
      | completeReceive | startPass | proceedPass | answerDelivery | answerRepost | enqueue
      | completeTransmit | finishStatistics => cases routine

end Moment

/-! ## Sending and taking back, seen from an endpoint -/

namespace Endpoint

/-- What comes of a frame on an endpoint that is asked to send it: its ring, the acts by
which this shows, and the result. -/
def send (endpoint : Endpoint) (lane : Lane) (wrapped : Except Fault Outgoing)
    (answer : Transfer Outgoing → Option Refusal) :
    Ring Handle × List Effect × Except Fault Unit :=
  let ring := endpoint.ring
  if endpoint.standing.accepts then
    match wrapped with
    | .error fault => (ring, [], .error fault)
    | .ok outgoing =>
        if ring.isComplete then
          match ring.reserve? with
          | .error failure => (ring, [], .error (.failure failure))
          | .ok handle =>
              let transfer := Transfer.bind handle outgoing
              let submitted := fun refusal : Option Refusal =>
                Effect.submitTransmit (endpoint.config.outEndpoints.get lane) transfer refusal
              match answer transfer, ring.publish with
              | none, .ok next =>
                  (next, submitted none :: if next.isFull then [.stopQueue outgoing.queue] else [],
                    .ok ())
              | none, .error failure => (ring, [submitted none], .error (.failure failure))
              | some refusal, _ =>
                  (ring, [submitted (some refusal)], .error (.failure (.ofStatus refusal.status)))
        else (ring, [], .error (.failure .notReady))
  else (ring, [], .error (.failure .notReady))

/-- What comes of a transfer that ends on an endpoint: its ring, and the acts by which
this shows. -/
def takeBack (endpoint : Endpoint) (transfer : Transfer Outgoing) : Ring Handle × List Effect :=
  let ring := endpoint.ring
  if ring.Awaits transfer.handle then
    (match ring.retire? with
      | some (_, next) => next
      | none => ring,
      (if ring.used = wakeLevel ring.capacity then [.wakeQueue transfer.content.queue] else []) ++
        [.reportSent transfer.content transfer.status])
  else (ring, [])

end Endpoint

section

variable {effects : List Effect}

@[simp]
theorem traffic_append (before after : List Effect) :
    traffic (before ++ after) = traffic before ++ traffic after :=
  List.filter_append before after

/-- Log lines are no traffic. -/
theorem traffic_of_logs (logs : ∀ effect ∈ effects, effect.kind = .log) : traffic effects = [] := by
  rw [traffic, List.filter_eq_nil_iff]
  intro effect member
  have kind := logs effect member
  cases effect <;> simp_all [Effect.kind, Effect.isTraffic]

/-- All submissions of frames are traffic. -/
theorem filterMap_transmitted?_traffic (effects : List Effect) :
    (traffic effects).filterMap Effect.transmitted? = effects.filterMap Effect.transmitted? := by
  rw [traffic, List.filterMap_filter]
  apply List.filterMap_congr
  intro effect member
  cases effect <;> rfl

end

namespace Engine

variable (engine : Engine) {lane : Lane}

@[simp]
theorem accepts_endpoint :
    (engine.endpoint lane).standing.accepts = engine.device.accepts := by
  obtain ⟨config, ⟨stage, removed, more, reading⟩, rest⟩ := engine
  cases stage <;> rfl

@[simp]
theorem config_endpoint : (engine.endpoint lane).config = engine.config := rfl

@[simp]
theorem ring_endpoint : (engine.endpoint lane).ring = engine.transmit.get lane := rfl

theorem enterTransmit_endpoint {ring : Ring Handle} (queue : UInt8)
    (published : (engine.transmit.get lane).publish = .ok ring) :
    let step := engine.enterTransmit lane queue
    step.1.transmit.get lane = ring ∧
      traffic step.2.1 = (if ring.isFull then [.stopQueue queue] else []) ∧ step.2.2 = .ok () := by
  simp only [enterTransmit, published, setLane]
  refine ⟨?_, ?_, trivial⟩
  · rw [Lane.get_set, if_pos rfl]
  · cases ring.isFull <;> rfl

theorem refuseTransmit_endpoint (refusal : Refusal) :
    let step := engine.refuseTransmit refusal
    step.1.transmit = engine.transmit ∧ traffic step.2.1 = [] ∧
      step.2.2 = .error (.failure (.ofStatus refusal.status)) := by
  have silent := traffic_of_logs (engine.kind_refuseTransmit refusal)
  simp only
  refine ⟨?_, silent, ?_⟩
  · unfold refuseTransmit
    simp only
    split <;> rfl
  · unfold refuseTransmit
    simp only
    split <;> rfl

theorem submitTransmit_endpoint (answer : Transfer Outgoing → Option Refusal)
    (outgoing : Outgoing) (accepts : engine.device.accepts = true) :
    let step := engine.submitTransmit answer lane outgoing
    (step.1.transmit.get lane, traffic step.2.1, step.2.2) =
      (engine.endpoint lane).send lane (.ok outgoing) answer := by
  cases complete : (engine.transmit.get lane).isComplete with
  | false =>
      simp only [submitTransmit, Endpoint.send, accepts_endpoint, ring_endpoint, accepts, complete,
        Bool.not_false, Bool.true_or, Bool.false_eq_true, if_true, if_false]
      rfl
  | true =>
      cases reserved : (engine.transmit.get lane).reserve? with
      | error failure =>
          simp only [submitTransmit, Endpoint.send, accepts_endpoint, ring_endpoint, accepts,
            complete, reserved, Bool.not_true, Bool.or_self, Bool.false_eq_true, if_true, if_false]
          rfl
      | ok handle =>
          obtain ⟨ring, published⟩ :=
            Ring.exists_publish (Transmission.offers_of_reserve? reserved).2.1
          cases verdict : answer (.bind handle outgoing) with
          | none =>
              obtain ⟨after, acts, result⟩ := engine.enterTransmit_endpoint outgoing.queue published
              simp only [submitTransmit, Endpoint.send, accepts_endpoint, ring_endpoint, accepts,
                complete, reserved, verdict, published, after, result, Bool.not_true, Bool.or_self,
                Bool.false_eq_true, if_true, if_false, ← acts]
              rfl
          | some refusal =>
              obtain ⟨after, acts, result⟩ := engine.refuseTransmit_endpoint refusal
              simp only [submitTransmit, Endpoint.send, accepts_endpoint, ring_endpoint, accepts,
                complete, reserved, verdict, published, after, result, Bool.not_true, Bool.or_self,
                Bool.false_eq_true, if_true, if_false, ← acts]
              rfl

theorem enqueue_endpoint {queue : UInt8} (mapped : laneOfQueue queue = .ok lane) (memory : Memory)
    (answer : Transfer Outgoing → Option Refusal) (frame : Outgoing) (key : UInt8) :
    let step := engine.enqueue memory answer frame key queue
    (step.1.transmit.get lane, traffic step.2.1, step.2.2) =
      (engine.endpoint lane).send lane
        (frame.wrap memory (selectorOfLane lane) (transmitFlags key)) answer := by
  unfold enqueue
  cases accepts : engine.device.accepts with
  | false =>
      simp only [Endpoint.send, accepts_endpoint, accepts, Bool.false_eq_true, if_false]
      rfl
  | true =>
      simp only [if_true, mapped]
      cases frame.wrap memory (selectorOfLane lane) (transmitFlags key) with
      | error fault =>
          simp only [Endpoint.send, accepts_endpoint, accepts, if_true]
          rfl
      | ok outgoing => exact engine.submitTransmit_endpoint answer outgoing accepts

theorem acceptTransmit_endpoint (transfer : Transfer Outgoing)
    (awaits : (engine.transmit.get lane).Awaits transfer.handle) :
    let step := engine.acceptTransmit lane transfer
    (step.1.transmit.get lane, traffic step.2) = (engine.endpoint lane).takeBack transfer := by
  intro step
  obtain ⟨index, ring, retired⟩ := Ring.exists_retire? awaits.2.1
  have lanes : step.1.transmit = engine.transmit.set lane ring lane.isLt :=
    congrArg Transmission.lanes (Transmission.transmission_acceptTransmit engine retired).1
  have acts : traffic step.2 =
      (if (engine.transmit.get lane).used = wakeLevel (engine.transmit.get lane).capacity then
          [.wakeQueue transfer.content.queue]
        else []) ++ [.reportSent transfer.content transfer.status] := by
    rw [snd_acceptTransmit]
    split <;> split <;> rfl
  rw [lanes, acts, Endpoint.takeBack, ring_endpoint, if_pos awaits, retired, Lane.get_set,
    if_pos rfl]

theorem completeTransmit_endpoint {address : UInt8}
    (found : engine.config.lane? address = some lane) (transfer : Transfer Outgoing) :
    let step := engine.completeTransmit address transfer
    (step.1.transmit.get lane, traffic step.2) = (engine.endpoint lane).takeBack transfer := by
  have complaint := traffic_of_logs (engine.kind_complaint transfer.status
    (.transmitFailed transfer.handle transfer.status))
  obtain ⟨step, move, same⟩ := engine.exists_returnMove address transfer
  simp only [same, traffic_append, complaint, List.nil_append]
  have still : ¬ (engine.transmit.get lane).Awaits transfer.handle →
      (engine.endpoint lane).takeBack transfer = (engine.transmit.get lane, []) := by
    intro unexpected
    rw [Endpoint.takeBack, ring_endpoint, if_neg unexpected]
  cases move with
  | dismissed line unexpected =>
      rw [still (unexpected lane found), traffic_of_logs (engine.kind_dismissTransmit line)]
      rfl
  | ignored elsewhere incomplete =>
      obtain rfl := Option.some.inj (found.symm.trans elsewhere)
      rw [still fun awaits => by simp [awaits.1] at incomplete]
      rfl
  | accepted elsewhere awaits =>
      obtain rfl := Option.some.inj (found.symm.trans elsewhere)
      exact engine.acceptTransmit_endpoint transfer awaits

end Engine

/-! ## What does concern an endpoint -/

/-- The failure of a bringing up that gives up. -/
def failureOf : Option Refusal → Failure
  | some refusal => .ofStatus refusal.status
  | none => .notReady

namespace Moment

/-- What a moment does that concerns an output endpoint. -/
inductive Concerned (moment : Moment) (lane : Lane) : Concern → Prop where
  | starts {supply : Supply} (input : moment.input = .startBringUp supply) :
      Concerned moment lane .starts
  | givesUp {refusal? : Option Refusal} (receiving : moment.input.isReceiving = true)
      (reply : moment.reply = .done)
      (after : moment.after.endpoint lane =
        { moment.before.endpoint lane with
          standing := .dead
          bringUp := .failing (failureOf refusal?) }) :
      Concerned moment lane (.givesUp refusal?)
  | comesUp (receiving : moment.input.isReceiving = true)
      (active : (moment.before.endpoint lane).bringUp = .active)
      (reply : moment.reply = .over (.ok ()))
      (after : moment.after.endpoint lane = { moment.before.endpoint lane with bringUp := .idle }) :
      Concerned moment lane .ends
  | fails {failure : Failure} (receiving : moment.input.isReceiving = true)
      (failing : (moment.before.endpoint lane).bringUp = .failing failure)
      (reply : moment.reply = .over (.error (.failure failure)))
      (after : moment.after.endpoint lane =
        { moment.before.endpoint lane with
          bringUp := .idle
          ring := (moment.before.endpoint lane).ring.drain.2 }) :
      Concerned moment lane .ends
  | closes (receiving : moment.input.isReceiving = true) (reply : moment.reply = .done)
      (after : moment.after.endpoint lane =
        { moment.before.endpoint lane with standing := .dead }) :
      Concerned moment lane .closes
  | releases (receiving : moment.input.isReceiving = true) (reply : moment.reply = .done)
      (after : moment.after.endpoint lane =
        { moment.before.endpoint lane with ring := (moment.before.endpoint lane).ring.drain.2 }) :
      Concerned moment lane .releases
  | sends {memory : Memory} {answer : Transfer Outgoing → Option Refusal} {frame : Outgoing}
      {key queue : UInt8} (input : moment.input = .enqueue memory answer frame key queue)
      (mapped : laneOfQueue queue = .ok lane) :
      Concerned moment lane (.sends frame key queue)
  | takesBack {address : UInt8} {transfer : Transfer Outgoing}
      (input : moment.input = .completeTransmit address transfer)
      (found : moment.before.config.lane? address = some lane) :
      Concerned moment lane (.takesBack transfer)

variable {lane : Lane} {concern : Concern}

theorem concerned_proceedBringUp {engine : Engine}
    (concerns : (mk engine .proceedBringUp).concern? lane = some concern) :
    (mk engine .proceedBringUp).Concerned lane concern := by
  have after := after_proceedBringUp engine
  cases proceeds : engine.proceedBringUp? with
  | none => simp [concern?, reply, Engine.step, proceeds] at concerns
  | some step =>
      have reply : (mk engine .proceedBringUp).reply = (Engine.ofBringUpStep step).2.2 := by
        simp only [reply, Engine.step, proceeds]
      rw [proceeds, Option.getD_some] at after
      simp only [concern?, reply, after] at concerns
      cases Engine.bringUpMove_of_proceeds proceeds with
      | posts | passes => cases concerns
      | abandons =>
          cases concerns
          refine .givesUp rfl reply ?_
          rw [after]
          rfl
      | comesUp posting =>
          cases concerns
          refine .comesUp rfl ?_ reply ?_
          · show engine.bringUp.outline = .active
            rw [posting]
            rfl
          · rw [after]
            rfl
      | fails failing finish =>
          cases concerns
          refine .fails rfl ?_ reply ?_
          · show engine.bringUp.outline = _
            rw [failing]
            rfl
          · obtain ⟨-, -, rfl⟩ := Engine.finishTeardown?_eq_some finish
            rw [after]
            simp only [Engine.endpoint, Lane.get_map]
            rfl

theorem concerned_answerPost {engine : Engine} {refusal : Option Refusal}
    (concerns : (mk engine (.answerPost refusal)).concern? lane = some concern) :
    (mk engine (.answerPost refusal)).Concerned lane concern := by
  cases place : engine.bringUp with
  | idle | posting | failing => simp [concern?, place] at concerns
  | submitting work =>
      cases refusal with
      | none => simp [concern?, place] at concerns
      | some refusal =>
          simp only [concern?, place, Option.map_some, Option.some.injEq] at concerns
          subst concerns
          refine .givesUp rfl rfl ?_
          rw [after_answerPost]
          simp only [Engine.answerPost, place]
          rfl

theorem concerned {moment : Moment} (valid : moment.before.config.isValid = true)
    (concerns : moment.concern? lane = some concern) : moment.Concerned lane concern := by
  obtain ⟨engine, input⟩ := moment
  cases input with
  | startBringUp supply =>
      cases concerns
      exact .starts rfl
  | proceedBringUp => exact concerned_proceedBringUp concerns
  | answerPost refusal => exact concerned_answerPost concerns
  | beginTeardown =>
      cases concerns
      exact .closes rfl rfl rfl
  | finishTeardown =>
      have after := after_finishTeardown engine
      cases finish : engine.finishTeardown? with
      | none => simp [concern?, reply, Engine.step, Engine.unlessStuck, finish] at concerns
      | some finished =>
          have reply : (mk engine .finishTeardown).reply = .done := by
            simp only [reply, Engine.step, Engine.unlessStuck, finish, Engine.possible]
          simp only [concern?, reply, Option.some.injEq] at concerns
          subst concerns
          refine .releases rfl reply ?_
          obtain ⟨-, -, rfl⟩ := Engine.finishTeardown?_eq_some finish
          rw [after, finish, Option.getD_some]
          simp only [Engine.endpoint, Lane.get_map]
  | enqueue memory answer frame key queue =>
      simp only [concern?] at concerns
      split at concerns
      next mapped =>
        cases concerns
        refine .sends rfl ?_
        cases same : laneOfQueue queue with
        | error failure => simp [same, Except.toOption] at mapped
        | ok used => simpa [same, Except.toOption] using mapped
      next => contradiction
  | completeTransmit address transfer =>
      simp only [concern?] at concerns
      split at concerns
      next same =>
        cases concerns
        refine .takesBack rfl ?_
        cases found : engine.config.lane? address with
        | none => exact absurd same.symm (Config.ne_of_lane?_eq_none found lane)
        | some used =>
            have equal := Config.lane?_eq_some found
            rw [same] at equal
            rw [Config.outEndpoints_injective valid equal]
      next => contradiction
  | completeReceive | startPass | proceedPass | answerDelivery | answerRepost | finishStatistics =>
      cases concerns

/-- Only sending and taking back are traffic. -/
theorem traffic_of_isReceiving {moment : Moment} (receiving : moment.input.isReceiving = true) :
    traffic moment.effects = [] := by
  rw [traffic, List.filter_eq_nil_iff]
  intro effect member
  have possible := moment.kind_mem_kinds effect member
  cases input : moment.input <;> rw [input] at possible receiving <;>
    cases effect <;> simp_all [Input.kinds, Input.isReceiving, Effect.kind, Effect.isTraffic]

end Moment

/-! ## Two engines that an endpoint cannot tell apart -/

namespace Engine

/-- Two engines have the same configuration and the same rings. -/
structure SameRings (engine other : Engine) : Prop where
  config : engine.config = other.config
  receive : engine.receive = other.receive
  transmit : engine.transmit = other.transmit

/-- What is acquired depends on the configuration and the rings only. -/
theorem SameRings.acquire {engine other : Engine} (same : SameRings engine other)
    {supply given : Supply} (handles : supply.handles = given.handles) (needed : List Acquisition)
    (grants : ∀ acquisition ∈ needed, supply.grants acquisition = given.grants acquisition) :
    SameRings (engine.acquire supply needed).1 (other.acquire given needed).1 ∧
      (engine.acquire supply needed).2 = (other.acquire given needed).2 := by
  induction needed generalizing engine other supply given with
  | nil => exact ⟨same, rfl⟩
  | cons first later hypothesis =>
      rw [List.forall_mem_cons] at grants
      obtain ⟨now, rest⟩ := grants
      have going := hypothesis same handles rest
      cases first with
      | transmitStorage lane | receiveStorage =>
          simp only [Engine.acquire, now]
          split
          · exact going
          · exact ⟨same, rfl⟩
      | transmitHandle lane =>
          simp only [Engine.acquire, addTransmitSlot, handles, same.transmit]
          split
          · exact ⟨same, rfl⟩
          next handle others supplied =>
            cases (other.transmit.get lane).push handle with
            | error failure => exact ⟨same, rfl⟩
            | ok ring =>
                obtain ⟨alike, result⟩ := @hypothesis
                  { engine with transmit := other.transmit.set lane ring lane.isLt }
                  { other with transmit := other.transmit.set lane ring lane.isLt }
                  ⟨same.config, same.receive, rfl⟩ { supply with handles := others }
                  { given with handles := others } rfl rest
                exact ⟨alike, by simp only [result]⟩
      | receiveSlot index =>
          simp only [Engine.acquire, addReceiveSlot, handles, same.config, same.receive, now]
          split
          · split
            · exact ⟨same, rfl⟩
            next handle others supplied =>
              cases other.receive.push
                { handle := handle, buffer := some (Buffer.zeroed other.config.bufferSize) } with
              | error failure => exact ⟨same, rfl⟩
              | ok ring =>
                  obtain ⟨alike, result⟩ := @hypothesis
                    { engine with config := other.config, receive := ring }
                    { other with receive := ring } ⟨rfl, rfl, same.transmit⟩
                    { supply with handles := others } { given with handles := others } rfl rest
                  exact ⟨alike, by simp only [result]⟩
          · exact ⟨same, rfl⟩

/-- A device that was only created has no rings of its own. -/
theorem Sound.sameRings {engine other : Engine} (sound : engine.Sound) (further : other.Sound)
    (config : engine.config = other.config) (created : engine.device.stage = .created)
    (early : other.device.stage = .created) : SameRings engine other where
  config := config
  receive := by
    have untouched := sound.reception.untouched created
    have fresh := further.reception.untouched early
    exact congrArg Reception.ring (untouched.trans fresh.symm)
  transmit := by
    have empty : ∀ lane : Lane, engine.transmit.get lane = other.transmit.get lane := fun lane =>
      (sound.transmission.untouched created lane).trans
        (further.transmission.untouched early lane).symm
    exact Vector.ext fun index below => empty ⟨index, below⟩

end Engine

namespace Endpoint

/-- Memory is not asked for on a device that does not accept. -/
theorem send_of_shut {endpoint : Endpoint} (shut : endpoint.standing.accepts = false)
    (lane : Lane) (wrapped : Except Fault Outgoing)
    (answer : Transfer Outgoing → Option Refusal) :
    endpoint.send lane wrapped answer = (endpoint.ring, [], .error (.failure .notReady)) := by
  simp only [send, shut, Bool.false_eq_true, if_false]

/-- Answers that do not differ where they are given do not matter. -/
theorem send_congr {endpoint : Endpoint} {lane : Lane} {wrapped : Except Fault Outgoing}
    {answer given : Transfer Outgoing → Option Refusal}
    (same : ∀ submitted ∈ (endpoint.send lane wrapped answer).2.1.filterMap Effect.transmitted?,
      ∀ other ∈ (endpoint.send lane wrapped given).2.1.filterMap Effect.transmitted?,
        submitted.2.2 = other.2.2) :
    endpoint.send lane wrapped answer = endpoint.send lane wrapped given := by
  cases accepts : endpoint.standing.accepts with
  | false => rw [send_of_shut accepts, send_of_shut accepts]
  | true =>
      cases wrapped with
      | error fault => simp only [send, accepts]
      | ok outgoing =>
          cases complete : endpoint.ring.isComplete with
          | false => simp only [send, accepts, complete, Bool.false_eq_true, if_false]
          | true =>
              cases reserved : endpoint.ring.reserve? with
              | error failure => simp only [send, accepts, complete, reserved]
              | ok handle =>
                  have shown : ∀ asked, ∃ entry ∈ (endpoint.send lane (.ok outgoing)
                      asked).2.1.filterMap Effect.transmitted?,
                      entry.2.2 = asked (.bind handle outgoing) := by
                    intro asked
                    simp only [send, accepts, complete, reserved, if_true]
                    cases asked (.bind handle outgoing) <;> cases endpoint.ring.publish <;>
                      simp [Effect.transmitted?]
                  obtain ⟨submitted, member, verdict⟩ := shown answer
                  obtain ⟨other, inOther, answered⟩ := shown given
                  have equal : answer (.bind handle outgoing) = given (.bind handle outgoing) :=
                    verdict.symm.trans ((same submitted member other inOther).trans answered)
                  simp only [send, accepts, complete, reserved, if_true, equal]

end Endpoint

namespace Moment

variable {moment other : Moment} {lane : Lane}

theorem alike_of_starts {engine another : Engine} {supply given : Supply} (sound : engine.Sound)
    (further : another.Sound) (alike : engine.endpoint lane = another.endpoint lane)
    (answers :
      (mk engine (.startBringUp supply)).AnsweredAlike (mk another (.startBringUp given))) :
    (mk engine (.startBringUp supply)).reply = (mk another (.startBringUp given)).reply ∧
      (mk engine (.startBringUp supply)).after.endpoint lane =
        (mk another (.startBringUp given)).after.endpoint lane := by
  have config : engine.config = another.config := congrArg Endpoint.config alike
  have standing : engine.device.stage.standing = another.device.stage.standing :=
    congrArg Endpoint.standing alike
  have bringUp : engine.bringUp.outline = another.bringUp.outline :=
    congrArg Endpoint.bringUp alike
  have both := Stage.created_iff_of_standing standing
  by_cases created : engine.device.stage = .created
  · have early := both.mp created
    have asked := answers.supplied _ (if_pos created) _ (if_pos early)
    rw [Prod.mk.injEq, List.map_inj_left] at asked
    obtain ⟨rings, result⟩ :=
      (sound.sameRings further config created early).acquire asked.1 acquisitions asked.2
    have device := engine.device_acquire supply acquisitions
    have same := another.device_acquire given acquisitions
    cases gained : engine.acquire supply acquisitions with
    | mk acquired outcome =>
        cases secured : another.acquire given acquisitions with
        | mk obtained other =>
            rw [gained] at rings result device
            rw [secured] at rings result same
            simp only at rings result device same
            subst result
            obtain ⟨effects, failure⟩ := outcome
            have ring : acquired.transmit.get lane = obtained.transmit.get lane := by
              rw [rings.transmit]
            constructor
            · simp only [reply, Engine.step, Engine.startBringUp, ne_eq, created, early,
                not_true_eq_false, if_false, gained, secured]
              cases failure <;> rfl
            · simp only [after_startBringUp, Engine.startBringUp, ne_eq, created, early,
                not_true_eq_false, if_false, gained, secured]
              cases failure with
              | none =>
                  simp only [Engine.endpoint, rings.config, ring, device, same, Device.start,
                    created, early, if_true]
              | some failure =>
                  simp only [Engine.abandon, Engine.beginTeardown, Engine.endpoint, rings.config,
                    ring, Device.kill]
  · have late := mt both.mpr created
    refine ⟨?_, ?_⟩
    · simp only [reply, Engine.step, Engine.startBringUp, ne_eq, created, late,
        not_false_eq_true, if_true]
      rfl
    · rw [after_startBringUp, after_startBringUp, Engine.startBringUp, Engine.startBringUp,
        if_pos created, if_pos late]
      exact alike

/-- Moments that neither send nor take back show in the replies only. -/
theorem alike_of_isReceiving (receiving : moment.input.isReceiving = true)
    (also : other.input.isReceiving = true) (reply : moment.reply = other.reply)
    (after : moment.after.endpoint lane = other.after.endpoint lane) :
    ActsAlike lane moment other ∧ moment.after.endpoint lane = other.after.endpoint lane := by
  refine ⟨⟨reply, ?_, congrArg Endpoint.ring after⟩, after⟩
  rw [traffic_of_isReceiving receiving, traffic_of_isReceiving also]

/-- Routine moments show in the replies, in the traffic and in the ring. -/
theorem alike_of_isRoutine (sound : moment.before.Sound) (further : other.before.Sound)
    (routine : moment.input.isRoutine = true) (also : other.input.isRoutine = true)
    (alike : moment.before.endpoint lane = other.before.endpoint lane)
    (acts : ActsAlike lane moment other) :
    ActsAlike lane moment other ∧ moment.after.endpoint lane = other.after.endpoint lane := by
  refine ⟨acts, ?_⟩
  rw [endpoint_of_isRoutine sound routine, endpoint_of_isRoutine further also, alike, acts.ring]

theorem alike_of_sends {engine another : Engine} {memory given : Memory}
    {answer reply : Transfer Outgoing → Option Refusal} {frame : Outgoing} {key queue : UInt8}
    (mapped : laneOfQueue queue = .ok lane)
    (alike : engine.endpoint lane = another.endpoint lane)
    (answers : AnsweredAlike ⟨engine, .enqueue memory answer frame key queue⟩
      ⟨another, .enqueue given reply frame key queue⟩) :
    ActsAlike lane ⟨engine, .enqueue memory answer frame key queue⟩
      ⟨another, .enqueue given reply frame key queue⟩ := by
  have first := engine.enqueue_endpoint mapped memory answer frame key
  have second := another.enqueue_endpoint mapped given reply frame key
  have accepts : engine.device.accepts = another.device.accepts := by
    rw [← engine.accepts_endpoint, ← another.accepts_endpoint, alike]
  have wrapped : engine.device.accepts = true →
      frame.wrap memory (selectorOfLane lane) (transmitFlags key) =
        frame.wrap given (selectorOfLane lane) (transmitFlags key) := by
    intro accepting
    apply answers.wrapped
    · simp [wrapping?, accepting, mapped, Except.toOption]
    · simp [wrapping?, ← accepts, accepting, mapped, Except.toOption]
  have same : (engine.endpoint lane).send lane
        (frame.wrap memory (selectorOfLane lane) (transmitFlags key)) answer =
      (another.endpoint lane).send lane
        (frame.wrap given (selectorOfLane lane) (transmitFlags key)) reply := by
    rw [alike] at first ⊢
    cases accepting : engine.device.accepts with
    | false =>
        have shut : (another.endpoint lane).standing.accepts = false := by
          rw [another.accepts_endpoint, ← accepts, accepting]
        rw [Endpoint.send_of_shut shut, Endpoint.send_of_shut shut]
    | true =>
        rw [wrapped accepting] at first ⊢
        apply Endpoint.send_congr
        rw [← first, ← second]
        simp only [filterMap_transmitted?_traffic]
        exact answers.transport
  have equal := (first.trans same).trans second.symm
  simp only [Prod.mk.injEq] at equal
  obtain ⟨ring, acts, result⟩ := equal
  exact ⟨congrArg Reply.over result, acts, ring⟩

theorem alike_of_takesBack {engine another : Engine} {address also : UInt8}
    {transfer : Transfer Outgoing} (found : engine.config.lane? address = some lane)
    (further : another.config.lane? also = some lane)
    (alike : engine.endpoint lane = another.endpoint lane) :
    ActsAlike lane ⟨engine, .completeTransmit address transfer⟩
      ⟨another, .completeTransmit also transfer⟩ := by
  have first := engine.completeTransmit_endpoint found transfer
  have second := another.completeTransmit_endpoint further transfer
  rw [alike, ← second] at first
  simp only [Prod.mk.injEq] at first
  exact ⟨rfl, first.2, first.1⟩

/-- At corresponding moments two engines that an endpoint cannot tell apart do the same for
it and stay so. -/
theorem actsAlike (sound : moment.before.Sound) (further : other.before.Sound)
    (valid : moment.before.config.isValid = true)
    (alike : moment.before.endpoint lane = other.before.endpoint lane)
    (concerns : (moment.concern? lane).isSome = true)
    (corresponds : Corresponds lane moment other) :
    ActsAlike lane moment other ∧ moment.after.endpoint lane = other.after.endpoint lane := by
  obtain ⟨concern, found⟩ := Option.isSome_iff_exists.mp concerns
  have config : moment.before.config = other.before.config := congrArg Endpoint.config alike
  have here := concerned valid found
  have there := concerned (config ▸ valid) (corresponds.concern ▸ found)
  cases here with
  | starts input =>
      cases there with
      | starts given =>
          obtain ⟨engine, _⟩ := moment
          obtain ⟨another, _⟩ := other
          subst input given
          obtain ⟨reply, after⟩ := alike_of_starts sound further alike corresponds.answers
          exact alike_of_isReceiving rfl rfl reply after
  | givesUp receiving reply after =>
      cases there with
      | givesUp also same behind =>
          exact alike_of_isReceiving receiving also (reply.trans same.symm)
            (by rw [after, behind, alike])
  | comesUp receiving active reply after =>
      cases there with
      | comesUp also _ same behind =>
          exact alike_of_isReceiving receiving also (reply.trans same.symm)
            (by rw [after, behind, alike])
      | fails _ failing =>
          rw [← alike, active] at failing
          contradiction
  | fails receiving failing reply after =>
      cases there with
      | comesUp _ active =>
          rw [← alike, failing] at active
          contradiction
      | fails also broken same behind =>
          rw [← alike, failing] at broken
          cases broken
          exact alike_of_isReceiving receiving also (reply.trans same.symm)
            (by rw [after, behind, alike])
  | closes receiving reply after =>
      cases there with
      | closes also same behind =>
          exact alike_of_isReceiving receiving also (reply.trans same.symm)
            (by rw [after, behind, alike])
  | releases receiving reply after =>
      cases there with
      | releases also same behind =>
          exact alike_of_isReceiving receiving also (reply.trans same.symm)
            (by rw [after, behind, alike])
  | sends input mapped =>
      cases there with
      | sends given _ =>
          obtain ⟨engine, _⟩ := moment
          obtain ⟨another, _⟩ := other
          subst input given
          exact alike_of_isRoutine sound further rfl rfl alike
            (alike_of_sends mapped alike corresponds.answers)
  | takesBack input onLane =>
      cases there with
      | takesBack given also =>
          obtain ⟨engine, _⟩ := moment
          obtain ⟨another, _⟩ := other
          subst input given
          exact alike_of_isRoutine sound further rfl rfl alike
            (alike_of_takesBack onLane also alike)

end Moment

/-! ## Whole runs -/

namespace History

/-- The moments of a list follow one another as far as an endpoint can see. -/
def Linked (lane : Lane) : Endpoint → History → Prop
  | _, [] => True
  | endpoint, moment :: later =>
      moment.before.Sound ∧ moment.before.endpoint lane = endpoint ∧
        (moment.concern? lane).isSome = true ∧ Linked lane (moment.after.endpoint lane) later

theorem linked_concerning {engine : Engine} (sound : engine.Sound) (lane : Lane)
    (inputs : List Input) :
    Linked lane (engine.endpoint lane) ((engine.history inputs).concerning lane) := by
  induction inputs generalizing engine with
  | nil => trivial
  | cons input later hypothesis =>
      have rest := hypothesis (@Engine.Sound.after ⟨engine, input⟩ sound)
      rw [Engine.history, concerning, List.filter_cons]
      split
      next concerned => exact ⟨sound, rfl, concerned, rest⟩
      next unconcerned =>
        rw [Option.not_isSome_iff_eq_none] at unconcerned
        rw [← Moment.endpoint_of_unconcerned sound unconcerned]
        exact rest

theorem Linked.actsAlike {lane : Lane} {endpoint : Endpoint} {first second : History}
    (valid : endpoint.config.isValid = true) (linked : Linked lane endpoint first)
    (other : Linked lane endpoint second)
    (corresponds : List.Forall₂ (Moment.Corresponds lane) first second) :
    List.Forall₂ (Moment.ActsAlike lane) first second := by
  induction corresponds generalizing endpoint with
  | nil => exact .nil
  | cons pair rest hypothesis =>
      obtain ⟨sound, rfl, concerned, linked⟩ := linked
      obtain ⟨further, same, -, other⟩ := other
      obtain ⟨acts, alike⟩ := Moment.actsAlike sound further valid same.symm concerned pair
      rw [← alike] at other
      refine .cons acts (hypothesis ?_ linked other)
      rw [Engine.config_endpoint, Engine.config_after]
      exact valid

end History

namespace Engine

/-- **Output endpoints are isolated from each other and from reception.**

Two runs go on from the same state.  The moments that concern an output endpoint are the
same in both, one after another: bringing up starts, gives up or is over, teardowns begin
and are finished, frames are sent from the hardware queue of the endpoint, and transfers
end on its address.  Where others are asked at two such moments, they answer alike.
Everything else may differ, in number, in order and in place.  Then the endpoint has the
same ring after corresponding moments, and these give the same replies, submit the same
transfers, stop and wake the same queues and hand the same frames back. -/
theorem lanes_isolated (config : Config) (valid : config.isValid = true) (before : List Input)
    (lane : Lane) (first second : List Input)
    (corresponds :
      let engine := ((fresh config).run before).1
      List.Forall₂ (Moment.Corresponds lane) ((engine.history first).concerning lane)
        ((engine.history second).concerning lane)) :
    let engine := ((fresh config).run before).1
    List.Forall₂ (Moment.ActsAlike lane) ((engine.history first).concerning lane)
      ((engine.history second).concerning lane) := by
  have sound := sound_run config before
  have checked : (((fresh config).run before).1.endpoint lane).config.isValid = true := by
    rw [config_endpoint, config_run]
    exact valid
  exact (History.linked_concerning sound lane first).actsAlike checked
    (History.linked_concerning sound lane second) corresponds

/-- What happens to others between two frames of the first endpoint for data, one of which
comes back: a frame of another endpoint finds the device removed, a buffer is received,
and statistics are read. -/
def othersBetween : List Input :=
  let next : Input := .proceedPass fun _ => true
  [.enqueue (fun _ => true) (fun _ => some ⟨.noDevice, true⟩) (.bare [] 1) noHardwareKey 1,
    .completeReceive ⟨384, ⟨[]⟩, .io 5, 0⟩, .startPass, next, next, .answerRepost none, next,
    .completeTransmit 3 ⟨64, .bare [] 1, .ok, 0⟩, .finishStatistics]

/-- A frame is sent, comes back, and another one is sent, with and without all that. -/
theorem lanes_isolated_removal :
    let engine := ((fresh .small).run bringUpInputs).1
    let lane : Lane := ⟨1, by decide⟩
    let first := [sending 1, ending 1 64, sending 1]
    let second := sending 1 :: othersBetween ++ ending 1 64 :: othersBetween ++ [sending 1]
    let shown := fun inputs =>
      ((engine.history inputs).concerning lane).map fun moment => traffic moment.effects
    (engine.run second).1.device.removed = true ∧ (shown first).map List.length = [1, 1, 1] ∧
      shown second = shown first := by
  intro engine lane first second shown
  have facts : (engine.run second).1.device.removed = true ∧
      (shown first).map List.length = [1, 1, 1] ∧
      List.Forall₂ (Moment.Corresponds lane) ((engine.history second).concerning lane)
        ((engine.history first).concerning lane) := by
    decide +kernel
  obtain ⟨removed, lengths, corresponds⟩ := facts
  have alike := lanes_isolated .small (by decide) bringUpInputs lane second first corresponds
  refine ⟨removed, lengths, ?_⟩
  rw [← List.forall₂_eq_eq_eq, List.forall₂_map_left_iff, List.forall₂_map_right_iff]
  exact alike.imp fun _ _ acts => acts.traffic

end Engine

end WlanDatapath
