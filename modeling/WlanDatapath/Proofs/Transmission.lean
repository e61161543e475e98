import WlanDatapath.Proofs.Reception
import WlanDatapath.Proofs.Separation

/-!
# Transmission as a transition system

Seen from the output endpoints an engine has a stage of life and one ring of
handles for each endpoint.  `Transmission.Step` says everything that one step can
do to these, with the conditions under which it does, and `Transmission.Event`
what the step means.

`Moment.transmission_step` ties this system to the engine, as
`Moment.reception_step` does for reception.
-/

namespace WlanDatapath

/-! ## The system -/

/-- A transfer on this handle is the oldest one in flight. -/
def Ring.Awaits (ring : Ring Handle) (handle : Handle) : Prop :=
  ring.isComplete = true ∧ ring.isEmpty = false ∧ ring.consumer? = some handle

/-- The next transfer goes out on this handle. -/
def Ring.Offers (ring : Ring Handle) (handle : Handle) : Prop :=
  ring.isComplete = true ∧ ring.isFull = false ∧ ring.producer? = some handle

/-- The part of an engine that transmission is about. -/
structure Transmission where
  config : Config
  stage : Stage
  lanes : Vector (Ring Handle) laneCount
  teardowns : Nat

/-- What an engine is for transmission. -/
def Engine.transmission (engine : Engine) : Transmission where
  config := engine.config
  stage := engine.device.stage
  lanes := engine.transmit
  teardowns := engine.teardowns

namespace Transmission

/-- What a step means for transmission.  A transfer that ends is retired from the
ring that awaits it, dismissed if none does, and ignored if its ring is released. -/
inductive Event where
  | quiet
  | acquired
  | taken (lane : Lane) (transfer : Transfer Outgoing)
  | refused (lane : Lane) (transfer : Transfer Outgoing) (refusal : Refusal)
  | retired (lane : Lane) (address : UInt8) (transfer : Transfer Outgoing)
  | dismissed (address : UInt8) (transfer : Transfer Outgoing)
  | ignored (address : UInt8) (transfer : Transfer Outgoing)
  | closed
  | drained

/-- Everything that one step can do. -/
inductive Step : Transmission → Event → Transmission → Prop where
  | unchanged {transmission stage} (follows : transmission.stage.Follows stage) :
      Step transmission .quiet { transmission with stage := stage }
  | acquired {transmission lanes} {handles : Lane → List Handle}
      (created : transmission.stage = .created)
      (count : ∀ lane, (handles lane).length = transmitSlots)
      (extended : ∀ lane : Lane,
        lanes.get lane = (transmission.lanes.get lane).extend (handles lane)) :
      Step transmission .acquired { transmission with stage := .running, lanes := lanes }
  | acquisitionFailed {transmission lanes} {handles : Lane → List Handle}
      (created : transmission.stage = .created)
      (count : ∀ lane, (handles lane).length ≤ transmitSlots)
      (extended : ∀ lane : Lane,
        lanes.get lane = (transmission.lanes.get lane).extend (handles lane)) :
      Step transmission .acquired
        { transmission with
          stage := .dead
          lanes := lanes
          teardowns := transmission.teardowns + 1 }
  | taken {transmission lane transfer ring} (accepts : transmission.stage.accepts = true)
      (data : lane.val ≠ 0) (offers : (transmission.lanes.get lane).Offers transfer.handle)
      (published : (transmission.lanes.get lane).publish = .ok ring) :
      Step transmission (.taken lane transfer)
        { transmission with lanes := transmission.lanes.set lane ring lane.isLt }
  | refused {transmission lane transfer refusal stage}
      (accepts : transmission.stage.accepts = true) (data : lane.val ≠ 0)
      (offers : (transmission.lanes.get lane).Offers transfer.handle)
      (follows : transmission.stage.Follows stage) :
      Step transmission (.refused lane transfer refusal) { transmission with stage := stage }
  | retired {transmission lane address transfer index ring}
      (found : transmission.config.lane? address = some lane)
      (awaits : (transmission.lanes.get lane).Awaits transfer.handle)
      (retired : (transmission.lanes.get lane).retire? = some (index, ring)) :
      Step transmission (.retired lane address transfer)
        { transmission with lanes := transmission.lanes.set lane ring lane.isLt }
  | dismissed {transmission address transfer}
      (unexpected : ∀ lane, transmission.config.lane? address = some lane →
        ¬ (transmission.lanes.get lane).Awaits transfer.handle) :
      Step transmission (.dismissed address transfer) transmission
  | ignored {transmission lane address transfer}
      (found : transmission.config.lane? address = some lane)
      (incomplete : (transmission.lanes.get lane).isComplete = false) :
      Step transmission (.ignored address transfer) transmission
  | closed {transmission} :
      Step transmission .closed
        { transmission with stage := .dead, teardowns := transmission.teardowns + 1 }
  | drained {transmission lanes} (begun : transmission.teardowns ≠ 0)
      (emptied : ∀ lane : Lane, lanes.get lane = (transmission.lanes.get lane).drain.2) :
      Step transmission .drained
        { transmission with lanes := lanes, teardowns := transmission.teardowns - 1 }

end Transmission

/-! ## Observations -/

/-- A frame that was handed down is what a transfer carries, once it is wrapped. -/
def Outgoing.WrapsTo (frame content : Outgoing) : Prop :=
  ∃ memory selector flags, frame.wrap memory selector flags = .ok content

/-- The transfer that an act submits, its address and the transport's answer. -/
def Effect.transmitted? : Effect → Option (UInt8 × Transfer Outgoing × Option Refusal)
  | .submitTransmit address transfer refusal => some (address, transfer, refusal)
  | _ => none

/-- The frame that an act hands back, with its status. -/
def Effect.reportedSent? : Effect → Option (Outgoing × Status)
  | .reportSent outgoing status => some (outgoing, status)
  | _ => none

namespace Moment

/-- The transfers that are submitted, their addresses and the transport's answers. -/
def transmitted (moment : Moment) : List (UInt8 × Transfer Outgoing × Option Refusal) :=
  moment.effects.filterMap Effect.transmitted?

/-- The frames that are handed back, with their statuses. -/
def reportedSent (moment : Moment) : List (Outgoing × Status) :=
  moment.effects.filterMap Effect.reportedSent?

/-- The transmit transfer that ends, and its address. -/
def sent? (moment : Moment) : Option (UInt8 × Transfer Outgoing) :=
  match moment.input with
  | .completeTransmit address transfer => some (address, transfer)
  | _ => none

/-- The frame that its sender is told was accepted, and its endpoint. -/
def accepted? (moment : Moment) : Option (Lane × Outgoing) :=
  match moment.input, moment.reply with
  | .enqueue _ _ frame _ queue, .over (.ok _) =>
      (laneOfQueue queue).toOption.map fun lane => (lane, frame)
  | _, _ => none

end Moment

namespace Transmission.Event

/-- The transfers that are submitted, their addresses and the transport's answers. -/
def transmitted (config : Config) : Event → List (UInt8 × Transfer Outgoing × Option Refusal)
  | .taken lane transfer => [(config.outEndpoints.get lane, transfer, none)]
  | .refused lane transfer refusal => [(config.outEndpoints.get lane, transfer, some refusal)]
  | _ => []

/-- The frames that are handed back, with their statuses. -/
def reportedSent : Event → List (Outgoing × Status)
  | .retired _ _ transfer => [(transfer.content, transfer.status)]
  | _ => []

/-- The transfer that ends, and its address. -/
def sent? : Event → Option (UInt8 × Transfer Outgoing)
  | .retired _ address transfer | .dismissed address transfer | .ignored address transfer =>
      some (address, transfer)
  | _ => none

/-- The transfer that the transport takes, and its endpoint. -/
def taken? : Event → Option (Lane × Transfer Outgoing)
  | .taken lane transfer => some (lane, transfer)
  | _ => none

/-- The transfer that the transport takes on an endpoint. -/
def takenOn? (lane : Lane) (event : Event) : Option (Transfer Outgoing) :=
  event.taken?.bind fun taken => if taken.1 = lane then some taken.2 else none

section

variable {event : Event} {lane : Lane}

theorem takenOn?_taken (transfer : Transfer Outgoing) :
    (Event.taken lane transfer).takenOn? lane = some transfer :=
  if_pos rfl

theorem takenOn?_eq_none_iff :
    event.takenOn? lane = none ↔ ∀ transfer, event ≠ .taken lane transfer := by
  constructor
  · rintro untaken transfer rfl
    rw [takenOn?_taken] at untaken
    contradiction
  · intro untaken
    cases event with
    | taken used transfer => exact if_neg fun same : used = lane => untaken transfer (same ▸ rfl)
    | _ => rfl

theorem eq_taken_of_takenOn? {transfer : Transfer Outgoing}
    (taken : event.takenOn? lane = some transfer) : event = .taken lane transfer := by
  obtain ⟨⟨used, carried⟩, told, here⟩ := Option.bind_eq_some_iff.mp taken
  obtain ⟨same, carries⟩ : used = lane ∧ carried = transfer := by simpa using here
  subst same carries
  cases event with
  | taken =>
      cases told
      rfl
  | _ => contradiction

end

/-- An event is what can be observed of a moment. -/
structure Tells (event : Event) (moment : Moment) : Prop where
  transmitted : moment.transmitted = event.transmitted moment.before.config
  reportedSent : moment.reportedSent = event.reportedSent
  sent : moment.sent? = event.sent?
  accepted : Option.Rel
    (fun accepted taken => accepted.1 = taken.1 ∧ accepted.2.WrapsTo taken.2.content)
    moment.accepted? event.taken?

/-- An input that shows nothing tells any event that is not observed otherwise. -/
theorem Tells.of_silent {event : Event} {moment : Moment}
    (silent : event = .quiet ∨ event = .acquired ∨ event = .closed ∨ event = .drained)
    (transmitted : moment.transmitted = []) (reportedSent : moment.reportedSent = [])
    (sent : moment.sent? = none) (accepted : moment.accepted? = none) : event.Tells moment := by
  rcases silent with rfl | rfl | rfl | rfl
  all_goals exact ⟨transmitted, reportedSent, sent, accepted ▸ .none⟩

/-- As many senders are told that their frame was accepted as transfers are taken. -/
theorem Tells.length_accepted? {event : Event} {moment : Moment} (tells : event.Tells moment) :
    moment.accepted?.toList.length = event.taken?.toList.length := by
  have related := tells.accepted
  generalize moment.accepted? = accepted at related ⊢
  generalize event.taken? = taken at related ⊢
  cases related <;> rfl

/-- No sender is told that its frame was accepted when no transfer is taken. -/
theorem Tells.accepted?_eq_none {event : Event} {moment : Moment} (tells : event.Tells moment)
    (untaken : event.taken? = none) : moment.accepted? = none := by
  have related := tells.accepted
  rw [untaken] at related
  generalize moment.accepted? = accepted at related ⊢
  cases related
  rfl

/-- The sender of a frame whose transfer is taken is told that it was accepted. -/
theorem Tells.exists_accepted? {moment : Moment} {lane : Lane} {transfer : Transfer Outgoing}
    (tells : (Event.taken lane transfer).Tells moment) :
    ∃ frame : Outgoing, moment.accepted? = some (lane, frame) ∧ frame.WrapsTo transfer.content := by
  have related := tells.accepted
  generalize moment.accepted? = accepted at related ⊢
  cases related with
  | @some told _ wraps =>
      obtain ⟨used, frame⟩ := told
      obtain ⟨rfl, wraps⟩ := wraps
      exact ⟨frame, rfl, wraps⟩

end Transmission.Event

theorem Effect.watches_transmitted? : Watches transmitted? .submitTransmit := by
  intro effect other
  cases effect <;> simp_all [kind, transmitted?]

theorem Effect.watches_reportedSent? : Watches reportedSent? .reportSent := by
  intro effect other
  cases effect <;> simp_all [kind, reportedSent?]

namespace Moment

/-- No frame is submitted at an input that cannot lead to it. -/
theorem transmitted_eq_nil (moment : Moment)
    (other : Effect.Kind.submitTransmit ∉ moment.input.kinds) : moment.transmitted = [] :=
  Effect.watches_transmitted?.effects_eq_nil moment other

/-- No frame is handed back at an input that cannot lead to it. -/
theorem reportedSent_eq_nil (moment : Moment)
    (other : Effect.Kind.reportSent ∉ moment.input.kinds) : moment.reportedSent = [] :=
  Effect.watches_reportedSent?.effects_eq_nil moment other

end Moment

/-! ## The engine takes steps of the system -/

namespace Engine

/-- What the end of a transmit transfer leads to, once its status was logged. -/
inductive ReturnMove (engine : Engine) (address : UInt8) (transfer : Transfer Outgoing) :
    Engine × List Effect → Prop where
  | dismissed (line : LogLine)
      (unexpected : ∀ lane, engine.config.lane? address = some lane →
        ¬ (engine.transmit.get lane).Awaits transfer.handle) :
      ReturnMove engine address transfer (engine.dismissTransmit line)
  | ignored {lane : Lane} (found : engine.config.lane? address = some lane)
      (incomplete : (engine.transmit.get lane).isComplete = false) :
      ReturnMove engine address transfer (engine, [])
  | accepted {lane : Lane} (found : engine.config.lane? address = some lane)
      (awaits : (engine.transmit.get lane).Awaits transfer.handle) :
      ReturnMove engine address transfer (engine.acceptTransmit lane transfer)

theorem exists_returnMove (engine : Engine) (address : UInt8) (transfer : Transfer Outgoing) :
    ∃ step, engine.ReturnMove address transfer step ∧
      engine.completeTransmit address transfer =
        (step.1, engine.complaint transfer.status
          (.transmitFailed transfer.handle transfer.status) ++ step.2) := by
  unfold completeTransmit
  cases found : engine.config.lane? address with
  | none => exact ⟨_, .dismissed (.unknownEndpoint address) (by simp [found]), rfl⟩
  | some lane =>
      cases complete : (engine.transmit.get lane).isComplete with
      | false => exact ⟨_, .ignored found complete, by simp [complete]⟩
      | true =>
          by_cases turn : (!(engine.transmit.get lane).isEmpty &&
              (engine.transmit.get lane).consumer? == some transfer.handle) = true
          · have awaits : (engine.transmit.get lane).Awaits transfer.handle := by
              simpa [Ring.Awaits, complete] using turn
            exact ⟨_, .accepted found awaits, by simp only [complete, turn, if_true]; rfl⟩
          · have unexpected : ∀ other, engine.config.lane? address = some other →
                ¬ (engine.transmit.get other).Awaits transfer.handle := by
              intro other same awaits
              obtain rfl := Option.some.inj (found.symm.trans same)
              exact turn (by simpa [Ring.Awaits, complete] using awaits)
            exact ⟨_, .dismissed _ unexpected, by simp only [complete, turn]; rfl⟩

/-- Transmission sees nothing of reception. -/
theorem Receives.transmission {before after : Engine} (receives : before.Receives after) :
    after.transmission = before.transmission := by
  rw [receives.others]
  rfl

theorem transmission_finishStatistics (engine : Engine) :
    engine.finishStatistics.1.transmission = engine.transmission := by
  unfold finishStatistics
  simp only
  split <;> rfl

end Engine

namespace Transmission

open Event

variable (engine : Engine)

/-- An engine after an input is one step further. -/
def Advances (moment : Moment) : Prop :=
  ∃ event, Step moment.before.transmission event moment.after.transmission ∧ event.Tells moment

/-- An input that leaves the output endpoints alone is no step. -/
theorem Advances.of_unchanged {moment : Moment}
    (same : moment.after.transmission = moment.before.transmission)
    (transmitted : moment.transmitted = []) (reportedSent : moment.reportedSent = [])
    (sent : moment.sent? = none) (accepted : moment.accepted? = none) : Advances moment := by
  refine ⟨.quiet, ?_, Tells.of_silent (Or.inl rfl) transmitted reportedSent sent accepted⟩
  rw [same]
  exact .unchanged (Or.inl rfl)

/-! ### Bringing up and tearing down -/

theorem advances_startBringUp (supply : Supply) :
    Advances ⟨engine, .startBringUp supply⟩ := by
  have transmitted := Moment.transmitted_eq_nil ⟨engine, .startBringUp supply⟩
    (by simp [Input.kinds])
  have reportedSent := Moment.reportedSent_eq_nil ⟨engine, .startBringUp supply⟩
    (by simp [Input.kinds])
  by_cases created : engine.device.stage = .created
  · obtain ⟨slots, handles, accounted⟩ := engine.acquire_accounted supply acquisitions
    have others := accounted.acquired.others
    have extended := accounted.acquired.transmit
    have after : (Moment.mk engine (.startBringUp supply)).after =
        (engine.startBringUp supply).1 := rfl
    rw [Engine.startBringUp, if_neg (by simp [created])] at after
    cases result : engine.acquire supply acquisitions with
    | mk acquired rest =>
        obtain ⟨effects, failure⟩ := rest
        rw [result] at others extended accounted after
        simp only at others extended
        cases failure with
        | none =>
            have whole : (Moment.mk engine (.startBringUp supply)).after.transmission =
                { engine.transmission with stage := .running, lanes := acquired.transmit } := by
              rw [after, others]
              simp [Engine.transmission, Device.start, created]
            have count : ∀ lane, (handles lane).length = transmitSlots := fun lane =>
              ((accounted.complete rfl).2 lane).trans (count_acquisitions lane)
            exact ⟨.acquired, whole ▸ .acquired created count extended, Tells.of_silent
              (by simp) transmitted reportedSent rfl rfl⟩
        | some failure =>
            have whole : (Moment.mk engine (.startBringUp supply)).after.transmission =
                { engine.transmission with
                  stage := .dead
                  lanes := acquired.transmit
                  teardowns := engine.transmission.teardowns + 1 } := by
              rw [after, others]
              rfl
            have count : ∀ lane, (handles lane).length ≤ transmitSlots := fun lane =>
              (accounted.within.2 lane).trans (count_acquisitions lane).le
            exact ⟨.acquired, whole ▸ .acquisitionFailed created count extended, Tells.of_silent
              (by simp) transmitted reportedSent rfl rfl⟩
  · have idle : engine.startBringUp supply = (engine, [], some (.error .notReady)) := by
      rw [Engine.startBringUp, if_pos created]
    refine .of_unchanged ?_ transmitted reportedSent rfl rfl
    rw [Moment.after_startBringUp, idle]

/-- Releasing the rings empties all of them. -/
theorem step_finishTeardown? {finished : Engine × List Effect}
    (finish : engine.finishTeardown? = some finished) :
    Step engine.transmission .drained finished.1.transmission := by
  obtain ⟨begun, -, rfl⟩ := Engine.finishTeardown?_eq_some finish
  exact .drained begun fun lane => Lane.get_map engine.transmit lane _

theorem advances_proceedBringUp : Advances ⟨engine, .proceedBringUp⟩ := by
  have transmitted := Moment.transmitted_eq_nil ⟨engine, .proceedBringUp⟩ (by simp [Input.kinds])
  have reportedSent := Moment.reportedSent_eq_nil ⟨engine, .proceedBringUp⟩
    (by simp [Input.kinds])
  cases proceeds : engine.proceedBringUp? with
  | none =>
      refine .of_unchanged ?_ transmitted reportedSent rfl rfl
      rw [Moment.after_proceedBringUp, proceeds]
      exact rfl
  | some step =>
      have after : (Moment.mk engine .proceedBringUp).after = step.1 := by
        rw [Moment.after_proceedBringUp, proceeds]
        rfl
      have quiet : step.1.transmission = engine.transmission →
          Advances ⟨engine, .proceedBringUp⟩ := fun same =>
        .of_unchanged (after ▸ same) transmitted reportedSent rfl rfl
      cases Engine.bringUpMove_of_proceeds proceeds with
      | posts | passes | comesUp => exact quiet rfl
      | abandons =>
          refine ⟨.closed, ?_, Tells.of_silent (by simp) transmitted reportedSent rfl rfl⟩
          rw [after]
          exact .closed
      | fails _ finish =>
          refine ⟨.drained, ?_, Tells.of_silent (by simp) transmitted reportedSent rfl rfl⟩
          rw [after]
          exact step_finishTeardown? engine finish

theorem advances_answerPost (refusal : Option Refusal) :
    Advances ⟨engine, .answerPost refusal⟩ := by
  have transmitted := Moment.transmitted_eq_nil ⟨engine, .answerPost refusal⟩
    (by simp [Input.kinds])
  have reportedSent := Moment.reportedSent_eq_nil ⟨engine, .answerPost refusal⟩
    (by simp [Input.kinds])
  cases place : engine.bringUp with
  | submitting work =>
      cases refusal with
      | none =>
          refine .of_unchanged ?_ transmitted reportedSent rfl rfl
          rw [Moment.after_answerPost, Engine.answerPost, place]
          rfl
      | some refusal =>
          refine ⟨.closed, ?_, Tells.of_silent (by simp) transmitted reportedSent rfl rfl⟩
          rw [Moment.after_answerPost, Engine.answerPost, place]
          exact .closed
  | idle | posting index | failing failure =>
      refine .of_unchanged ?_ transmitted reportedSent rfl rfl
      rw [Moment.after_answerPost, Engine.answerPost, place]

theorem advances_beginTeardown : Advances ⟨engine, .beginTeardown⟩ :=
  ⟨.closed, .closed, Tells.of_silent (by simp)
    (Moment.transmitted_eq_nil _ (by simp [Input.kinds]))
    (Moment.reportedSent_eq_nil _ (by simp [Input.kinds])) rfl rfl⟩

theorem advances_finishTeardown : Advances ⟨engine, .finishTeardown⟩ := by
  have transmitted := Moment.transmitted_eq_nil ⟨engine, .finishTeardown⟩ (by simp [Input.kinds])
  have reportedSent := Moment.reportedSent_eq_nil ⟨engine, .finishTeardown⟩
    (by simp [Input.kinds])
  cases finish : engine.finishTeardown? with
  | none =>
      refine .of_unchanged ?_ transmitted reportedSent rfl rfl
      rw [Moment.after_finishTeardown, finish]
      exact rfl
  | some finished =>
      refine ⟨.drained, ?_, Tells.of_silent (by simp) transmitted reportedSent rfl rfl⟩
      rw [Moment.after_finishTeardown, finish]
      exact step_finishTeardown? engine finish

/-! ### Reception -/

theorem advances_answerRepost (refusal : Option Refusal) :
    Advances ⟨engine, .answerRepost refusal⟩ := by
  have transmitted := Moment.transmitted_eq_nil ⟨engine, .answerRepost refusal⟩
    (by simp [Input.kinds])
  have reportedSent := Moment.reportedSent_eq_nil ⟨engine, .answerRepost refusal⟩
    (by simp [Input.kinds])
  cases place : engine.pass with
  | submitting work =>
      cases refusal with
      | none =>
          refine .of_unchanged ?_ transmitted reportedSent rfl rfl
          rw [Moment.after_answerRepost, Engine.answerRepost, place]
          rfl
      | some refusal =>
          have follows := engine.device.follows_refusal refusal
          refine ⟨.quiet, ?_, Tells.of_silent (by simp) transmitted reportedSent rfl rfl⟩
          rw [Moment.after_answerRepost, Engine.answerRepost, place]
          exact .unchanged follows
  | idle | popping | walking work walker | delivering work walker | returning work =>
      refine .of_unchanged ?_ transmitted reportedSent rfl rfl
      rw [Moment.after_answerRepost, Engine.answerRepost, place]

/-! ### Submission -/

section

variable {memory : Memory} {answer : Transfer Outgoing → Option Refusal} {frame : Outgoing}
  {key queue : UInt8}

theorem accepted?_enqueue (memory : Memory) (answer : Transfer Outgoing → Option Refusal)
    (frame : Outgoing) (key queue : UInt8) :
    (Moment.mk engine (.enqueue memory answer frame key queue)).accepted? =
      match (engine.enqueue memory answer frame key queue).2.2 with
      | .ok _ => (laneOfQueue queue).toOption.map fun lane => (lane, frame)
      | .error _ => none := by
  simp only [Moment.accepted?, Moment.reply, Engine.step]
  cases (engine.enqueue memory answer frame key queue).2.2 <;> rfl

theorem offers_of_reserve? {ring : Ring Handle} {handle : Handle}
    (reserved : ring.reserve? = .ok handle) : ring.Offers handle := by
  unfold Ring.reserve? at reserved
  split at reserved
  · contradiction
  next ready =>
    simp only [Bool.or_eq_true, Bool.not_eq_true', not_or, Bool.not_eq_true,
      Bool.not_eq_false] at ready
    split at reserved
    next slot found =>
      cases reserved
      exact ⟨ready.2, ready.1, found⟩
    next => contradiction

/-- Nothing is submitted once the transport has answered. -/
theorem transmitted?_refuseTransmit (refusal : Refusal) :
    (engine.refuseTransmit refusal).2.1.filterMap Effect.transmitted? = [] :=
  Effect.watches_transmitted?.filterMap_logs (by decide) (engine.kind_refuseTransmit refusal)

theorem transmitted?_enterTransmit (lane : Lane) (queue : UInt8) :
    (engine.enterTransmit lane queue).2.1.filterMap Effect.transmitted? = [] :=
  Effect.watches_transmitted?.filterMap_eq_nil fun effect member => by
    simp [engine.kind_enterTransmit lane queue effect member]

/-- Entering a frame publishes the slot of its transfer. -/
theorem enterTransmit_of_publish {lane : Lane} {ring : Ring Handle} (queue : UInt8)
    (published : (engine.transmit.get lane).publish = .ok ring) :
    (engine.enterTransmit lane queue).1.transmission =
        { engine.transmission with lanes := engine.transmission.lanes.set lane ring lane.isLt } ∧
      (engine.enterTransmit lane queue).2.2 = .ok () := by
  unfold Engine.enterTransmit
  rw [published]
  exact ⟨rfl, rfl⟩

/-- Noting a refusal leaves the rings alone; a fatal one takes the device away. -/
theorem transmission_refuseTransmit (refusal : Refusal) :
    ∃ stage, engine.device.stage.Follows stage ∧
      (engine.refuseTransmit refusal).1.transmission =
        { engine.transmission with stage := stage } ∧
      (engine.refuseTransmit refusal).2.2 = .error (.failure (.ofStatus refusal.status)) := by
  unfold Engine.refuseTransmit
  simp only
  split
  · exact ⟨_, engine.device.follows_noteRemoval, rfl, rfl⟩
  · exact ⟨_, Or.inl rfl, rfl, rfl⟩

theorem advances_enqueue (memory : Memory) (answer : Transfer Outgoing → Option Refusal)
    (frame : Outgoing) (key queue : UInt8) :
    Advances ⟨engine, .enqueue memory answer frame key queue⟩ := by
  have reportedSent := Moment.reportedSent_eq_nil
    ⟨engine, .enqueue memory answer frame key queue⟩ (by simp [Input.kinds])
  have accepted := accepted?_enqueue engine memory answer frame key queue
  have move := engine.sendMove_enqueue memory answer frame key queue
  rw [Advances, Moment.after_enqueue]
  have transmitted : (Moment.mk engine (.enqueue memory answer frame key queue)).transmitted =
      (engine.enqueue memory answer frame key queue).2.1.filterMap Effect.transmitted? := rfl
  generalize engine.enqueue memory answer frame key queue = step at move accepted transmitted ⊢
  cases move with
  | turnedDown | overflowed =>
      refine ⟨.quiet, .unchanged (Or.inl rfl), ?_⟩
      exact Tells.of_silent (Or.inl rfl) transmitted reportedSent rfl accepted
  | @refused lane wrapped handle refusal ready reserved verdict =>
      rw [List.filterMap_cons, transmitted?_refuseTransmit] at transmitted
      obtain ⟨stage, follows, after, failed⟩ := transmission_refuseTransmit engine refusal
      refine ⟨.refused lane (.bind handle wrapped) refusal, ?_, transmitted, reportedSent, rfl, ?_⟩
      · rw [after]
        exact .refused ready.accepts (laneOfQueue_ne_zero ready.mapped)
          (offers_of_reserve? reserved) follows
      · rw [accepted, failed]
        exact .none
  | @taken lane wrapped handle ready reserved verdict =>
      have offers := offers_of_reserve? reserved
      obtain ⟨ring, published⟩ := Ring.exists_publish offers.2.1
      obtain ⟨entered, succeeded⟩ := enterTransmit_of_publish engine wrapped.queue published
      rw [List.filterMap_cons, transmitted?_enterTransmit] at transmitted
      refine ⟨.taken lane (.bind handle wrapped), ?_, transmitted, reportedSent, rfl, ?_⟩
      · rw [entered]
        exact .taken ready.accepts (laneOfQueue_ne_zero ready.mapped) offers published
      · rw [accepted, succeeded, ready.mapped]
        exact .some ⟨rfl, _, _, _, ready.wrap⟩

end

/-! ### Completion -/

/-- A completion that is taken retires a slot and hands its frame back. -/
theorem transmission_acceptTransmit {lane : Lane} {transfer : Transfer Outgoing} {index : Nat}
    {ring : Ring Handle} (retired : (engine.transmit.get lane).retire? = some (index, ring)) :
    (engine.acceptTransmit lane transfer).1.transmission =
        { engine.transmission with
          lanes := engine.transmission.lanes.set lane ring lane.isLt } ∧
      (engine.acceptTransmit lane transfer).2.filterMap Effect.reportedSent? =
        [(transfer.content, transfer.status)] := by
  constructor
  · unfold Engine.acceptTransmit
    simp only [retired]
    split <;> rfl
  · rw [Engine.snd_acceptTransmit]
    split <;> split <;> rfl

theorem advances_completeTransmit (address : UInt8) (transfer : Transfer Outgoing) :
    Advances ⟨engine, .completeTransmit address transfer⟩ := by
  have transmitted := Moment.transmitted_eq_nil ⟨engine, .completeTransmit address transfer⟩
    (by simp [Input.kinds])
  have logged := Effect.watches_reportedSent?.filterMap_logs (by decide)
    (engine.kind_complaint transfer.status (.transmitFailed transfer.handle transfer.status))
  obtain ⟨step, move, same⟩ := engine.exists_returnMove address transfer
  have reported : (Moment.mk engine (.completeTransmit address transfer)).reportedSent =
      step.2.filterMap Effect.reportedSent? := by
    rw [Moment.reportedSent, Moment.effects_completeTransmit, same, List.filterMap_append, logged,
      List.nil_append]
  rw [Advances, Moment.after_completeTransmit, same]
  cases move with
  | dismissed line unexpected =>
      refine ⟨.dismissed address transfer, .dismissed unexpected, transmitted, ?_, rfl, .none⟩
      rw [reported]
      exact Effect.watches_reportedSent?.filterMap_logs (by decide)
        (engine.kind_dismissTransmit line)
  | ignored found incomplete =>
      exact ⟨.ignored address transfer, .ignored found incomplete, transmitted, reported, rfl,
        .none⟩
  | @accepted lane found awaits =>
      obtain ⟨index, ring, retired⟩ := Ring.exists_retire? awaits.2.1
      obtain ⟨after, handedBack⟩ := transmission_acceptTransmit engine retired
      refine ⟨.retired lane address transfer, ?_, transmitted, reported.trans handedBack, rfl,
        .none⟩
      rw [after]
      exact .retired found awaits retired

end Transmission

/-- Every moment of an engine is a step of transmission, and its event tells what
can be observed. -/
theorem Moment.transmission_step (moment : Moment) : Transmission.Advances moment := by
  obtain ⟨engine, input⟩ := moment
  have alone : (Moment.mk engine input).after.transmission = engine.transmission →
      Effect.Kind.submitTransmit ∉ input.kinds → Effect.Kind.reportSent ∉ input.kinds →
      (Moment.mk engine input).sent? = none → (Moment.mk engine input).accepted? = none →
      Transmission.Advances ⟨engine, input⟩ :=
    fun same noSubmission noReport sent accepted =>
      .of_unchanged same (Moment.transmitted_eq_nil _ noSubmission)
        (Moment.reportedSent_eq_nil _ noReport) sent accepted
  cases input with
  | startBringUp supply => exact Transmission.advances_startBringUp engine supply
  | proceedBringUp => exact Transmission.advances_proceedBringUp engine
  | answerPost refusal => exact Transmission.advances_answerPost engine refusal
  | completeReceive | startPass | proceedPass | answerDelivery =>
      exact alone (receives rfl).transmission (by simp [Input.kinds]) (by simp [Input.kinds])
        rfl rfl
  | answerRepost refusal => exact Transmission.advances_answerRepost engine refusal
  | enqueue memory answer frame key queue =>
      exact Transmission.advances_enqueue engine memory answer frame key queue
  | completeTransmit address transfer =>
      exact Transmission.advances_completeTransmit engine address transfer
  | finishStatistics =>
      exact alone engine.transmission_finishStatistics (by simp [Input.kinds])
        (by simp [Input.kinds]) rfl rfl
  | beginTeardown => exact Transmission.advances_beginTeardown engine
  | finishTeardown => exact Transmission.advances_finishTeardown engine

end WlanDatapath
