import WlanDatapath.Proofs.Anomalies
import WlanDatapath.Proofs.Lifecycle

/-!
# Frames are reported once, in order

A transport that completes the transfers of each output endpoint in the order of
their submission holds, on each endpoint, the handles of the window of its ring.
Whatever it refuses and however it interleaves the endpoints, the frames that were
accepted on an endpoint are those reported so far followed by those in flight.

The argument looks at one endpoint at a time.  `Moment.Serves` says what a moment
does to an endpoint, seen from the ring, the transport and the sender at once.
-/

namespace WlanDatapath

/-! ## Addresses of output endpoints -/

namespace Config

variable {config : Config}

theorem lane?_eq_some {address : UInt8} {lane : Lane}
    (found : config.lane? address = some lane) : config.outEndpoints.get lane = address := by
  obtain ⟨place, same, rfl⟩ := Option.map_eq_some_iff.mp found
  exact (Array.finIdxOf?_eq_some_iff.mp same).1

theorem ne_of_lane?_eq_none {address : UInt8} (unknown : config.lane? address = none)
    (lane : Lane) : config.outEndpoints.get lane ≠ address := by
  have absent := Array.finIdxOf?_eq_none_iff.mp (Option.map_eq_none_iff.mp unknown)
  rintro rfl
  exact absent (Array.getElem_mem _)

/-- A valid configuration gives every output endpoint an address of its own. -/
theorem outEndpoints_injective (valid : config.isValid = true) {first second : Lane}
    (same : config.outEndpoints.get first = config.outEndpoints.get second) : first = second := by
  have distinct := ((isValid_iff config).mp valid).2.2
  have equal : config.outEndpoints.toList[first.val] = config.outEndpoints.toList[second.val] :=
    same
  exact Fin.ext (distinct.getElem_inj_iff.mp equal)

end Config

/-! ## Rings of handles -/

namespace Ring

variable {ring next : Ring Handle} {handle : Handle}

/-- The handles of the window, oldest first. -/
def inUse (ring : Ring Handle) : List (Option Handle) :=
  ring.window.map (ring.slots[·]?)

/-- The handle that is offered is the next one in use. -/
theorem inUse_publish (sound : ring.WellFormed) (offers : ring.Offers handle)
    (published : ring.publish = .ok next) : next.inUse = ring.inUse ++ [some handle] := by
  have window := window_publish sound published
  have turn : ring.slots[ring.stop]? = some handle := offers.2.2
  obtain ⟨-, rfl⟩ := publish_eq_ok published
  rw [inUse, window, List.map_append, List.map_singleton]
  show ring.inUse ++ [ring.slots[ring.stop]?] = _
  rw [turn]

/-- The handle that is awaited is the oldest one in use. -/
theorem inUse_retire (sound : ring.WellFormed) (awaits : ring.Awaits handle) {index : Nat}
    (retired : ring.retire? = some (index, next)) : ring.inUse = some handle :: next.inUse := by
  have window := window_retire sound retired
  have turn : ring.slots[ring.start]? = some handle := awaits.2.2
  obtain ⟨-, rfl, rfl⟩ := retire?_eq_some retired
  rw [inUse, window, List.map_cons, turn]
  rfl

/-- A populated ring awaits the oldest handle in use. -/
theorem awaits_of_inUse (sound : ring.WellFormed) (complete : ring.isComplete = true)
    {later : List (Option Handle)} (oldest : ring.inUse = some handle :: later) :
    ring.Awaits handle := by
  have present : ring.isEmpty = false := by
    rw [← Bool.not_eq_true]
    intro empty
    have size := congrArg List.length oldest
    simp only [isEmpty, beq_iff_eq] at empty
    simp [inUse, empty] at size
  obtain ⟨index, next, retired⟩ := exists_retire? present
  refine ⟨complete, present, ?_⟩
  rw [inUse, window_retire sound retired, List.map_cons, List.cons.injEq] at oldest
  rw [consumer?, ← (retire?_eq_some retired).2.1]
  exact oldest.1

end Ring

/-- A transfer that is awaited is no anomaly. -/
theorem Engine.anomaly?_of_awaits {engine : Engine} {address : UInt8} {lane : Lane}
    {transfer : Transfer Outgoing} (found : engine.config.lane? address = some lane)
    (awaits : (engine.transmit.get lane).Awaits transfer.handle) :
    engine.anomaly? (.completeTransmit address transfer) = none := by
  obtain ⟨complete, present, turn⟩ := awaits
  simp only [anomaly?, found, complete, present, turn, Bool.not_true, Bool.not_false,
    beq_self_eq_true, Bool.and_self, Bool.false_eq_true, if_false, if_true]

/-! ## What a frame is to its sender -/

namespace Outgoing

/-- What the sender of a bare frame hands down. -/
def handedDown (outgoing : Outgoing) : Octets × UInt8 :=
  (outgoing.octets, outgoing.queue)

/-- What is read back of a frame, wrapped or not. -/
def original (outgoing : Outgoing) : Octets × UInt8 :=
  (outgoing.payload, outgoing.queue)

/-- The frame is as its sender hands it down. -/
def isBare (outgoing : Outgoing) : Bool :=
  outgoing == .bare outgoing.octets outgoing.queue

/-- A frame that could be wrapped was wrapped. -/
theorem wrap_eq_ok {memory : Memory} {frame content : Outgoing} {selector : QueueSelector}
    {flags : UInt32} (wrapped : frame.wrap memory selector flags = .ok content) :
    content = frame.wrapWith selector flags := by
  unfold wrap at wrapped
  split at wrapped
  · contradiction
  · split at wrapped
    · contradiction
    · split at wrapped
      · cases wrapped
        rfl
      · contradiction

theorem queue_of_wrapsTo {frame content : Outgoing} (wraps : frame.WrapsTo content) :
    content.queue = frame.queue := by
  obtain ⟨memory, selector, flags, wrapped⟩ := wraps
  rw [wrap_eq_ok wrapped, queue_wrapWith]

theorem original_of_wrapsTo {frame content : Outgoing} (bare : frame.isBare = true)
    (wraps : frame.WrapsTo content) : content.original = frame.handedDown := by
  obtain ⟨memory, selector, flags, wrapped⟩ := wraps
  have same : frame = .bare frame.octets frame.queue := by simpa [isBare] using bare
  rw [wrap_eq_ok wrapped, same, original, payload_wrapWith]
  rfl

end Outgoing

/-! ## What happens on an endpoint -/

namespace Moment

/-- The transfers that the transport takes on an address. -/
def takenOn (address : UInt8) (moment : Moment) : List (Transfer Outgoing) :=
  moment.transmitted.filterMap fun submission =>
    if submission.1 = address ∧ submission.2.2 = none then some submission.2.1 else none

/-- The transfer that ends on an address. -/
def sentOn? (address : UInt8) (moment : Moment) : Option (Transfer Outgoing) :=
  moment.sent?.bind fun ended => if ended.1 = address then some ended.2 else none

/-- The frames handed back for a transfer that ends on an address. -/
def reportedOn (address : UInt8) (moment : Moment) : List (Outgoing × Status) :=
  if (moment.sentOn? address).isSome then moment.reportedSent else []

/-- The frame accepted for an endpoint. -/
def acceptedOn? (lane : Lane) (moment : Moment) : Option Outgoing :=
  moment.accepted?.bind fun accepted => if accepted.1 = lane then some accepted.2 else none

/-- The frame that is to be sent, if there is one, is bare. -/
def sendsBare (moment : Moment) : Bool :=
  match moment.input with
  | .enqueue _ _ frame _ _ => frame.isBare
  | _ => true

theorem isBare_of_accepted? {moment : Moment} {lane : Lane} {frame : Outgoing}
    (bare : moment.sendsBare = true) (accepted : moment.accepted? = some (lane, frame)) :
    frame.isBare = true := by
  obtain ⟨engine, input⟩ := moment
  cases input with
  | enqueue memory answer other key queue =>
      unfold accepted? at accepted
      split at accepted
      next same _ =>
        cases same
        obtain ⟨used, -, equal⟩ := Option.map_eq_some_iff.mp accepted
        rw [Prod.mk.injEq] at equal
        rw [← equal.2]
        exact bare
      next => contradiction
  | _ => simp [accepted?] at accepted

/-- What a moment does on an output endpoint. -/
inductive Serves (moment : Moment) (lane : Lane) : Prop where
  | quiet
      (taken : moment.takenOn (moment.before.config.outEndpoints.get lane) = [])
      (sent : moment.sentOn? (moment.before.config.outEndpoints.get lane) = none)
      (accepted : moment.acceptedOn? lane = none)
      (ring : (moment.after.transmit.get lane).inUse = (moment.before.transmit.get lane).inUse)
  | takes {frame : Outgoing} {transfer : Transfer Outgoing}
      (taken : moment.takenOn (moment.before.config.outEndpoints.get lane) = [transfer])
      (sent : moment.sentOn? (moment.before.config.outEndpoints.get lane) = none)
      (accepted : moment.acceptedOn? lane = some frame)
      (original : transfer.content.original = frame.handedDown)
      (ring : (moment.after.transmit.get lane).inUse =
        (moment.before.transmit.get lane).inUse ++ [some transfer.handle])
  | reports {transfer : Transfer Outgoing}
      (taken : moment.takenOn (moment.before.config.outEndpoints.get lane) = [])
      (sent : moment.sentOn? (moment.before.config.outEndpoints.get lane) = some transfer)
      (accepted : moment.acceptedOn? lane = none)
      (reported : moment.reportedSent = [(transfer.content, transfer.status)])
      (ring : (moment.before.transmit.get lane).inUse =
        some transfer.handle :: (moment.after.transmit.get lane).inUse)

/-- The transfer that ends is the one that its ring awaits. -/
def Matched (moment : Moment) : Prop :=
  ∀ ended ∈ moment.sent?, ∃ lane : Lane, moment.before.config.lane? ended.1 = some lane ∧
    (moment.before.transmit.get lane).Awaits ended.2.handle

end Moment

namespace Transmission

variable {transmission next : Transmission} {event : Event} {lane : Lane}

theorem Step.begun_of_drained (step : Step transmission .drained next) :
    transmission.teardowns ≠ 0 := by
  cases step with
  | drained begun => exact begun

theorem Step.found_of_retired {address : UInt8} {transfer : Transfer Outgoing}
    (step : Step transmission (.retired lane address transfer) next) :
    transmission.config.lane? address = some lane := by
  cases step with
  | retired found => exact found

/-- Frames are submitted on endpoints for data only. -/
theorem Step.address_of_transmitted (step : Step transmission event next) :
    ∀ submission ∈ event.transmitted transmission.config,
      ∃ lane : Lane, lane.val ≠ 0 ∧ submission.1 = transmission.config.outEndpoints.get lane := by
  cases step with
  | taken _ data | refused _ data =>
      intro submission member
      rw [List.mem_singleton.mp member]
      exact ⟨_, data, rfl⟩
  | _ => simp [Event.transmitted]

/-- A transfer that is dismissed or ignored is not awaited. -/
theorem Step.unawaited {address : UInt8} {transfer : Transfer Outgoing}
    (step : Step transmission event next)
    (turned : event = .dismissed address transfer ∨ event = .ignored address transfer)
    (found : transmission.config.lane? address = some lane) :
    ¬ (transmission.lanes.get lane).Awaits transfer.handle := by
  rcases turned with rfl | rfl
  · cases step with
    | dismissed unexpected => exact unexpected lane found
  · cases step with
    | ignored other incomplete =>
        intro awaits
        obtain rfl : lane = _ := Option.some.inj (found.symm.trans other)
        have complete := awaits.1
        rw [incomplete] at complete
        contradiction

theorem LaneStep.inUse_taken {transfer : Transfer Outgoing} {ring : Ring Handle}
    (step : LaneStep transmission lane (.taken lane transfer) ring)
    (sound : (transmission.lanes.get lane).WellFormed) :
    ring.inUse = (transmission.lanes.get lane).inUse ++ [some transfer.handle] := by
  cases step with
  | kept _ untaken => exact absurd rfl (untaken transfer)
  | published offers published => exact Ring.inUse_publish sound offers published

theorem LaneStep.inUse_retired {address : UInt8} {transfer : Transfer Outgoing}
    {ring : Ring Handle} (step : LaneStep transmission lane (.retired lane address transfer) ring)
    (sound : (transmission.lanes.get lane).WellFormed) :
    (transmission.lanes.get lane).inUse = some transfer.handle :: ring.inUse := by
  cases step with
  | kept _ _ unretired => exact absurd rfl (unretired address transfer)
  | retired awaits retired => exact Ring.inUse_retire sound awaits retired

/-- Neither acquiring nor what happens elsewhere changes which handles are in use. -/
theorem LaneStep.inUse_eq {ring : Ring Handle} (step : LaneStep transmission lane event ring)
    (sound : transmission.Sound) (undrained : event ≠ .drained)
    (untaken : ∀ transfer, event ≠ .taken lane transfer)
    (unretired : ∀ address transfer, event ≠ .retired lane address transfer) :
    ring.inUse = (transmission.lanes.get lane).inUse := by
  cases step with
  | kept => rfl
  | published => exact absurd rfl (untaken _)
  | retired => exact absurd rfl (unretired _ _)
  | emptied => exact absurd rfl undrained
  | extended created =>
      rw [sound.untouched created lane]
      rfl

/-- What is taken elsewhere or refused is not taken on an endpoint. -/
theorem Event.Tells.takenOn_eq {moment : Moment} (tells : event.Tells moment)
    (valid : moment.before.config.isValid = true) (lane : Lane) :
    moment.takenOn (moment.before.config.outEndpoints.get lane) =
      (event.takenOn? lane).toList := by
  rw [Moment.takenOn, tells.transmitted]
  cases event with
  | taken used transfer =>
      by_cases same : used = lane
      · subst same
        simp [Event.transmitted, Event.takenOn?_taken]
      · have apart : moment.before.config.outEndpoints.get used ≠
            moment.before.config.outEndpoints.get lane := fun equal =>
          same (Config.outEndpoints_injective valid equal)
        rw [Event.takenOn?_eq_none_iff.mpr (by simp [same])]
        simp [Event.transmitted, apart]
  | _ =>
      rw [Event.takenOn?_eq_none_iff.mpr (by simp)]
      simp [Event.transmitted]

/-- No frame is accepted on an endpoint when no transfer is taken there. -/
theorem Event.Tells.acceptedOn?_eq_none {moment : Moment} (tells : event.Tells moment)
    (untaken : ∀ transfer, event ≠ .taken lane transfer) : moment.acceptedOn? lane = none := by
  cases event with
  | taken used transfer =>
      obtain ⟨frame, told, -⟩ := tells.exists_accepted?
      rw [Moment.acceptedOn?, told]
      exact if_neg fun same : used = lane => untaken transfer (same ▸ rfl)
  | _ => rw [Moment.acceptedOn?, tells.accepted?_eq_none rfl, Option.bind_none]

/-- The frame of a transfer that is taken is accepted on the same endpoint. -/
theorem Event.Tells.exists_acceptedOn? {moment : Moment} {transfer : Transfer Outgoing}
    (tells : (Event.taken lane transfer).Tells moment) :
    ∃ frame, moment.acceptedOn? lane = some frame ∧ moment.accepted? = some (lane, frame) ∧
      frame.WrapsTo transfer.content := by
  obtain ⟨frame, told, wraps⟩ := tells.exists_accepted?
  refine ⟨frame, ?_, told, wraps⟩
  rw [Moment.acceptedOn?, told]
  exact if_pos rfl

end Transmission

namespace Moment

/-- Every moment serves an endpoint in one of the three ways, if the transfer that
ends is awaited. -/
theorem serves (moment : Moment) (lane : Lane) (valid : moment.before.config.isValid = true)
    (sound : moment.before.Sound) (alive : moment.before.device.stage ≠ .dead)
    (bare : moment.sendsBare = true) (matched : moment.Matched) : moment.Serves lane := by
  obtain ⟨event, step, tells⟩ := moment.transmission_step
  have ring := step.lane_step lane
  have taken := tells.takenOn_eq valid lane
  have sent := tells.sent
  have still : (∀ transfer, event ≠ .taken lane transfer) →
      moment.sentOn? (moment.before.config.outEndpoints.get lane) = none →
      (moment.after.transmit.get lane).inUse = (moment.before.transmit.get lane).inUse →
      moment.Serves lane := by
    intro untaken unsent same
    rw [Transmission.Event.takenOn?_eq_none_iff.mpr untaken] at taken
    exact .quiet taken unsent (tells.acceptedOn?_eq_none untaken) same
  have unsent : event.sent? = none →
      moment.sentOn? (moment.before.config.outEndpoints.get lane) = none := by
    intro none
    rw [sentOn?, sent, none, Option.bind_none]
  have undrained : event ≠ .drained := by
    rintro rfl
    exact alive (sound.reception.begun step.begun_of_drained)
  have same := ring.inUse_eq sound.transmission undrained
  cases event with
  | quiet | acquired | closed | refused =>
      exact still (by simp) (unsent rfl) (same (by simp) (by simp))
  | drained => exact absurd rfl undrained
  | dismissed address transfer =>
      obtain ⟨used, found, awaits⟩ := matched (address, transfer) sent
      exact absurd awaits (step.unawaited (Or.inl rfl) found)
  | ignored address transfer =>
      obtain ⟨used, found, awaits⟩ := matched (address, transfer) sent
      exact absurd awaits (step.unawaited (Or.inr rfl) found)
  | taken used transfer =>
      by_cases here : used = lane
      · subst here
        rw [Transmission.Event.takenOn?_taken] at taken
        obtain ⟨frame, accepted, told, wraps⟩ := tells.exists_acceptedOn?
        have original := Outgoing.original_of_wrapsTo (isBare_of_accepted? bare told) wraps
        exact .takes taken (unsent rfl) accepted original
          (ring.inUse_taken (sound.transmission.lanes used))
      · exact still (by simp [here]) (unsent rfl) (same (by simp [here]) (by simp))
  | retired used address transfer =>
      have placed : moment.before.config.outEndpoints.get used = address :=
        Config.lane?_eq_some step.found_of_retired
      by_cases here : used = lane
      · subst here
        have ended : moment.sentOn? (moment.before.config.outEndpoints.get used) =
            some transfer := by
          rw [sentOn?, sent]
          simp [Transmission.Event.sent?, ← placed]
        rw [Transmission.Event.takenOn?_eq_none_iff.mpr (by simp)] at taken
        exact .reports taken ended (tells.acceptedOn?_eq_none (by simp)) tells.reportedSent
          (ring.inUse_retired (sound.transmission.lanes used))
      · refine still (by simp) ?_ (same (by simp) (by simp [here]))
        have apart : moment.before.config.outEndpoints.get lane ≠ address := fun equal =>
          here (Config.outEndpoints_injective valid (placed.trans equal.symm))
        rw [sentOn?, sent]
        simp only [Transmission.Event.sent?, Option.bind_some]
        rw [if_neg fun equal => apart equal.symm]

/-- A matched moment meets no anomaly of transmission. -/
theorem Matched.family_ne {moment : Moment} (matched : moment.Matched) {anomaly : Anomaly}
    (met : moment.anomaly? = some anomaly) : anomaly.family ≠ .transmit := by
  intro family
  have possible := Engine.family_mem_families met
  rw [family] at possible
  obtain ⟨engine, input⟩ := moment
  cases input with
  | completeTransmit address transfer =>
      obtain ⟨lane, found, awaits⟩ := matched (address, transfer) rfl
      have nothing := Engine.anomaly?_of_awaits found awaits
      rw [anomaly?, nothing] at met
      contradiction
  | _ => simp [Input.families] at possible

/-- The sender of a frame is told that it was accepted if and only if the transport
takes its transfer. -/
theorem accepted?_iff (moment : Moment) :
    ∀ submission ∈ moment.transmitted,
      submission.2.2 = none ↔ moment.accepted?.isSome = true := by
  obtain ⟨event, step, tells⟩ := moment.transmission_step
  rw [tells.transmitted]
  cases event with
  | taken lane transfer =>
      intro submission member
      rw [List.mem_singleton.mp member]
      obtain ⟨frame, told, -⟩ := tells.exists_accepted?
      simp [told]
  | refused lane transfer refusal =>
      intro submission member
      rw [List.mem_singleton.mp member]
      simp [tells.accepted?_eq_none rfl]
  | _ => simp [Transmission.Event.transmitted]

/-- Frames are submitted on endpoints for data only. -/
theorem address_of_transmitted (moment : Moment) :
    ∀ submission ∈ moment.transmitted, ∃ lane : Lane, lane.val ≠ 0 ∧
      submission.1 = moment.before.config.outEndpoints.get lane := by
  obtain ⟨event, step, tells⟩ := moment.transmission_step
  rw [tells.transmitted]
  exact step.address_of_transmitted

/-- Nothing is submitted on an address that belongs to no endpoint. -/
theorem takenOn_eq_nil (moment : Moment) {address : UInt8}
    (unknown : moment.before.config.lane? address = none) : moment.takenOn address = [] := by
  rw [takenOn, List.filterMap_eq_nil_iff]
  intro submission member
  obtain ⟨lane, -, same⟩ := moment.address_of_transmitted submission member
  have apart : submission.1 ≠ address := fun equal =>
    Config.ne_of_lane?_eq_none unknown lane (same.symm.trans equal)
  simp [apart]

end Moment

/-! ## Runs -/

namespace History

/-- The transfers that the transport holds on an address after a moment. -/
def flightAfter (address : UInt8) (flight : List (Transfer Outgoing)) (moment : Moment) :
    List (Transfer Outgoing) :=
  (if (moment.sentOn? address).isSome then flight.tail else flight) ++ moment.takenOn address

/-- The transfers that the transport holds on an address, oldest first, if it
completes them in the order of their submission. -/
def inFlight (history : History) (address : UInt8) : List (Transfer Outgoing) :=
  history.foldl (flightAfter address) []

/-- The transfers that ended on an address, in order. -/
def sentOn (history : History) (address : UInt8) : List (Transfer Outgoing) :=
  history.filterMap (Moment.sentOn? address)

/-- The frames handed back for transfers that ended on an address, in order. -/
def reportedOn (history : History) (address : UInt8) : List (Outgoing × Status) :=
  history.flatMap (Moment.reportedOn address)

/-- The frames accepted for an endpoint, in order. -/
def acceptedOn (history : History) (lane : Lane) : List Outgoing :=
  history.filterMap (Moment.acceptedOn? lane)

variable (history : History) (moment : Moment)

@[simp]
theorem inFlight_concat (address : UInt8) :
    inFlight (history ++ [moment]) address =
      flightAfter address (history.inFlight address) moment := by
  simp [inFlight]

@[simp]
theorem sentOn_concat (address : UInt8) :
    sentOn (history ++ [moment]) address =
      history.sentOn address ++ (moment.sentOn? address).toList := by
  rw [sentOn, List.filterMap_append, List.filterMap_cons]
  cases moment.sentOn? address <;> rfl

@[simp]
theorem reportedOn_concat (address : UInt8) :
    reportedOn (history ++ [moment]) address =
      history.reportedOn address ++ moment.reportedOn address := by
  simp [reportedOn]

@[simp]
theorem acceptedOn_concat (lane : Lane) :
    acceptedOn (history ++ [moment]) lane =
      history.acceptedOn lane ++ (moment.acceptedOn? lane).toList := by
  rw [acceptedOn, List.filterMap_append, List.filterMap_cons]
  cases moment.acceptedOn? lane <;> rfl

end History

/-- Frames are handed down bare, and the transport completes the oldest transfer of
an address. -/
structure Moment.InOrder (past : History) (moment : Moment) : Prop where
  bare : moment.sendsBare = true
  oldest : ∀ ended ∈ moment.sent?,
    ((past.inFlight ended.1).head?.map fun oldest =>
      oldest.complete ended.2.status ended.2.length) = some ended.2

instance (past : History) (moment : Moment) : Decidable (moment.InOrder past) :=
  decidable_of_iff
    (moment.sendsBare = true ∧ ∀ ended ∈ moment.sent?,
      ((past.inFlight ended.1).head?.map fun oldest =>
        oldest.complete ended.2.status ended.2.length) = some ended.2)
    ⟨fun ⟨bare, oldest⟩ => ⟨bare, oldest⟩, fun ⟨bare, oldest⟩ => ⟨bare, oldest⟩⟩

/-- The transfer that ends on an address is the oldest one there. -/
theorem Moment.InOrder.front {past : History} {moment : Moment} (inOrder : moment.InOrder past)
    {address : UInt8} {transfer : Transfer Outgoing}
    (sent : moment.sentOn? address = some transfer) :
    ∃ first later, past.inFlight address = first :: later ∧
      transfer.content = first.content := by
  obtain ⟨ended, member, same⟩ := Option.bind_eq_some_iff.mp sent
  split at same
  next here =>
    cases same
    obtain ⟨first, front, whole⟩ := Option.map_eq_some_iff.mp (inOrder.oldest ended member)
    obtain ⟨later, split⟩ := List.head?_eq_some_iff.mp front
    refine ⟨first, later, here ▸ split, ?_⟩
    rw [← whole, Transfer.content_complete]
  next => contradiction

namespace History

/-- The rings, the transport and the sender agree about every endpoint. -/
structure Ordered (config : Config) (engine : Engine) (history : History) : Prop where
  held : ∀ lane : Lane,
    ((history.inFlight (config.outEndpoints.get lane)).map fun transfer => some transfer.handle) =
      (engine.transmit.get lane).inUse
  elsewhere : ∀ address, config.lane? address = none → history.inFlight address = []
  frames : ∀ lane : Lane, (history.acceptedOn lane).map Outgoing.handedDown =
    (history.reportedOn (config.outEndpoints.get lane)).map (fun report => report.1.original) ++
      (history.inFlight (config.outEndpoints.get lane)).map fun transfer =>
        transfer.content.original
  statuses : ∀ lane : Lane, (history.reportedOn (config.outEndpoints.get lane)).map (·.2) =
    (history.sentOn (config.outEndpoints.get lane)).map (·.status)
  matched : ∀ moment ∈ history, moment.Matched

variable {config : Config} {engine : Engine} {history : History} {moment : Moment}

theorem ordered_fresh (config : Config) : Ordered config (Engine.fresh config) [] where
  held lane := by
    simp [inFlight, Engine.fresh, Ring.inUse]
  elsewhere _ _ := rfl
  frames _ := rfl
  statuses _ := rfl
  matched := by simp

/-- The oldest transfer of an address is the one that its ring awaits. -/
theorem Ordered.matches (ordered : Ordered config moment.before history)
    (same : moment.before.config = config) (sound : moment.before.Sound)
    (alive : moment.before.device.stage ≠ .dead)
    (inOrder : moment.InOrder history) : moment.Matched := by
  subst same
  intro ended member
  have oldest := inOrder.oldest ended member
  obtain ⟨first, front, whole⟩ := Option.map_eq_some_iff.mp oldest
  obtain ⟨later, split⟩ := List.head?_eq_some_iff.mp front
  cases found : moment.before.config.lane? ended.1 with
  | none =>
      rw [ordered.elsewhere ended.1 found] at split
      contradiction
  | some lane =>
      refine ⟨lane, rfl, ?_⟩
      have held := ordered.held lane
      rw [Config.lane?_eq_some found, split, List.map_cons] at held
      have started : moment.before.device.stage ≠ .created := by
        intro created
        have empty : moment.before.transmit.get lane = .empty transmitSlots :=
          sound.transmission.untouched created lane
        rw [empty] at held
        contradiction
      have accepts := Stage.accepts_of_ne started alive
      have count : (moment.before.transmit.get lane).slots.length = transmitSlots :=
        sound.transmission.populated accepts lane
      have capacity : (moment.before.transmit.get lane).capacity = transmitSlots :=
        sound.transmission.capacity lane
      have complete : (moment.before.transmit.get lane).isComplete = true := by
        rw [Ring.isComplete, count, capacity]
        rfl
      rw [← whole, Transfer.handle_complete]
      exact Ring.awaits_of_inUse (sound.transmission.lanes lane) complete held.symm

theorem Ordered.after (ordered : Ordered config moment.before history)
    (same : moment.before.config = config) (valid : config.isValid = true)
    (sound : moment.before.Sound) (alive : moment.before.device.stage ≠ .dead)
    (inOrder : moment.InOrder history) : Ordered config moment.after (history ++ [moment]) := by
  have matched := ordered.matches same sound alive inOrder
  subst same
  have serves : ∀ lane, moment.Serves lane := fun lane =>
    moment.serves lane valid sound alive inOrder.bare matched
  refine ⟨?_, ?_, ?_, ?_, ?_⟩
  · intro lane
    have held := ordered.held lane
    rw [inFlight_concat, flightAfter]
    cases serves lane with
    | quiet taken sent _ ring =>
        rw [taken, sent, ring, ← held]
        simp
    | takes taken sent _ _ ring =>
        rw [taken, sent, ring, ← held]
        simp
    | reports taken sent _ _ ring =>
        rw [taken, sent, Option.isSome_some, if_pos rfl, List.append_nil, List.map_tail, held,
          ring, List.tail_cons]
  · intro address unknown
    rw [inFlight_concat, flightAfter, ordered.elsewhere address unknown,
      moment.takenOn_eq_nil unknown]
    split <;> rfl
  · intro lane
    have frames := ordered.frames lane
    rw [inFlight_concat, flightAfter, acceptedOn_concat, reportedOn_concat, Moment.reportedOn]
    cases serves lane with
    | quiet taken sent accepted =>
        rw [taken, sent, accepted]
        simpa using frames
    | takes taken sent accepted original =>
        rw [taken, sent, accepted]
        simp [frames, original]
    | reports taken sent accepted reported =>
        obtain ⟨first, later, split, content⟩ := inOrder.front sent
        rw [split, List.map_cons] at frames
        rw [taken, sent, accepted, reported, split, Option.isSome_some, if_pos rfl, if_pos rfl,
          Option.toList_none, List.append_nil, List.append_nil, List.tail_cons, frames,
          List.map_append, List.append_assoc, List.map_singleton, content]
        rfl
  · intro lane
    have statuses := ordered.statuses lane
    rw [reportedOn_concat, sentOn_concat, Moment.reportedOn]
    cases serves lane with
    | quiet taken sent accepted | takes taken sent accepted =>
        rw [sent]
        simpa using statuses
    | reports _ sent _ reported =>
        rw [sent, reported, List.map_append, List.map_append, statuses]
        rfl
  · intro other member
    rcases List.mem_append.mp member with early | last
    · exact ordered.matched other early
    · exact List.mem_singleton.mp last ▸ matched

theorem ordered (config : Config) (inputs : List Input) (valid : config.isValid = true)
    (inOrder : Throughout Moment.InOrder ((Engine.fresh config).history inputs))
    (alive : ((Engine.fresh config).run inputs).1.device.stage ≠ .dead) :
    Ordered config ((Engine.fresh config).run inputs).1 ((Engine.fresh config).history inputs) := by
  induction inputs using List.reverseRecOn with
  | nil => exact ordered_fresh config
  | append_singleton inputs input hypothesis =>
      rw [Engine.history_concat, Throughout.concat_iff] at inOrder
      rw [Engine.run_concat] at alive
      have advances := (Moment.mk ((Engine.fresh config).run inputs).1 input).reception_step
      obtain ⟨event, step, -⟩ := advances
      have living := step.alive alive
      rw [Engine.run_concat, Engine.history_concat]
      exact (hypothesis inOrder.1 living).after (Engine.config_run config inputs) valid
        (Engine.sound_run config inputs) living inOrder.2

end History

namespace Engine

/-- Transmission over whole runs of an engine that is up, if frames are handed down
bare and the transport completes the transfers of each address in the order of
their submission.  On every output endpoint the transport holds the handles of the
window of the ring, and the octets and queues that were handed down are those read
back from the frames reported so far, each with the status of its transfer, followed
by those in flight.  No transfer ends out of turn, a frame is accepted if and only if
the transport takes it, and none is submitted on the endpoint for commands. -/
theorem transmits_in_order (config : Config) (inputs : List Input) (valid : config.isValid = true)
    (up : History.IsUp ((fresh config).history inputs))
    (inOrder : Throughout Moment.InOrder ((fresh config).history inputs)) :
    let history := (fresh config).history inputs
    let engine := ((fresh config).run inputs).1
    (∀ lane : Lane,
      ((history.inFlight (config.outEndpoints.get lane)).map fun transfer =>
            some transfer.handle) =
          ((List.range (engine.transmit.get lane).used).map fun offset =>
            (engine.transmit.get lane).slots[
              ((engine.transmit.get lane).start + offset) % transmitSlots]?) ∧
        (history.acceptedOn lane).map Outgoing.handedDown =
          ((history.reportedOn (config.outEndpoints.get lane)).map fun report =>
              report.1.original) ++
            ((history.inFlight (config.outEndpoints.get lane)).map fun transfer =>
              transfer.content.original) ∧
        (history.reportedOn (config.outEndpoints.get lane)).map (·.2) =
          (history.sentOn (config.outEndpoints.get lane)).map (·.status)) ∧
      engine.counters.txMismatches = 0 ∧
      ∀ moment ∈ history, ∀ submission ∈ moment.transmitted,
        (submission.2.2 = none ↔ moment.accepted?.isSome = true) ∧
          ∀ lane : Lane, lane.val = 0 → submission.1 ≠ config.outEndpoints.get lane := by
  have ordered := History.ordered config inputs valid inOrder up.alive
  have sound := sound_run config inputs
  refine ⟨fun lane => ⟨?_, ordered.frames lane, ordered.statuses lane⟩, ?_, ?_⟩
  · have capacity : (((fresh config).run inputs).1.transmit.get lane).capacity = transmitSlots :=
      sound.transmission.capacity lane
    rw [ordered.held lane, Ring.inUse, Ring.window, capacity, List.map_map]
    rfl
  · have unmet : ∀ moment ∈ (fresh config).history inputs, ∀ anomaly ∈ moment.anomaly?,
        anomaly.family ≠ .transmit := fun moment member anomaly met =>
      (ordered.matched moment member).family_ne met
    exact (unmet_run config inputs unmet).1
  · intro moment member submission submitted
    refine ⟨moment.accepted?_iff submission submitted, ?_⟩
    obtain ⟨used, data, same⟩ := moment.address_of_transmitted submission submitted
    rintro lane command equal
    rw [config_of_mem member] at same
    rw [Config.outEndpoints_injective valid (same.symm.trans equal)] at data
    exact data command

/-- The inputs of sending on two endpoints.  The second frame of the first endpoint
is refused, and its third one is in flight when the first one has ended. -/
def sendingInputs : List Input :=
  let all : Memory := fun _ => true
  let frame : Outgoing := .bare [1, 2, 3, 4, 5] 7
  let content := frame.wrapWith .distributed (transmitFlags noHardwareKey)
  bringUpInputs ++
    [.enqueue all (fun _ => none) frame noHardwareKey 0,
      .enqueue all (fun _ => some ⟨.io 5, false⟩) (.bare [6] 7) noHardwareKey 0,
      .enqueue all (fun _ => none) (.bare [7, 8] 9) noHardwareKey 1,
      .enqueue all (fun _ => none) (.bare [] 7) 0 0,
      .completeTransmit 4 ((Transfer.bind 64 content).complete (.io 5) 20)]

/-- The frames of the first of these endpoints. -/
theorem transmits_in_order_interleaved :
    let history := (fresh .small).history sendingInputs
    let address := Config.small.outEndpoints.get ⟨1, by decide⟩
    History.IsUp history ∧ Throughout Moment.InOrder history ∧
      (history.reportedOn address).length = 1 ∧ (history.inFlight address).length = 1 ∧
      (history.acceptedOn ⟨1, by decide⟩).map Outgoing.handedDown =
        ((history.reportedOn address).map fun report => report.1.original) ++
          ((history.inFlight address).map fun transfer => transfer.content.original) := by
  intro history address
  have facts : History.IsUp history ∧ Throughout Moment.InOrder history ∧
      (history.reportedOn address).length = 1 ∧ (history.inFlight address).length = 1 := by
    decide +kernel
  obtain ⟨up, inOrder, reported, inFlight⟩ := facts
  obtain ⟨lanes, -, -⟩ := transmits_in_order .small sendingInputs (by decide) up inOrder
  exact ⟨up, inOrder, reported, inFlight, (lanes ⟨1, by decide⟩).2.1⟩

end Engine

end WlanDatapath
