import WlanDatapath.Proofs.ReceiveOrder
import WlanDatapath.Proofs.Wrapping

/-!
# Frames that are not sent

A frame can meet five obstacles, and `Engine.obstacle?` looks for them in the order in which
they count: there may be no running device, no output endpoint for the hardware queue, no
memory for the transfer, no free slot in the ring, and the transport may refuse.  A frame is
accepted if and only if it meets none, and its sender is told about the first.

Whatever the obstacle, the frame leaves next to nothing behind.  `Engine.noting` is all of it:
a count, and the news that the device is gone if the transport takes its refusal to mean
that.  The slot that was reserved stays the one that is taken next, so a later frame of the
same endpoint goes out on the same handle (`Engine.sameSlot_run`).
-/

namespace WlanDatapath

/-! ## Obstacles -/

/-- Why a frame is not sent. -/
inductive Obstacle where
  /-- The device has not started, or it is dead. -/
  | notReady
  /-- The hardware queue has no output endpoint. -/
  | invalidQueue (queue : UInt8)
  /-- There is no memory for the transfer. -/
  | outOfMemory
  /-- Every slot of the endpoint is in flight. -/
  | queueFull
  /-- The transport refuses the transfer. -/
  | refused (refusal : Refusal)
deriving DecidableEq, Repr

/-- What the sender of the frame is told. -/
def Obstacle.failure : Obstacle → Failure
  | .notReady => .notReady
  | .invalidQueue queue => .invalidQueue queue
  | .outOfMemory => .outOfMemory
  | .queueFull => .queueFull
  | .refused refusal => .ofStatus refusal.status

/-- A frame as it goes out from a hardware queue. -/
def Outgoing.sealed (octets : Octets) (upper key queue : UInt8) : Outgoing :=
  .enclosed
    (HeaderWord.ofFrame (transmitFlags key) octets.length
      (if queue = 4 then .management else .distributed)) octets upper

namespace Engine

/-- The first obstacle that a frame meets. -/
def obstacle? (engine : Engine) (memory : Memory) (answer : Transfer Outgoing → Option Refusal)
    (octets : Octets) (upper key queue : UInt8) : Option Obstacle :=
  if engine.device.stage = .created ∨ engine.device.stage = .dead then some .notReady
  else if inRange : queue.toNat < 5 then
    let ring := engine.transmit.get ⟨queue.toNat + 1, Nat.succ_lt_succ inRange⟩
    if memory (8 + roundUp octets.length) = false then some .outOfMemory
    else if ring.used = transmitSlots then some .queueFull
    else
      (ring.producer?.bind fun handle =>
        answer (.bind handle (.sealed octets upper key queue))).map .refused
  else some (.invalidQueue queue)

/-- The engine that an obstacle leaves behind. -/
def noting (engine : Engine) : Obstacle → Engine
  | .notReady | .invalidQueue _ | .outOfMemory => engine
  | .queueFull =>
      { engine with
        counters := { engine.counters with txQueueFull := engine.counters.txQueueFull + 1 } }
  | .refused refusal =>
      { engine with
        counters := { engine.counters with
          txSubmitsFailed := engine.counters.txSubmitsFailed + 1 }
        device :=
          if refusal.fatal then { engine.device with stage := .removed, removed := true }
          else engine.device }

@[simp]
theorem transmit_noting (engine : Engine) (obstacle : Obstacle) :
    (engine.noting obstacle).transmit = engine.transmit := by
  cases obstacle <;> rfl

/-- No obstacle takes a device that has started back to its creation. -/
theorem stage_noting {engine : Engine} {obstacle : Obstacle}
    (started : engine.device.stage ≠ .created) :
    (engine.noting obstacle).device.stage ≠ .created := by
  cases obstacle with
  | refused refusal =>
      unfold noting
      dsimp only
      split
      · simp
      · exact started
  | _ => exact started

/-- What becomes of a frame that meets an obstacle: its sender is told, the obstacle is
noted, and apart from lines of the log nobody hears of it but the transport that refuses it,
on the handle of the slot that is taken next. -/
structure Obstructed (engine : Engine) (queue : UInt8) (obstacle : Obstacle)
    (step : EnqueueStep) : Prop where
  result : step.2.2 = .error (.failure obstacle.failure)
  noted : step.1 = engine.noting obstacle
  acts : ∀ effect ∈ step.2.1, effect.kind = .log ∨
    ∃ lane transfer refusal, laneOfQueue queue = .ok lane ∧ obstacle = .refused refusal ∧
      (engine.transmit.get lane).producer? = some transfer.handle ∧
      effect = .submitTransmit (engine.config.outEndpoints.get lane) transfer (some refusal)

/-! ## Meeting them -/

variable {engine : Engine} {memory : Memory} {answer : Transfer Outgoing → Option Refusal}
  {octets : Octets} {upper key queue : UInt8} {lane : Lane}

theorem accepts_iff : engine.device.accepts = true ↔
    ¬ (engine.device.stage = .created ∨ engine.device.stage = .dead) := by
  unfold Device.accepts
  cases engine.device.stage <;> simp

/-- The ring of a device that accepts is full, or it offers its next slot. -/
theorem Sound.reserve? (sound : engine.Sound) (accepts : engine.device.accepts = true)
    (lane : Lane) :
    let ring := engine.transmit.get lane
    ring.isComplete = true ∧
      if ring.used = transmitSlots then ring.reserve? = .error .queueFull
      else ∃ handle, ring.producer? = some handle ∧ ring.reserve? = .ok handle := by
  intro ring
  have wellFormed : ring.WellFormed := sound.transmission.lanes lane
  have capacity : ring.capacity = transmitSlots := sound.transmission.capacity lane
  have count : ring.slots.length = transmitSlots := sound.transmission.populated accepts lane
  have complete : ring.isComplete = true := by simp [Ring.isComplete, count, capacity]
  refine ⟨complete, ?_⟩
  split
  next full => simp [Ring.reserve?, Ring.isFull, capacity, full]
  next room =>
    have below : ring.stop < ring.slots.length := count ▸ capacity ▸ wellFormed.stop_lt
    have bound := wellFormed.used_le
    have open_ : ring.isFull = false := by
      simp only [Ring.isFull, decide_eq_false_iff_not]
      omega
    have found : ring.producer? = some ring.slots[ring.stop] := List.getElem?_eq_getElem below
    exact ⟨_, found, by simp [Ring.reserve?, open_, complete, found]⟩

/-- A full ring turns a frame down. -/
theorem submitTransmit_of_full (accepts : engine.device.accepts = true)
    (complete : (engine.transmit.get lane).isComplete = true)
    (full : (engine.transmit.get lane).reserve? = .error .queueFull) (outgoing : Outgoing) :
    engine.submitTransmit answer lane outgoing =
      (engine.noting .queueFull, [.log (.transmitRingFull lane outgoing.queue)],
        .error (.failure .queueFull)) := by
  simp [submitTransmit, accepts, complete, full, noting]

/-- A refusal is counted, and it may find the device removed. -/
theorem refuseTransmit_eq (accepts : engine.device.accepts = true) (refusal : Refusal) :
    (engine.refuseTransmit refusal).1 = engine.noting (.refused refusal) ∧
      (engine.refuseTransmit refusal).2.2 = .error (.failure (.ofStatus refusal.status)) := by
  have noted : engine.device.noteRemoval.2 =
      { engine.device with stage := .removed, removed := true } := by
    obtain ⟨unstarted, alive⟩ := not_or.mp (accepts_iff.mp accepts)
    unfold Device.noteRemoval
    cases stage : engine.device.stage <;> simp_all
  unfold refuseTransmit noting
  split
  next fatal => simp [fatal, noted]
  next standing => simp [standing]

/-- The transport is asked on the handle of the next slot. -/
theorem submitTransmit_of_reserved {handle : Handle} (accepts : engine.device.accepts = true)
    (complete : (engine.transmit.get lane).isComplete = true)
    (reserved : (engine.transmit.get lane).reserve? = .ok handle) (outgoing : Outgoing) :
    engine.submitTransmit answer lane outgoing =
      let transfer := Transfer.bind handle outgoing
      let step := match answer transfer with
        | none => engine.enterTransmit lane outgoing.queue
        | some refusal => engine.refuseTransmit refusal
      (step.1,
        .submitTransmit (engine.config.outEndpoints.get lane) transfer (answer transfer) ::
          step.2.1,
        step.2.2) := by
  cases taken : answer (.bind handle outgoing) <;>
    simp [submitTransmit, accepts, complete, reserved, taken]

/-- A frame that the transport refuses is obstructed by the refusal. -/
theorem obstructed_of_refused {handle : Handle} {outgoing : Outgoing} {refusal : Refusal}
    (accepts : engine.device.accepts = true) (mapped : laneOfQueue queue = .ok lane)
    (complete : (engine.transmit.get lane).isComplete = true)
    (found : (engine.transmit.get lane).producer? = some handle)
    (reserved : (engine.transmit.get lane).reserve? = .ok handle)
    (refuses : answer (.bind handle outgoing) = some refusal) :
    engine.Obstructed queue (.refused refusal) (engine.submitTransmit answer lane outgoing) := by
  rw [submitTransmit_of_reserved accepts complete reserved]
  simp only [refuses]
  obtain ⟨noted, result⟩ := refuseTransmit_eq accepts refusal
  refine ⟨result, noted, ?_⟩
  intro effect member
  rcases List.mem_cons.mp member with rfl | inRefusal
  · exact .inr ⟨lane, _, refusal, mapped, rfl, found, rfl⟩
  · exact .inl (engine.kind_refuseTransmit refusal effect inRefusal)

/-- A frame that the transport takes is accepted. -/
theorem ok_of_taken {handle : Handle} {outgoing : Outgoing}
    (accepts : engine.device.accepts = true)
    (complete : (engine.transmit.get lane).isComplete = true)
    (reserved : (engine.transmit.get lane).reserve? = .ok handle)
    (takes : answer (.bind handle outgoing) = none) :
    (engine.submitTransmit answer lane outgoing).2.2 = .ok () := by
  obtain ⟨ring, published⟩ := Ring.exists_publish (Transmission.offers_of_reserve? reserved).2.1
  rw [submitTransmit_of_reserved accepts complete reserved]
  simp only [takes]
  exact (Transmission.enterTransmit_of_publish engine outgoing.queue published).2

/-- A device that does not accept turns every frame down. -/
theorem obstructed_of_shut (shut : engine.device.stage = .created ∨ engine.device.stage = .dead)
    (frame : Outgoing) :
    engine.Obstructed queue .notReady (engine.enqueue memory answer frame key queue) := by
  have refuses : engine.device.accepts = false :=
    Bool.eq_false_of_not_eq_true fun accepts => accepts_iff.mp accepts shut
  have same : engine.enqueue memory answer frame key queue =
      (engine, [], .error (.failure .notReady)) := by
    simp [enqueue, refuses]
  exact same ▸ ⟨rfl, rfl, by simp⟩

/-- A hardware queue without an output endpoint is no way out. -/
theorem obstructed_of_unmapped (accepts : engine.device.accepts = true)
    (high : ¬ queue.toNat < 5) (frame : Outgoing) :
    engine.Obstructed queue (.invalidQueue queue)
      (engine.enqueue memory answer frame key queue) := by
  have unmapped : laneOfQueue queue = .error (.invalidQueue queue) :=
    dif_neg fun below => high (Nat.lt_of_succ_lt_succ below)
  have same : engine.enqueue memory answer frame key queue =
      (engine, [], .error (.failure (.invalidQueue queue))) := by
    simp [enqueue, accepts, unmapped]
  exact same ▸ ⟨rfl, rfl, by simp⟩

/-- A frame for a hardware queue with an output endpoint is wrapped for that endpoint, if
there is memory. -/
theorem enqueue_of_mapped (accepts : engine.device.accepts = true)
    (mapped : laneOfQueue queue = .ok lane) (small : octets.length ≤ Memory.largestRequest) :
    engine.enqueue memory answer (.bare octets upper) key queue =
      if memory (8 + roundUp octets.length) then
        engine.submitTransmit answer lane (.sealed octets upper key queue)
      else (engine, [], .error (.failure .outOfMemory)) := by
  have wrap := Outgoing.wrap_bare octets upper memory (selectorOfLane lane) (transmitFlags key)
  rw [if_neg (not_largestRoundable_lt small)] at wrap
  simp only [enqueue, accepts, mapped, wrap, if_true, Outgoing.sealed,
    ← (selectorOfLane_eq mapped).2]
  cases memory (8 + roundUp octets.length) <;> rfl

/-- A frame is accepted if it meets no obstacle, and obstructed by the first one otherwise. -/
theorem Sound.enqueue_bare (sound : engine.Sound)
    (small : octets.length ≤ Memory.largestRequest) :
    let step := engine.enqueue memory answer (.bare octets upper) key queue
    match engine.obstacle? memory answer octets upper key queue with
    | none => step.2.2 = .ok ()
    | some obstacle => engine.Obstructed queue obstacle step := by
  intro step
  by_cases shut : engine.device.stage = .created ∨ engine.device.stage = .dead
  · rw [obstacle?, if_pos shut]
    exact obstructed_of_shut shut _
  have accepts := accepts_iff.mpr shut
  rw [obstacle?, if_neg shut]
  by_cases inRange : queue.toNat < 5
  case neg =>
    rw [dif_neg inRange]
    exact obstructed_of_unmapped accepts inRange _
  rw [dif_pos inRange]
  have mapped : laneOfQueue queue = .ok ⟨queue.toNat + 1, Nat.succ_lt_succ inRange⟩ :=
    dif_pos (Nat.succ_lt_succ inRange)
  obtain ⟨complete, offer⟩ := sound.reserve? accepts ⟨queue.toNat + 1, Nat.succ_lt_succ inRange⟩
  have opened : step = _ := enqueue_of_mapped accepts mapped small
  cases granted : memory (8 + roundUp octets.length) with
  | false =>
      rw [granted, if_neg (by simp)] at opened
      rw [opened, if_pos rfl]
      exact ⟨rfl, rfl, by simp⟩
  | true =>
      rw [granted, if_pos rfl] at opened
      rw [opened, if_neg (by simp)]
      split at offer
      next full =>
        rw [if_pos full, submitTransmit_of_full accepts complete offer]
        refine ⟨rfl, rfl, ?_⟩
        intro effect member
        exact .inl (by rw [List.mem_singleton.mp member]; rfl)
      next room =>
        obtain ⟨handle, found, reserved⟩ := offer
        rw [if_neg room, found, Option.bind_some]
        cases verdict : answer (.bind handle (.sealed octets upper key queue)) with
        | none => exact ok_of_taken accepts complete reserved verdict
        | some refusal =>
            exact obstructed_of_refused accepts mapped complete found reserved verdict

end Engine

/-! ## The slot that is taken next -/

/-- What is submitted for a frame goes out on the handle that the ring of its queue offers. -/
theorem Engine.offers_of_transmitted {engine : Engine} {memory : Memory}
    {answer : Transfer Outgoing → Option Refusal} {frame : Outgoing} {key queue : UInt8}
    {submission : UInt8 × Transfer Outgoing × Option Refusal}
    (member : submission ∈
      (engine.enqueue memory answer frame key queue).2.1.filterMap Effect.transmitted?) :
    engine.device.accepts = true ∧ ∃ lane, laneOfQueue queue = .ok lane ∧
      (engine.transmit.get lane).Offers submission.2.1.handle := by
  have move := engine.sendMove_enqueue memory answer frame key queue
  generalize engine.enqueue memory answer frame key queue = step at move member
  cases move with
  | turnedDown | overflowed => simp [Effect.transmitted?] at member
  | refused ready reserved =>
      rw [List.filterMap_cons, Transmission.transmitted?_refuseTransmit] at member
      obtain rfl := List.mem_singleton.mp member
      exact ⟨ready.accepts, _, ready.mapped, Transmission.offers_of_reserve? reserved⟩
  | taken ready reserved =>
      rw [List.filterMap_cons, Transmission.transmitted?_enterTransmit] at member
      obtain rfl := List.mem_singleton.mp member
      exact ⟨ready.accepts, _, ready.mapped, Transmission.offers_of_reserve? reserved⟩

namespace Moment

/-- The transfers that are submitted for the hardware queue of an output endpoint, whether the
transport takes them or not. -/
def submittedOn (lane : Lane) (moment : Moment) : List (Transfer Outgoing) :=
  match moment.input with
  | .enqueue _ _ _ _ queue =>
      if (laneOfQueue queue).toOption = some lane then moment.transmitted.map (·.2.1) else []
  | _ => []

variable {moment : Moment} {lane : Lane} {transfer : Transfer Outgoing}

theorem offers_of_submittedOn (member : transfer ∈ moment.submittedOn lane) :
    moment.before.device.accepts = true ∧
      (moment.before.transmit.get lane).Offers transfer.handle := by
  obtain ⟨engine, input⟩ := moment
  cases input with
  | enqueue memory answer frame key queue =>
      simp only [submittedOn] at member
      split at member
      next mapped =>
        obtain ⟨submission, inTransmitted, rfl⟩ := List.mem_map.mp member
        rw [transmitted, effects_enqueue] at inTransmitted
        obtain ⟨accepts, used, found, offers⟩ := Engine.offers_of_transmitted inTransmitted
        obtain rfl : used = lane := by simpa [found, Except.toOption] using mapped
        exact ⟨accepts, offers⟩
      · simp at member
  | _ => simp [submittedOn] at member

/-- A frame that is accepted came from the hardware queue of its endpoint. -/
theorem input_of_accepted? {frame : Outgoing} (accepted : moment.accepted? = some (lane, frame)) :
    ∃ memory answer key queue, moment.input = .enqueue memory answer frame key queue ∧
      (laneOfQueue queue).toOption = some lane := by
  unfold accepted? at accepted
  split at accepted
  next memory answer other key queue _ asked replied =>
    obtain ⟨used, mapped, same⟩ := Option.map_eq_some_iff.mp accepted
    cases same
    exact ⟨memory, answer, key, queue, asked, mapped⟩
  next => contradiction

/-- The transport takes a transfer on an endpoint only if one is submitted on it. -/
theorem submittedOn_ne_nil (tells : (Transmission.Event.taken lane transfer).Tells moment) :
    moment.submittedOn lane ≠ [] := by
  obtain ⟨frame, told, -⟩ := tells.exists_accepted?
  obtain ⟨memory, answer, key, queue, asked, mapped⟩ := input_of_accepted? told
  have transmitted := tells.transmitted
  simp only [submittedOn, asked, mapped, transmitted]
  simp [Transmission.Event.transmitted]

end Moment

namespace Engine

/-- An endpoint would take the same slot next, and the slot has the same handle. -/
structure SameSlot (lane : Lane) (early late : Engine) : Prop where
  stop : (late.transmit.get lane).stop = (early.transmit.get lane).stop
  handle : early.device.stage ≠ .created →
    (late.transmit.get lane).slots = (early.transmit.get lane).slots
  begun : early.device.stage ≠ .created → late.device.stage ≠ .created

/-- As long as nothing is submitted on an endpoint, the slot that it takes next stays the
same until the device is dead. -/
theorem sameSlot_run {engine : Engine} (sound : engine.Sound) (lane : Lane)
    (inputs : List Input)
    (unused : ∀ moment ∈ engine.history inputs, moment.submittedOn lane = []) :
    (engine.run inputs).1.device.stage = .dead ∨ engine.SameSlot lane (engine.run inputs).1 := by
  have invariant := History.invariant
    (fun late history => late.Sound ∧
      ((∀ moment ∈ history, moment.submittedOn lane = []) →
        late.device.stage = .dead ∨ engine.SameSlot lane late))
    ⟨sound, fun _ => .inr ⟨rfl, fun _ => rfl, id⟩⟩ ?_ inputs
  · exact invariant.2 unused
  rintro history moment ⟨before, kept⟩
  refine ⟨before.after, fun calm => ?_⟩
  rcases kept fun earlier member => calm earlier (by simp [member]) with dead | same
  · exact .inl (dead_run dead [moment.input])
  obtain ⟨event, step, tells⟩ := moment.transmission_step
  have unsubmitted := calm moment (by simp)
  have begun : engine.device.stage ≠ .created → moment.after.device.stage ≠ .created := by
    intro started
    exact started_after (same.begun started)
  have change := step.lane_step lane
  generalize ringAfter : moment.after.transmission.lanes.get lane = ring at change
  replace ringAfter : moment.after.transmit.get lane = ring := ringAfter
  cases change with
  | kept =>
      exact .inr ⟨ringAfter ▸ same.stop, fun started => ringAfter ▸ same.handle started, begun⟩
  | published => exact absurd unsubmitted (Moment.submittedOn_ne_nil tells)
  | retired awaits retired =>
      obtain ⟨-, -, rfl⟩ := Ring.retire?_eq_some retired
      exact .inr ⟨ringAfter ▸ same.stop, fun started => ringAfter ▸ same.handle started, begun⟩
  | extended created =>
      refine .inr ⟨ringAfter ▸ same.stop, fun started => ?_, begun⟩
      exact absurd created (same.begun started)
  | emptied =>
      have dead := before.reception.begun (Transmission.Step.begun_of_drained step)
      exact .inl (dead_run dead [moment.input])

/-- **A frame is sent, or it leaves next to nothing behind.**

After every run, a frame is accepted if it meets no obstacle.  If it meets one, its sender is
told about the first, and nothing but that obstacle is noted: every ring, the request for a
pass, the activities and the statistics flags are as before, and nobody is called but the
transport that refuses the frame.

Whatever happens then, the next transfer that is submitted on an endpoint takes the slot
that came next when the frame was to be sent, on the handle which that slot had once there
were handles. -/
theorem enqueue_atomic (config : Config) (inputs : List Input) (octets : Octets)
    (small : octets.length ≤ Memory.largestRequest) (memory : Memory)
    (answer : Transfer Outgoing → Option Refusal) (upper key queue : UInt8) :
    let engine := ((fresh config).run inputs).1
    let step := engine.enqueue memory answer (.bare octets upper) key queue
    match engine.obstacle? memory answer octets upper key queue with
    | none => step.2.2 = .ok ()
    | some obstacle =>
        engine.Obstructed queue obstacle step ∧
          ∀ (lane : Lane) (later : List Input) (input : Input),
            let next := Moment.mk (step.1.run later).1 input
            (∀ moment ∈ step.1.history later, moment.submittedOn lane = []) →
              ∀ transfer ∈ next.submittedOn lane,
                (next.before.transmit.get lane).stop = (engine.transmit.get lane).stop ∧
                  (engine.device.stage ≠ .created →
                    (engine.transmit.get lane).producer? = some transfer.handle) := by
  intro engine step
  have sound : engine.Sound := sound_run config inputs
  have outcome : match engine.obstacle? memory answer octets upper key queue with
      | none => step.2.2 = .ok ()
      | some obstacle => engine.Obstructed queue obstacle step := sound.enqueue_bare small
  revert outcome
  cases engine.obstacle? memory answer octets upper key queue with
  | none => exact id
  | some obstacle =>
      intro obstructed
      refine ⟨obstructed, ?_⟩
      intro lane later input next unused transfer member
      obtain ⟨accepts, -, -, offered⟩ := Moment.offers_of_submittedOn member
      let moment : Moment := ⟨engine, .enqueue memory answer (.bare octets upper) key queue⟩
      have sound : moment.before.Sound := sound
      have after : step.1.Sound := sound.after
      have rings : step.1.transmit = engine.transmit := by
        rw [obstructed.noted, transmit_noting]
      rcases sameSlot_run after lane later unused with dead | same
      · exact absurd (.inr dead) (accepts_iff.mp accepts)
      refine ⟨same.stop.trans (rings ▸ rfl), fun started => ?_⟩
      have handles := same.handle (by rw [obstructed.noted]; exact stage_noting started)
      have found : (next.before.transmit.get lane).slots[(next.before.transmit.get lane).stop]? =
          some transfer.handle := offered
      rw [show (next.before.transmit.get lane).slots = _ from handles,
        show (next.before.transmit.get lane).stop = _ from same.stop, rings] at found
      exact found

/-- The transport refuses a frame on the ground that the device is gone, and the next frame of
the endpoint goes out on the handle that was refused. -/
theorem enqueue_atomic_refused :
    let engine := ((fresh .small).run bringUpInputs).1
    let refusal : Refusal := ⟨.io (-71), true⟩
    let octets : Octets := [1, 2, 3, 4, 5]
    let step := engine.enqueue (fun _ => true) (fun _ => some refusal) (.bare octets 7) 0xff 0
    let next : Input := .enqueue (fun _ => true) (fun _ => none) (.bare octets 7) 0xff 0
    octets.length ≤ Memory.largestRequest ∧
      step.2.2 = .error (.failure (.submit (.io (-71)))) ∧
      step.1.device.stage = .removed ∧ step.1.counters.txSubmitsFailed = 1 ∧
      ∃ transfer, (Moment.mk step.1 next).submittedOn ⟨1, by decide⟩ = [transfer] ∧
        transfer.handle = 64 := by
  have facts :
      let engine := ((fresh .small).run bringUpInputs).1
      let refused := engine.enqueue (fun _ => true) (fun _ => some ⟨.io (-71), true⟩)
        (.bare [1, 2, 3, 4, 5] 7) 0xff 0
      engine.obstacle? (fun _ => true) (fun _ => some ⟨.io (-71), true⟩) [1, 2, 3, 4, 5] 7 0xff 0 =
          some (.refused ⟨.io (-71), true⟩) ∧
        engine.device.stage = .running ∧ engine.counters.txSubmitsFailed = 0 ∧
        (engine.transmit.get ⟨1, by decide⟩).producer? = some 64 ∧
        ((Moment.mk refused.1
          (.enqueue (fun _ => true) (fun _ => none) (.bare [1, 2, 3, 4, 5] 7) 0xff 0)).submittedOn
            ⟨1, by decide⟩).length = 1 := by
    decide +kernel
  -- The theorem is applied to the run alone at first, and then only the facts about the run
  -- are kept: it must not be evaluated again.
  have outcome := @enqueue_atomic .small bringUpInputs
  generalize ((fresh .small).run bringUpInputs).1 = engine at facts outcome ⊢
  obtain ⟨met, running, unrefused, offers, submitted⟩ := facts
  intro engine refusal octets step next
  have small : octets.length ≤ Memory.largestRequest := by simp [octets, Memory.largestRequest]
  replace outcome := outcome octets small (fun _ => true) (fun _ => some refusal) 7 0xff 0
  dsimp only at outcome
  rw [show Engine.obstacle? _ _ _ _ _ _ _ = _ from met] at outcome
  obtain ⟨obstructed, nextSlot⟩ := outcome
  obtain ⟨transfer, only⟩ := List.length_eq_one_iff.mp submitted
  have member : transfer ∈ [transfer] := List.mem_singleton_self _
  rw [← only] at member
  obtain ⟨-, offered⟩ := nextSlot ⟨1, by decide⟩ [] next (by simp) transfer member
  have same := offers.symm.trans (offered (by rw [running]; decide))
  refine ⟨small, obstructed.result, ?_, ?_, transfer, only, (Option.some.inj same).symm⟩
  · exact congrArg (fun after => after.device.stage) obstructed.noted
  · exact (congrArg (fun after => after.counters.txSubmitsFailed) obstructed.noted).trans
      (congrArg (· + 1) unrefused)

end Engine

end WlanDatapath
