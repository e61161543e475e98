import WlanDatapath.Proofs.ReceiveBuffers

/-!
# Engines that differ in what their buffers contain

The engine moves receive buffers about and hands them over unseen.  It looks into a
buffer at one place, when the pass takes it out of its slot after a transfer that
succeeded, and then no further than the transfer reported.

An `Overlay` says which octets are written over the buffers of an engine, and
`Engine.overlaid` is the engine after that.  Each operation has one lemma: writing
over the buffers before the operation is writing over them after it, with an overlay
that follows the buffers to their new places.  Only `Engine.popReceive_overlaid` has a
condition, on what the pass reads.
-/

namespace WlanDatapath

/-! ## Writing over a buffer -/

namespace Buffer

variable (buffer : Buffer) {other : Buffer} {octets : Octets} {length : Nat}

@[simp]
theorem write_nil : buffer.write [] = buffer := by
  simp [write]

/-- A buffer that is written over as a whole becomes the other one. -/
theorem write_octets (same : other.capacity = buffer.capacity) :
    buffer.write other.octets = other := by
  have length : other.octets.length = buffer.octets.length := same
  have nothing : buffer.octets.drop other.octets.length = [] :=
    List.drop_eq_nil_of_le length.ge
  simp [write, capacity, nothing, ← length]

/-- Two buffers into which the same was written show the same as far as this reaches. -/
theorem filled_write_congr (same : other.capacity = buffer.capacity)
    (covered : length ≤ octets.length) :
    (other.write octets).filled length = (buffer.write octets).filled length := by
  by_cases fits : octets.length ≤ buffer.capacity
  · rw [filled_write_of_le buffer fits covered,
      filled_write_of_le other (fits.trans_eq same.symm) covered]
  · have beyond : ∀ own : Buffer, own.capacity = buffer.capacity →
        (own.write octets).octets = octets.take buffer.capacity := by
      intro own size
      have nothing : own.octets.drop octets.length = [] := by
        apply List.drop_eq_nil_of_le
        show own.capacity ≤ octets.length
        omega
      simp only [write, size, nothing, List.append_nil]
    simp only [filled, beyond other same, beyond buffer rfl]

end Buffer

/-- A receive transfer whose buffer was written over. -/
def Transfer.overlaid (octets : Octets) (transfer : Transfer Buffer) : Transfer Buffer :=
  { transfer with content := transfer.content.write octets }

@[simp]
theorem Transfer.overlaid_nil (transfer : Transfer Buffer) : transfer.overlaid [] = transfer := by
  simp [overlaid]

/-! ## Writing over the buffers of a ring -/

namespace ReceiveSlot

/-- A slot whose buffer, if there is one, was written over. -/
def overlaid (octets : Octets) (slot : ReceiveSlot) : ReceiveSlot :=
  { slot with buffer := slot.buffer.map (·.write octets) }

variable (octets further : Octets) (slot : ReceiveSlot)

@[simp]
theorem handle_overlaid : (slot.overlaid octets).handle = slot.handle := rfl

@[simp]
theorem status_overlaid : (slot.overlaid octets).status = slot.status := rfl

@[simp]
theorem length_overlaid : (slot.overlaid octets).length = slot.length := rfl

@[simp]
theorem buffer_overlaid : (slot.overlaid octets).buffer = slot.buffer.map (·.write octets) := rfl

/-- An empty slot takes the buffer with what was written over it, and a slot with a
buffer keeps its own. -/
theorem putBack_overlaid (buffer : Buffer) :
    (slot.overlaid octets).putBack (buffer.write further) =
      (slot.putBack buffer).overlaid (if slot.buffer = none then further else octets) := by
  cases held : slot.buffer <;> simp [putBack, overlaid, held]

end ReceiveSlot

namespace Ring

/-- A receive ring whose buffers were written over. -/
def overlaid (slots : Nat → Octets) (ring : Ring ReceiveSlot) : Ring ReceiveSlot :=
  { ring with slots := ring.slots.mapIdx fun index slot => slot.overlaid (slots index) }

variable (ring : Ring ReceiveSlot) (slots : Nat → Octets)

@[simp]
theorem getElem?_overlaid (index : Nat) :
    (ring.overlaid slots).slots[index]? =
      ring.slots[index]?.map (·.overlaid (slots index)) := by
  simp [overlaid]

@[simp]
theorem isComplete_overlaid : (ring.overlaid slots).isComplete = ring.isComplete := by
  simp [isComplete, overlaid]

@[simp]
theorem isFull_overlaid : (ring.overlaid slots).isFull = ring.isFull := rfl

@[simp]
theorem handles_overlaid : (ring.overlaid slots).handles = ring.handles := by
  apply List.ext_getElem?
  intro index
  simp only [handles, List.getElem?_map, getElem?_overlaid, Option.map_map]
  rfl

/-- Whose turn it is does not depend on what buffers contain. -/
@[simp]
theorem producer?_overlaid :
    (ring.overlaid slots).producer?.map (·.handle) = ring.producer?.map (·.handle) := by
  simp only [producer?, getElem?_overlaid, Option.map_map]
  rfl

@[simp]
theorem position?_overlaid (handle : Handle) :
    ((ring.overlaid slots).position? fun slot => slot.handle == handle) =
      ring.position? fun slot => slot.handle == handle := by
  have byHandles : ∀ ring : Ring ReceiveSlot,
      (ring.position? fun slot => slot.handle == handle) =
        ring.handles.findIdx? (· == handle) := by
    intro ring
    rw [handles, List.findIdx?_map]
    rfl
  rw [byHandles, byHandles, handles_overlaid]

theorem retire?_overlaid :
    (ring.overlaid slots).retire? =
      ring.retire?.map fun taken => (taken.1, taken.2.overlaid slots) := by
  unfold retire?
  cases empty : ring.isEmpty with
  | true =>
      have same : (ring.overlaid slots).isEmpty = true := empty
      simp [same]
  | false =>
      have same : (ring.overlaid slots).isEmpty = false := empty
      simp only [same]
      rfl

theorem publish_overlaid :
    (ring.overlaid slots).publish = ring.publish.map fun next => next.overlaid slots := by
  unfold publish
  rw [isFull_overlaid]
  split <;> rfl

/-- Changes of a slot that agree but for an overlay change the whole ring so. -/
theorem modify_overlaid {index : Nat} {change changed : ReceiveSlot → ReceiveSlot}
    {octets : Octets}
    (agree : ∀ slot ∈ ring.slots[index]?,
      changed (slot.overlaid (slots index)) = (change slot).overlaid octets) :
    (ring.overlaid slots).modify index changed =
      (ring.modify index change).overlaid (Function.update slots index octets) := by
  have same : ((ring.overlaid slots).modify index changed).slots =
      ((ring.modify index change).overlaid (Function.update slots index octets)).slots := by
    apply List.ext_getElem?
    intro place
    simp only [getElem?_overlaid, modify, List.getElem?_modify]
    by_cases here : index = place
    · subst here
      cases found : ring.slots[index]? with
      | none => rfl
      | some slot => simpa using agree slot found
    · simp [here, Function.update_of_ne (Ne.symm here)]
  exact congrArg (fun slots => { ring with slots := slots }) same

/-- What is made of the handles of the slots does not depend on what buffers contain. -/
theorem map_overlaid {Item : Type} (make : Handle → Item) :
    ((ring.overlaid slots).slots.map fun slot => make slot.handle) =
      ring.slots.map fun slot => make slot.handle := by
  have same := congrArg (List.map make) (ring.handles_overlaid slots)
  simpa only [handles, List.map_map, Function.comp_def] using same

/-- What lies over the slots after a buffer was put back. -/
def putBackOver (index : Nat) (octets : Octets) : Nat → Octets :=
  if ring.buffer? index = none then Function.update slots index octets else slots

/-- Over a slot that holds a buffer there is still what was there. -/
theorem putBackOver_of_buffer? {index : Nat} {own : Buffer}
    (held : ring.buffer? index = some own) (octets : Octets) :
    ring.putBackOver slots index octets = slots := by
  simp [putBackOver, held]

theorem putBack_overlaid (index : Nat) (buffer : Buffer) (octets : Octets) :
    (ring.overlaid slots).putBack index (buffer.write octets) =
      (ring.putBack index buffer).overlaid (ring.putBackOver slots index octets) := by
  have above : ring.putBackOver slots index octets =
      Function.update slots index
        (if ring.buffer? index = none then octets else slots index) := by
    unfold putBackOver
    split
    · rfl
    · exact (Function.update_eq_self index slots).symm
  rw [above]
  apply modify_overlaid
  intro slot found
  have held : ring.buffer? index = slot.buffer := by
    rw [buffer?, found, Option.bind_some]
  rw [held]
  exact slot.putBack_overlaid (slots index) octets buffer

theorem vacate_overlaid (index : Nat) :
    (ring.overlaid slots).vacate index = (ring.vacate index).overlaid slots := by
  have vacated : (ring.overlaid slots).modify index ReceiveSlot.vacate =
      (ring.modify index ReceiveSlot.vacate).overlaid
        (Function.update slots index (slots index)) :=
    ring.modify_overlaid slots fun _ _ => rfl
  rwa [Function.update_eq_self] at vacated

theorem modify_file_overlaid (index : Nat) (transfer : Transfer Buffer) (octets : Octets) :
    (ring.overlaid slots).modify index (ReceiveSlot.file (transfer.overlaid octets)) =
      (ring.modify index (ReceiveSlot.file transfer)).overlaid
        (Function.update slots index octets) :=
  ring.modify_overlaid slots fun _ _ => rfl

@[simp]
theorem overlaid_nil : ring.overlaid (fun _ => []) = ring := by
  have same : (ring.overlaid fun _ => []).slots = ring.slots := by
    apply List.ext_getElem?
    intro index
    rw [getElem?_overlaid]
    cases ring.slots[index]? <;> simp [ReceiveSlot.overlaid]
  exact congrArg (fun slots => { ring with slots := slots }) same

/-- Without slots there is nothing to write over. -/
theorem overlaid_of_slots_eq_nil (empty : ring.slots = []) : ring.overlaid slots = ring := by
  obtain ⟨capacity, present, start, stop, used⟩ := ring
  cases empty
  rfl

end Ring

/-! ## Writing over the buffers of an engine -/

/-- A buffer that was written over, with its slot. -/
def Work.overlaid (octets : Octets) (work : Work) : Work :=
  { work with buffer := work.buffer.write octets }

/-- A pass whose buffer was written over. -/
def Pass.overlaid (octets : Octets) : Pass → Pass
  | .idle => .idle
  | .popping => .popping
  | .walking work walker => .walking (work.overlaid octets) walker
  | .delivering work walker => .delivering (work.overlaid octets) walker
  | .returning work => .returning (work.overlaid octets)
  | .submitting work => .submitting (work.overlaid octets)

/-- Bringing up with the buffer written over that was submitted last. -/
def BringUp.overlaid (octets : Octets) : BringUp → BringUp
  | .idle => .idle
  | .posting index => .posting index
  | .submitting work => .submitting (work.overlaid octets)
  | .failing failure => .failing failure

/-- An act whose buffer was written over. -/
def Effect.overlaid (octets : Octets) : Effect → Effect
  | .submitReceive endpoint transfer => .submitReceive endpoint (transfer.overlaid octets)
  | effect => effect

/-- Only submissions of receive buffers show what is in a buffer. -/
theorem Effect.map_overlaid {octets : Octets} {effects : List Effect}
    (others : ∀ effect ∈ effects, effect.kind ≠ .submitReceive) :
    effects.map (Effect.overlaid octets) = effects := by
  rw [List.map_congr_left, List.map_id]
  intro effect member
  cases effect with
  | submitReceive => exact absurd rfl (others _ member)
  | _ => rfl

/-- An input whose buffer, if there is one, was written over. -/
def Input.overlaid (octets : Octets) : Input → Input
  | .completeReceive transfer => .completeReceive (transfer.overlaid octets)
  | input => input

@[simp]
theorem Input.overlaid_nil (input : Input) : input.overlaid [] = input := by
  cases input <;> simp [overlaid]

/-- What is written over the buffers of an engine: over those in the slots, over the one
that the pass has and over the one that is being posted. -/
structure Overlay where
  slots : Nat → Octets
  carried : Octets
  posted : Octets

namespace Engine

/-- An engine whose buffers were written over. -/
def overlaid (overlay : Overlay) (engine : Engine) : Engine :=
  { engine with
    receive := engine.receive.overlaid overlay.slots
    bringUp := engine.bringUp.overlaid overlay.posted
    pass := engine.pass.overlaid overlay.carried }

/-- What a step leads to once the buffers were written over, if it submits none. -/
def overlaidWith {Answer : Type} (overlay : Overlay) (step : Engine × Answer) :
    Engine × Answer :=
  (step.1.overlaid overlay, step.2)

variable (engine : Engine) (overlay : Overlay)

@[simp]
theorem receive_overlaid :
    (engine.overlaid overlay).receive = engine.receive.overlaid overlay.slots := rfl

@[simp]
theorem bringUp_overlaid :
    (engine.overlaid overlay).bringUp = engine.bringUp.overlaid overlay.posted := rfl

@[simp]
theorem pass_overlaid :
    (engine.overlaid overlay).pass = engine.pass.overlaid overlay.carried := rfl

@[simp]
theorem config_overlaid : (engine.overlaid overlay).config = engine.config := rfl

@[simp]
theorem device_overlaid : (engine.overlaid overlay).device = engine.device := rfl

@[simp]
theorem deferred_overlaid : (engine.overlaid overlay).deferred = engine.deferred := rfl

@[simp]
theorem transmit_overlaid : (engine.overlaid overlay).transmit = engine.transmit := rfl

/-- Nothing is written over the buffers. -/
theorem overlaid_blank : engine.overlaid ⟨fun _ => [], [], []⟩ = engine := by
  have bringUp : engine.bringUp.overlaid [] = engine.bringUp := by
    cases engine.bringUp <;> simp [BringUp.overlaid, Work.overlaid]
  have pass : engine.pass.overlaid [] = engine.pass := by
    cases engine.pass <;> simp [Pass.overlaid, Work.overlaid]
  rw [overlaid, bringUp, pass, Ring.overlaid_nil]

/-- An engine that has nothing has nothing to write over. -/
theorem overlaid_of_untouched {engine : Engine} (untouched : engine.reception = .untouched) :
    engine.overlaid overlay = engine := by
  have ring : engine.receive = .empty receiveSlots := congrArg Reception.ring untouched
  have bringUp : engine.bringUp = .idle := congrArg Reception.bringUp untouched
  have pass : engine.pass = .idle := congrArg Reception.pass untouched
  have nothing : engine.receive.overlaid overlay.slots = engine.receive :=
    engine.receive.overlaid_of_slots_eq_nil overlay.slots (congrArg Ring.slots ring)
  obtain ⟨config, device, receive, transmit, deferred, counters, reported, bringUp, pass,
    teardowns⟩ := engine
  simp_all [overlaid, BringUp.overlaid, Pass.overlaid]

theorem complaint_overlaid (status : Status) (line : LogLine) :
    (engine.overlaid overlay).complaint status line = engine.complaint status line := rfl

/-! ### Completions -/

theorem putBackAt_overlaid (index : Nat) (buffer : Buffer) (octets : Octets) :
    (engine.overlaid overlay).putBackAt index (buffer.write octets) =
      (engine.putBackAt index buffer).overlaid
        { overlay with slots := engine.receive.putBackOver overlay.slots index octets } := by
  have ring := engine.receive.putBack_overlaid overlay.slots index buffer octets
  exact congrArg (fun ring => { engine.overlaid overlay with receive := ring }) ring

end Engine

/-- What lies over the slots after a transfer was dismissed. -/
def Ring.dismissOver (ring : Ring ReceiveSlot) (slots : Nat → Octets) (handle : Handle)
    (octets : Octets) : Nat → Octets :=
  match ring.position? fun slot => slot.handle == handle with
  | some index => ring.putBackOver slots index octets
  | none => slots

/-- What lies over the slots after a transfer has ended. -/
def Ring.completeOver (ring : Ring ReceiveSlot) (slots : Nat → Octets) (handle : Handle)
    (octets : Octets) : Nat → Octets :=
  if !ring.isComplete then slots
  else if ring.isFull then ring.dismissOver slots handle octets
  else if ring.producer?.map (·.handle) = some handle then
    Function.update slots ring.stop octets
  else ring.dismissOver slots handle octets

namespace Ring

variable {ring : Ring ReceiveSlot} {slots : Nat → Octets} {handle : Handle} {octets : Octets}

theorem completeOver_of_expects (expected : ring.Expects handle) :
    ring.completeOver slots handle octets = Function.update slots ring.stop octets := by
  obtain ⟨complete, room, turn⟩ := expected
  simp [completeOver, complete, room, turn]

theorem completeOver_of_incomplete (incomplete : ring.isComplete = false) :
    ring.completeOver slots handle octets = slots := by
  simp [completeOver, incomplete]

theorem completeOver_of_unexpected (complete : ring.isComplete = true)
    (unexpected : ¬ ring.Expects handle) :
    ring.completeOver slots handle octets = ring.dismissOver slots handle octets := by
  cases room : ring.isFull with
  | true => simp [completeOver, complete, room]
  | false =>
      have other : ring.producer?.map (·.handle) ≠ some handle :=
        fun turn => unexpected ⟨complete, room, turn⟩
      simp only [completeOver, complete, room, if_neg other, Bool.not_true, Bool.false_eq_true,
        if_false]

end Ring

namespace Engine

variable (engine : Engine) (overlay : Overlay)

theorem putBackByHandle_overlaid (handle : Handle) (buffer : Buffer) (octets : Octets) :
    (engine.overlaid overlay).putBackByHandle handle (buffer.write octets) =
      (engine.putBackByHandle handle buffer).overlaid
        { overlay with slots := engine.receive.dismissOver overlay.slots handle octets } := by
  simp only [putBackByHandle, receive_overlaid, Ring.position?_overlaid, Ring.dismissOver]
  cases engine.receive.position? fun slot => slot.handle == handle with
  | some index => exact engine.putBackAt_overlaid overlay index buffer octets
  | none => rfl

theorem dismissReceive_overlaid (transfer : Transfer Buffer) (anomaly : Anomaly)
    (line : LogLine) (octets : Octets) :
    (engine.overlaid overlay).dismissReceive (transfer.overlaid octets) anomaly line =
      overlaidWith
        { overlay with
          slots := engine.receive.dismissOver overlay.slots transfer.handle octets }
        (engine.dismissReceive transfer anomaly line) := by
  let counted := { engine with
    counters := { engine.counters with rxMismatches := engine.counters.rxMismatches + 1 } }
  have returned := (counted.reportOnce anomaly line).1.putBackByHandle_overlaid overlay
    transfer.handle transfer.content octets
  exact Prod.ext returned rfl

theorem fileReceive_overlaid (transfer : Transfer Buffer) (octets : Octets) :
    (engine.overlaid overlay).fileReceive (transfer.overlaid octets) =
      overlaidWith
        { overlay with slots := Function.update overlay.slots engine.receive.stop octets }
        (engine.fileReceive transfer) := by
  have filed := engine.receive.modify_file_overlaid overlay.slots engine.receive.stop transfer
    octets
  have stop : (engine.receive.overlaid overlay.slots).stop = engine.receive.stop := rfl
  simp only [fileReceive, overlaidWith, receive_overlaid, stop, filed, Ring.publish_overlaid]
  cases (engine.receive.modify engine.receive.stop (ReceiveSlot.file transfer)).publish <;> rfl

theorem completeReceive_overlaid (transfer : Transfer Buffer) (octets : Octets) :
    (engine.overlaid overlay).completeReceive (transfer.overlaid octets) =
      overlaidWith
        { overlay with
          slots := engine.receive.completeOver overlay.slots transfer.handle octets }
        (engine.completeReceive transfer) := by
  have status : (transfer.overlaid octets).status = transfer.status := rfl
  have handle : (transfer.overlaid octets).handle = transfer.handle := rfl
  simp only [completeReceive, Ring.completeOver, receive_overlaid, Ring.isComplete_overlaid,
    Ring.isFull_overlaid, Ring.producer?_overlaid, status, handle, complaint_overlaid]
  split
  · rfl
  · split
    · rw [dismissReceive_overlaid]
      rfl
    · split
      · rw [fileReceive_overlaid]
        rfl
      · rw [dismissReceive_overlaid]
        rfl

/-! ### The pass -/

theorem startPass_overlaid :
    (engine.overlaid overlay).startPass =
      (engine.startPass.1, engine.startPass.2.overlaid overlay) := by
  unfold startPass
  rw [deferred_overlaid]
  split <;> rfl

/-- What the pass reads of the oldest buffer does not show what was written over it. -/
def ReadsThrough (engine : Engine) (slots : Nat → Octets) : Prop :=
  engine.device.accepts = true → ∀ index ring slot buffer,
    engine.receive.retire? = some (index, ring) → ring.slots[index]? = some slot →
    slot.buffer = some buffer → slot.status.isOk = true →
      (buffer.write (slots index)).filled slot.length = buffer.filled slot.length

/-- The buffer that the pass takes is the one that was written over in its slot. -/
theorem popReceive_overlaid {engine : Engine} {overlay : Overlay}
    (popping : engine.pass = .popping) (through : engine.ReadsThrough overlay.slots) :
    (engine.overlaid overlay).popReceive =
      engine.popReceive.overlaid
        { overlay with carried := overlay.slots engine.receive.start } := by
  have leaves : ∀ ring : Ring ReceiveSlot, ∀ carried : Octets,
      { engine.overlaid overlay with receive := ring.overlaid overlay.slots }.endPass =
        { engine with receive := ring }.endPass.overlaid { overlay with carried := carried } := by
    intro ring carried
    unfold endPass
    cases leave : engine.deferred.leave with
    | mk again deferred => cases again <;> simp [overlaid, leave, Pass.overlaid]
  unfold popReceive
  rw [receive_overlaid, Ring.retire?_overlaid]
  cases retired : engine.receive.retire? with
  | none => exact leaves engine.receive _
  | some taken =>
      obtain ⟨index, ring⟩ := taken
      obtain ⟨-, rfl, -⟩ := Ring.retire?_eq_some retired
      simp only [Option.map_some, Ring.getElem?_overlaid]
      cases found : ring.slots[engine.receive.start]? with
      | none => exact leaves ring _
      | some slot =>
          cases held : slot.buffer with
          | none => simp [held, overlaid, popping, Pass.overlaid]
          | some buffer =>
              have vacated : (ring.overlaid overlay.slots).modify _ ReceiveSlot.vacate = _ :=
                ring.vacate_overlaid overlay.slots engine.receive.start
              simp only [Option.map_some, ReceiveSlot.buffer_overlaid, held, vacated,
                ReceiveSlot.status_overlaid, device_overlaid]
              by_cases readable : (slot.status.isOk && engine.device.accepts) = true
              · have read := through (Bool.and_elim_right readable) _ ring slot buffer retired
                  found held (Bool.and_elim_left readable)
                simp only [readable, if_true, ReceiveSlot.length_overlaid, read]
                rfl
              · simp only [readable]
                rfl

theorem takeSegment_overlaid (memory : Memory) (segment : Segment) (work : Work)
    (walker : Walker) :
    (engine.overlaid overlay).takeSegment memory segment (work.overlaid overlay.carried) walker =
      overlaidWith overlay (engine.takeSegment memory segment work walker) := by
  unfold takeSegment
  split
  · rfl
  · split <;> rfl

theorem walkReceive_overlaid (memory : Memory) (work : Work) (walker : Walker) :
    (engine.overlaid overlay).walkReceive memory (work.overlaid overlay.carried) walker =
      overlaidWith overlay (engine.walkReceive memory work walker) := by
  unfold walkReceive
  split
  · rfl
  · rfl
  · exact engine.takeSegment_overlaid overlay memory _ work _

theorem answerDelivery_overlaid (accepted : Bool) :
    (engine.overlaid overlay).answerDelivery accepted =
      (engine.answerDelivery accepted).overlaid overlay := by
  unfold answerDelivery
  rw [pass_overlaid]
  cases engine.pass <;> rfl

/-- A buffer that is given back shows what was written over it to the transport. -/
theorem returnReceive_overlaid (work : Work) :
    (engine.overlaid overlay).returnReceive (work.overlaid overlay.carried) =
      if engine.device.accepts then
        ((engine.returnReceive work).1.overlaid overlay,
          (engine.returnReceive work).2.map (Effect.overlaid overlay.carried))
      else
        overlaidWith
          { overlay with
            slots := engine.receive.putBackOver overlay.slots work.index overlay.carried }
          (engine.returnReceive work) := by
  unfold returnReceive
  rw [device_overlaid]
  split
  · rfl
  · refine Prod.ext ?_ rfl
    exact putBackAt_overlaid { engine with pass := .popping } overlay work.index work.buffer
      overlay.carried

/-- A buffer that is refused comes back with what was written over it. -/
theorem answerRepost_overlaid {engine : Engine} {work : Work}
    (submitting : engine.pass = .submitting work) (overlay : Overlay) (refusal : Refusal) :
    (engine.overlaid overlay).answerRepost (some refusal) =
      overlaidWith
        { overlay with
          slots := engine.receive.putBackOver overlay.slots work.index overlay.carried }
        (engine.answerRepost (some refusal)) := by
  let next := { engine with
    device := if refusal.fatal then engine.device.noteRemoval.2 else engine.device
    counters := { engine.counters with
      rxRepostsFailed := engine.counters.rxRepostsFailed + 1 }
    pass := .popping }
  have returned := next.putBackAt_overlaid overlay work.index work.buffer overlay.carried
  unfold answerRepost
  rw [pass_overlaid, submitting]
  exact Prod.ext returned rfl

/-! ### Tearing down -/

theorem beginTeardown_overlaid :
    (engine.overlaid overlay).beginTeardown = overlaidWith overlay engine.beginTeardown := by
  refine Prod.ext rfl ?_
  simp only [beginTeardown, overlaidWith, receive_overlaid, List.map_take]
  rw [Ring.map_overlaid]

theorem abandon_overlaid (failure : Failure) :
    (engine.overlaid overlay).abandon failure =
      overlaidWith overlay (engine.abandon failure) := by
  unfold abandon
  rw [beginTeardown_overlaid]
  rfl

theorem finishTeardown?_overlaid :
    (engine.overlaid overlay).finishTeardown? =
      engine.finishTeardown?.map (overlaidWith overlay) := by
  have freed := engine.receive.map_overlaid overlay.slots Effect.free
  unfold finishTeardown?
  by_cases waits : (engine.teardowns = 0 || engine.deferred.running) = true
  · rw [if_pos waits]
    exact if_pos waits
  · rw [if_neg waits]
    refine (if_neg waits).trans ?_
    simp only [receive_overlaid, Ring.drain, freed]
    rfl

/-! ### Bringing up -/

/-- A buffer that is posted shows what was written over it to the transport. -/
theorem proceedBringUp?_overlaid :
    (engine.overlaid overlay).proceedBringUp? =
      match engine.bringUp with
      | .posting index =>
          engine.proceedBringUp?.map fun step =>
            (step.1.overlaid { overlay with posted := overlay.slots index },
              step.2.1.map (Effect.overlaid (overlay.slots index)), step.2.2)
      | _ => engine.proceedBringUp?.map (overlaidWith overlay) := by
  unfold proceedBringUp?
  rw [bringUp_overlaid]
  cases place : engine.bringUp with
  | idle | submitting => rfl
  | failing failure =>
      simp only [BringUp.overlaid, finishTeardown?_overlaid]
      cases engine.finishTeardown? <;> rfl
  | posting index =>
      simp only [BringUp.overlaid, receive_overlaid, Ring.getElem?_overlaid, config_overlaid]
      by_cases all : receiveSlots ≤ index
      · simp only [all, if_true]
        rfl
      · simp only [all, if_false]
        cases engine.receive.slots[index]? with
        | none =>
            have abandoned := engine.abandon_overlaid overlay .notReady
            simp only [Option.map_none, Option.map_some, abandoned]
            rw [Effect.map_overlaid fun effect member kind => by
              simpa [kind] using engine.kind_abandon .notReady effect member]
            rfl
        | some slot =>
            cases held : slot.buffer with
            | none => simp [held, overlaid, BringUp.overlaid]
            | some buffer =>
                have vacated : (engine.receive.overlaid overlay.slots).modify index
                    ReceiveSlot.vacate = _ :=
                  engine.receive.vacate_overlaid overlay.slots index
                simp only [Option.map_some, ReceiveSlot.buffer_overlaid, held, vacated]
                rfl

/-- A buffer whose post is refused comes back with what was written over it. -/
theorem answerPost_overlaid {engine : Engine} {work : Work}
    (submitting : engine.bringUp = .submitting work) (overlay : Overlay) (refusal : Refusal) :
    (engine.overlaid overlay).answerPost (some refusal) =
      overlaidWith
        { overlay with
          slots := engine.receive.putBackOver overlay.slots work.index overlay.posted }
        (engine.answerPost (some refusal)) := by
  let next := { engine with
    device := if refusal.fatal then engine.device.noteRemoval.2 else engine.device }
  have returned := next.putBackAt_overlaid overlay work.index work.buffer overlay.posted
  unfold answerPost
  rw [bringUp_overlaid, submitting]
  have abandoned := (next.putBackAt work.index work.buffer).abandon_overlaid
    { overlay with
      slots := engine.receive.putBackOver overlay.slots work.index overlay.posted }
    (.ofStatus refusal.status)
  rw [← returned] at abandoned
  exact abandoned

/-! ### Transmission -/

theorem enterTransmit_overlaid (lane : Lane) (queue : UInt8) :
    (engine.overlaid overlay).enterTransmit lane queue =
      overlaidWith overlay (engine.enterTransmit lane queue) := by
  unfold enterTransmit
  rw [transmit_overlaid]
  split <;> rfl

theorem refuseTransmit_overlaid (refusal : Refusal) :
    (engine.overlaid overlay).refuseTransmit refusal =
      overlaidWith overlay (engine.refuseTransmit refusal) := by
  cases fatal : refusal.fatal <;> simp only [refuseTransmit, fatal] <;> rfl

theorem submitTransmit_overlaid (answer : Transfer Outgoing → Option Refusal) (lane : Lane)
    (outgoing : Outgoing) :
    (engine.overlaid overlay).submitTransmit answer lane outgoing =
      overlaidWith overlay (engine.submitTransmit answer lane outgoing) := by
  unfold submitTransmit
  by_cases ready : (!(engine.transmit.get lane).isComplete || !engine.device.accepts) = true
  · simp only [transmit_overlaid, device_overlaid, ready, if_true]
    rfl
  · simp only [transmit_overlaid, device_overlaid, ready]
    cases (engine.transmit.get lane).reserve? with
    | error failure => rfl
    | ok handle =>
        simp only
        cases answer (.bind handle outgoing) with
        | none =>
            simp only [enterTransmit_overlaid]
            rfl
        | some refusal =>
            simp only [refuseTransmit_overlaid]
            rfl

theorem enqueue_overlaid (memory : Memory) (answer : Transfer Outgoing → Option Refusal)
    (frame : Outgoing) (key queue : UInt8) :
    (engine.overlaid overlay).enqueue memory answer frame key queue =
      overlaidWith overlay (engine.enqueue memory answer frame key queue) := by
  unfold enqueue
  rw [device_overlaid]
  split
  · split
    · rfl
    · split
      · rfl
      · exact engine.submitTransmit_overlaid overlay answer _ _
  · rfl

theorem acceptTransmit_overlaid (lane : Lane) (transfer : Transfer Outgoing) :
    (engine.overlaid overlay).acceptTransmit lane transfer =
      overlaidWith overlay (engine.acceptTransmit lane transfer) := by
  cases well : transfer.status.isOk <;> simp only [acceptTransmit, well] <;> rfl

theorem completeTransmit_overlaid (address : UInt8) (transfer : Transfer Outgoing) :
    (engine.overlaid overlay).completeTransmit address transfer =
      overlaidWith overlay (engine.completeTransmit address transfer) := by
  simp only [completeTransmit, config_overlaid, transmit_overlaid, complaint_overlaid]
  cases engine.config.lane? address with
  | none => rfl
  | some lane =>
      cases populated : (engine.transmit.get lane).isComplete with
      | false =>
          simp only [populated]
          rfl
      | true =>
          cases turn : !(engine.transmit.get lane).isEmpty &&
              (engine.transmit.get lane).consumer? == some transfer.handle with
          | true =>
              simp only [populated, turn, acceptTransmit_overlaid]
              rfl
          | false =>
              simp only [populated, turn]
              rfl

theorem finishStatistics_overlaid :
    (engine.overlaid overlay).finishStatistics =
      overlaidWith overlay engine.finishStatistics := by
  cases again : engine.device.takeCompletions.1 && engine.device.accepts <;>
    simp only [finishStatistics, device_overlaid, again] <;> rfl

end Engine

end WlanDatapath
