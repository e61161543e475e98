import WlanDatapath.Receive.Frames
import WlanDatapath.Proofs.Acquisition

/-!
# Reception as a transition system

Seen from the receive ring an engine has a stage of life, a ring, a request for
a pass, and two places where it may wait: in bringing up and in the pass.
`Reception.Step` says everything that one step can do to these, with the
conditions under which it does, and `Reception.Event` what the step means.

`Moment.reception_step` ties this system to the engine.  Facts about reception
are proved by cases on `Reception.Step`, and the engine's own definitions are not
opened again.
-/

namespace WlanDatapath

/-! ## Stages -/

/-- The stage after a step that neither starts the device nor ends its life. -/
def Stage.Follows (earlier later : Stage) : Prop :=
  later = earlier ∨ earlier = .running ∧ later = .removed

/-- Received buffers are decoded and frames are submitted at this stage. -/
def Stage.accepts (stage : Stage) : Bool :=
  stage == .running || stage == .removed

/-- A device that has started and is not dead accepts. -/
theorem Stage.accepts_of_ne {stage : Stage} (started : stage ≠ .created) (alive : stage ≠ .dead) :
    stage.accepts = true := by
  cases stage with
  | running | removed => rfl
  | created => exact absurd rfl started
  | dead => exact absurd rfl alive

namespace Stage.Follows

variable {earlier later : Stage}

theorem accepts_eq (follows : earlier.Follows later) : later.accepts = earlier.accepts := by
  rcases follows with rfl | ⟨rfl, rfl⟩ <;> rfl

theorem created_iff (follows : earlier.Follows later) : later = .created ↔ earlier = .created := by
  rcases follows with rfl | ⟨rfl, rfl⟩ <;> simp

theorem dead_iff (follows : earlier.Follows later) : later = .dead ↔ earlier = .dead := by
  rcases follows with rfl | ⟨rfl, rfl⟩ <;> simp

end Stage.Follows

theorem Device.follows_noteRemoval (device : Device) :
    device.stage.Follows device.noteRemoval.2.stage := by
  obtain ⟨stage, removed, more, reading⟩ := device
  cases stage
  case running => exact Or.inr ⟨rfl, rfl⟩
  all_goals exact Or.inl rfl

/-- A refusal may be the news that the device is gone. -/
theorem Device.follows_refusal (device : Device) (refusal : Refusal) :
    device.stage.Follows (if refusal.fatal then device.noteRemoval.2 else device).stage := by
  split
  · exact device.follows_noteRemoval
  · exact Or.inl rfl

/-! ## Receive rings -/

namespace Ring

/-- A transfer on this handle is the one whose turn it is. -/
def Expects (ring : Ring ReceiveSlot) (handle : Handle) : Prop :=
  ring.isComplete = true ∧ ring.isFull = false ∧
    ring.producer?.map (·.handle) = some handle

/-- The ring with a transfer filed behind its window. -/
def file (ring : Ring ReceiveSlot) (transfer : Transfer Buffer) : Ring ReceiveSlot :=
  { ring.modify ring.stop (ReceiveSlot.file transfer) with
    stop := (ring.stop + 1) % ring.capacity
    used := ring.used + 1 }

/-- The ring with a buffer put back into a slot that has none. -/
def putBack (ring : Ring ReceiveSlot) (index : Nat) (buffer : Buffer) : Ring ReceiveSlot :=
  ring.modify index (ReceiveSlot.putBack buffer)

/-- The ring with the buffer of a slot taken out. -/
def vacate (ring : Ring ReceiveSlot) (index : Nat) : Ring ReceiveSlot :=
  ring.modify index ReceiveSlot.vacate

/-- Filing publishes the slot behind the window. -/
theorem publish_file {ring : Ring ReceiveSlot} (transfer : Transfer Buffer)
    (room : ring.isFull = false) :
    (ring.modify ring.stop (ReceiveSlot.file transfer)).publish = .ok (ring.file transfer) := by
  unfold publish
  rw [if_neg]
  · rfl
  · intro full
    have same : ring.isFull = true := full
    rw [room] at same
    contradiction

/-- The handles of the slots, in slot order. -/
def handles (ring : Ring ReceiveSlot) : List Handle :=
  ring.slots.map (·.handle)

/-- A change of a slot that keeps its handle. -/
theorem handles_modify (ring : Ring ReceiveSlot) (index : Nat)
    {change : ReceiveSlot → ReceiveSlot} (keeps : ∀ slot, (change slot).handle = slot.handle) :
    (ring.modify index change).handles = ring.handles := by
  unfold handles modify
  rw [← List.map_id (ring.slots.map (·.handle)), List.map_map]
  apply List.ext_getElem?
  intro place
  simp only [List.getElem?_map, List.getElem?_modify]
  cases ring.slots[place]? with
  | none => simp
  | some slot =>
      simp only [Option.map_some]
      split <;> simp [keeps]

@[simp]
theorem handles_file (ring : Ring ReceiveSlot) (transfer : Transfer Buffer) :
    (ring.file transfer).handles = ring.handles :=
  ring.handles_modify ring.stop fun _ => rfl

@[simp]
theorem handles_putBack (ring : Ring ReceiveSlot) (index : Nat) (buffer : Buffer) :
    (ring.putBack index buffer).handles = ring.handles :=
  ring.handles_modify index (ReceiveSlot.handle_putBack buffer)

@[simp]
theorem handles_vacate (ring : Ring ReceiveSlot) (index : Nat) :
    (ring.vacate index).handles = ring.handles :=
  ring.handles_modify index fun _ => rfl

theorem handles_retire {ring next : Ring ReceiveSlot} {index : Nat}
    (retired : ring.retire? = some (index, next)) : next.handles = ring.handles := by
  obtain ⟨-, -, rfl⟩ := retire?_eq_some retired
  rfl

section Named

variable {ring : Ring ReceiveSlot} {index : Nat} {handle : Handle}

theorem lt_of_handles (named : ring.handles[index]? = some handle) :
    index < ring.slots.length := by
  obtain ⟨below, -⟩ := List.getElem?_eq_some_iff.mp named
  simpa [handles] using below

theorem handles_of_slot {slot : ReceiveSlot} (found : ring.slots[index]? = some slot) :
    ring.handles[index]? = some slot.handle := by
  rw [handles, List.getElem?_map, found]
  rfl

/-- The slot that is published next has the handle whose turn it is. -/
theorem Expects.handles_stop (expected : ring.Expects handle) :
    ring.handles[ring.stop]? = some handle :=
  List.getElem?_map.trans expected.2.2

/-- The slot that a handle leads to has it. -/
theorem handles_of_position?
    (owner : (ring.position? fun slot => slot.handle == handle) = some index) :
    ring.handles[index]? = some handle := by
  have test := List.of_findIdx?_eq_some owner
  cases found : ring.slots[index]? with
  | none => simp [found] at test
  | some slot =>
      have same : slot.handle = handle := by simpa [found] using test
      rw [handles_of_slot found, same]

/-- A handle that leads to no slot is in none. -/
theorem notMem_handles_of_position?
    (ownerless : (ring.position? fun slot => slot.handle == handle) = none) :
    handle ∉ ring.handles := by
  intro member
  obtain ⟨slot, inRing, rfl⟩ := List.mem_map.mp member
  simpa using List.findIdx?_eq_none_iff.mp ownerless slot inRing

end Named

end Ring

/-! ## The system -/

/-- The part of an engine that reception is about. -/
structure Reception where
  stage : Stage
  ring : Ring ReceiveSlot
  deferred : DeferredWork
  bringUp : BringUp
  pass : Pass
  teardowns : Nat

/-- What an engine is for reception. -/
def Engine.reception (engine : Engine) : Reception where
  stage := engine.device.stage
  ring := engine.receive
  deferred := engine.deferred
  bringUp := engine.bringUp
  pass := engine.pass
  teardowns := engine.teardowns

namespace Reception

/-- What a step means for reception.  A transfer that ends in turn is filed, any
other is dismissed, and what others cannot tell is quiet. -/
inductive Event where
  | quiet
  | acquired
  | cameUp
  | passStarted
  | filed (transfer : Transfer Buffer)
  | dismissed (transfer : Transfer Buffer)
  | asked (segment : Segment) (memory : Memory)
  | submitted (handle : Handle)
  | refused (handle : Handle)
  | closed
  | drained

/-- The device accepts nothing more, no further pass starts, and a teardown is
to be finished. -/
def close (reception : Reception) : Reception :=
  { reception with
    stage := .dead
    deferred := reception.deferred.disable
    teardowns := reception.teardowns + 1 }

/-- The pass ends, or goes on for a request made meanwhile. -/
def leave (reception : Reception) : Reception :=
  { reception with
    deferred := reception.deferred.leave.2
    pass := if reception.deferred.leave.1 then .popping else .idle }

/-- Everything that one step can do. -/
inductive Step : Reception → Event → Reception → Prop where
  | unchanged {reception stage} (follows : reception.stage.Follows stage) :
      Step reception .quiet { reception with stage := stage }
  | acquired {reception slots} (created : reception.stage = .created)
      (count : slots.length = receiveSlots) (filled : ∀ slot ∈ slots, slot.buffer.isSome = true) :
      Step reception .acquired
        { reception with
          stage := .running
          ring := reception.ring.extend slots
          bringUp := .posting 0 }
  | acquisitionFailed {reception slots failure} (created : reception.stage = .created)
      (count : slots.length ≤ receiveSlots) :
      Step reception .acquired
        { reception.close with
          ring := reception.ring.extend slots
          bringUp := .failing failure }
  | posted {reception index slot buffer} (posting : reception.bringUp = .posting index)
      (below : index < receiveSlots) (found : reception.ring.slots[index]? = some slot)
      (held : slot.buffer = some buffer) :
      Step reception (.submitted slot.handle)
        { reception with
          ring := reception.ring.vacate index
          bringUp := .submitting ⟨index, slot.handle, buffer⟩ }
  | passedOver {reception index slot} (posting : reception.bringUp = .posting index)
      (below : index < receiveSlots) (found : reception.ring.slots[index]? = some slot)
      (vacant : slot.buffer = none) :
      Step reception .quiet { reception with bringUp := .posting (index + 1) }
  | slotMissing {reception index} (posting : reception.bringUp = .posting index)
      (below : index < receiveSlots) (missing : reception.ring.slots[index]? = none) :
      Step reception .quiet { reception.close with bringUp := .failing .notReady }
  | cameUp {reception index} (posting : reception.bringUp = .posting index)
      (all : receiveSlots ≤ index) :
      Step reception .cameUp { reception with bringUp := .idle }
  | postTaken {reception work} (submitting : reception.bringUp = .submitting work) :
      Step reception .quiet { reception with bringUp := .posting (work.index + 1) }
  | postRefused {reception work failure} (submitting : reception.bringUp = .submitting work) :
      Step reception (.refused work.handle)
        { reception.close with
          ring := reception.ring.putBack work.index work.buffer
          bringUp := .failing failure }
  | filed {reception transfer} (expected : reception.ring.Expects transfer.handle) :
      Step reception (.filed transfer)
        { reception with
          ring := reception.ring.file transfer
          deferred := reception.deferred.schedule.2 }
  | dismissed {reception transfer} (unexpected : ¬ reception.ring.Expects transfer.handle)
      (ownerless : reception.ring.isComplete = true →
        (reception.ring.position? fun slot => slot.handle == transfer.handle) = none) :
      Step reception (.dismissed transfer) reception
  | dismissedTo {reception transfer index}
      (unexpected : ¬ reception.ring.Expects transfer.handle)
      (complete : reception.ring.isComplete = true)
      (owner : (reception.ring.position? fun slot => slot.handle == transfer.handle) =
        some index) :
      Step reception (.dismissed transfer)
        { reception with ring := reception.ring.putBack index transfer.content }
  | passStarted {reception deferred} (entered : reception.deferred.enter? = some deferred) :
      Step reception .passStarted { reception with deferred := deferred, pass := .popping }
  | nothingLeft {reception} (popping : reception.pass = .popping)
      (empty : reception.ring.retire? = none) :
      Step reception .quiet reception.leave
  | slotLost {reception index ring} (popping : reception.pass = .popping)
      (retired : reception.ring.retire? = some (index, ring))
      (missing : ring.slots[index]? = none) :
      Step reception .quiet { reception with ring := ring }.leave
  | slotSkipped {reception index ring slot} (popping : reception.pass = .popping)
      (retired : reception.ring.retire? = some (index, ring))
      (found : ring.slots[index]? = some slot) (vacant : slot.buffer = none) :
      Step reception .quiet { reception with ring := ring }
  | opened {reception index ring slot buffer} (popping : reception.pass = .popping)
      (retired : reception.ring.retire? = some (index, ring))
      (found : ring.slots[index]? = some slot) (held : slot.buffer = some buffer)
      (succeeded : slot.status.isOk = true) (accepts : reception.stage.accepts = true) :
      Step reception .quiet
        { reception with
          ring := ring.vacate index
          pass := .walking ⟨index, slot.handle, buffer⟩ (.start (buffer.filled slot.length)) }
  | setAside {reception index ring slot buffer} (popping : reception.pass = .popping)
      (retired : reception.ring.retire? = some (index, ring))
      (found : ring.slots[index]? = some slot) (held : slot.buffer = some buffer)
      (unread : slot.status.isOk = true → reception.stage.accepts = false) :
      Step reception .quiet
        { reception with
          ring := ring.vacate index
          pass := .returning ⟨index, slot.handle, buffer⟩ }
  | walked {reception work walker} (walking : reception.pass = .walking work walker)
      (exhausted : ∀ segment, walker.next.1 ≠ some (.ok segment)) :
      Step reception .quiet { reception with pass := .returning work }
  | rejected {reception work walker segment} (walking : reception.pass = .walking work walker)
      (found : walker.next.1 = some (.ok segment)) (rejection : segment.rejection? ≠ none) :
      Step reception .quiet { reception with pass := .walking work walker.next.2 }
  | dropped {reception work walker segment memory}
      (walking : reception.pass = .walking work walker)
      (found : walker.next.1 = some (.ok segment)) (sound : segment.rejection? = none)
      (lost : segment.delivery? memory = none) :
      Step reception (.asked segment memory)
        { reception with pass := .walking work walker.next.2 }
  | handedUp {reception work walker segment memory frame}
      (walking : reception.pass = .walking work walker)
      (found : walker.next.1 = some (.ok segment)) (sound : segment.rejection? = none)
      (copied : segment.delivery? memory = some (frame, segment.descriptor)) :
      Step reception (.asked segment memory)
        { reception with pass := .delivering work walker.next.2 }
  | judged {reception work walker} (delivering : reception.pass = .delivering work walker) :
      Step reception .quiet { reception with pass := .walking work walker }
  | givenBack {reception work} (returning : reception.pass = .returning work)
      (accepts : reception.stage.accepts = true) :
      Step reception (.submitted work.handle) { reception with pass := .submitting work }
  | kept {reception work} (returning : reception.pass = .returning work)
      (shut : reception.stage.accepts = false) :
      Step reception .quiet
        { reception with
          ring := reception.ring.putBack work.index work.buffer
          pass := .popping }
  | taken {reception work} (submitting : reception.pass = .submitting work) :
      Step reception .quiet { reception with pass := .popping }
  | refused {reception work stage} (submitting : reception.pass = .submitting work)
      (follows : reception.stage.Follows stage) :
      Step reception (.refused work.handle)
        { reception with
          stage := stage
          ring := reception.ring.putBack work.index work.buffer
          pass := .popping }
  | closed {reception} : Step reception .closed reception.close
  | drained {reception bringUp} (begun : reception.teardowns ≠ 0)
      (quiet : reception.deferred.running = false)
      (waiting : bringUp = reception.bringUp ∨
        (∃ failure, reception.bringUp = .failing failure) ∧ bringUp = .idle) :
      Step reception .drained
        { reception with
          ring := reception.ring.drain.2
          deferred := reception.deferred.dropRequest
          bringUp := bringUp
          teardowns := reception.teardowns - 1 }

end Reception

/-! ## Observations -/

/-- The handle on which an act submits a receive buffer. -/
def Effect.reposted? : Effect → Option Handle
  | .submitReceive _ transfer => some transfer.handle
  | _ => none

/-- The frame that an act hands up, with its descriptor. -/
def Effect.delivered? : Effect → Option (Octets × Descriptor)
  | .deliver frame descriptor => some (frame, descriptor)
  | _ => none

namespace Moment

/-- The receive transfer that ends. -/
def ended? (moment : Moment) : Option (Transfer Buffer) :=
  match moment.input with
  | .completeReceive transfer => some transfer
  | _ => none

/-- The receive transfer that the ring accepts. -/
def filed? (moment : Moment) : Option (Transfer Buffer) :=
  if moment.before.receiveOccupancy < moment.after.receiveOccupancy then moment.ended? else none

/-- The segment for whose frame memory is asked, with the answer. -/
def asked? (moment : Moment) : Option (Segment × Memory) :=
  match moment.input, moment.before.pass with
  | .proceedPass memory, .walking _ walker =>
      match walker.next.1 with
      | some (.ok segment) => if segment.rejection?.isNone then some (segment, memory) else none
      | some (.error _) | none => none
  | _, _ => none

/-- The handles on which receive buffers are submitted. -/
def reposted (moment : Moment) : List Handle :=
  moment.effects.filterMap Effect.reposted?

/-- The frames that are handed up, with their descriptors. -/
def delivered (moment : Moment) : List (Octets × Descriptor) :=
  moment.effects.filterMap Effect.delivered?

/-- Bringing up succeeds. -/
def comesUp (moment : Moment) : Bool :=
  match moment.input, moment.reply with
  | .proceedBringUp, .over (.ok _) => true
  | _, _ => false

/-- The transport refuses a receive buffer. -/
def refusesReceive (moment : Moment) : Bool :=
  match moment.input with
  | .answerPost (some _) | .answerRepost (some _) => true
  | _ => false

/-- The handle of the receive buffer that the transport refuses. -/
def refused? (moment : Moment) : Option Handle :=
  match moment.input with
  | .answerPost (some _) =>
      match moment.before.bringUp with
      | .submitting work => some work.handle
      | .idle | .posting _ | .failing _ => none
  | .answerRepost (some _) =>
      match moment.before.pass with
      | .submitting work => some work.handle
      | .idle | .popping | .walking _ _ | .delivering _ _ | .returning _ => none
  | _ => none

theorem refused?_eq_none {moment : Moment} (taken : moment.refusesReceive = false) :
    moment.refused? = none := by
  unfold refused?
  split
  next refusal answer => simp [refusesReceive, answer] at taken
  next refusal answer => simp [refusesReceive, answer] at taken
  next => rfl

/-- A teardown is asked for. -/
def tearsDown (moment : Moment) : Bool :=
  match moment.input with
  | .beginTeardown => true
  | _ => false

/-- Somebody tries to start a pass. -/
def triesPass (moment : Moment) : Bool :=
  match moment.input with
  | .startPass => true
  | _ => false

end Moment

namespace Reception.Event

/-- The transfer that ends. -/
def ended? : Event → Option (Transfer Buffer)
  | .filed transfer | .dismissed transfer => some transfer
  | _ => none

/-- The transfer that the ring accepts. -/
def filed? : Event → Option (Transfer Buffer)
  | .filed transfer => some transfer
  | _ => none

/-- The segment for whose frame memory is asked, with the answer. -/
def asked? : Event → Option (Segment × Memory)
  | .asked segment memory => some (segment, memory)
  | _ => none

/-- The handle on which a buffer is submitted. -/
def submitted? : Event → Option Handle
  | .submitted handle => some handle
  | _ => none

/-- The handle of the buffer that the transport refuses. -/
def refused? : Event → Option Handle
  | .refused handle => some handle
  | _ => none

/-- An event is what can be observed of a moment. -/
structure Tells (event : Event) (moment : Moment) : Prop where
  ended : moment.ended? = event.ended?
  filed : moment.filed? = event.filed?
  asked : moment.asked? = event.asked?
  reposted : moment.reposted = event.submitted?.toList
  delivered : moment.delivered =
    (event.asked?.bind fun request => request.1.delivery? request.2).toList
  comesUp : moment.comesUp = true ↔ event = .cameUp
  started : event = .passStarted → moment.triesPass = true
  refused : moment.refused? = event.refused?
  closed : event = .closed → moment.tearsDown = true

/-- An input that shows nothing tells any event that is not observed otherwise. -/
theorem Tells.of_silent {event : Event} {moment : Moment}
    (silent : event ∈ [.quiet, .acquired, .passStarted, .closed, .drained] ∨
      ∃ handle, event = .refused handle)
    (ended : moment.ended? = none) (asked : moment.asked? = none)
    (reposted : moment.reposted = []) (delivered : moment.delivered = [])
    (comesUp : moment.comesUp = false)
    (started : event = .passStarted → moment.triesPass = true)
    (refused : moment.refused? = event.refused?)
    (closed : event = .closed → moment.tearsDown = true) : event.Tells moment := by
  have filed : moment.filed? = none := by
    rw [Moment.filed?, ended, ite_self]
  simp only [List.mem_cons, List.not_mem_nil, or_false] at silent
  rcases silent with (rfl | rfl | rfl | rfl | rfl) | ⟨handle, rfl⟩
  all_goals
    exact ⟨ended, filed, asked, reposted, delivered, by simp [comesUp], started, refused, closed⟩

end Reception.Event

theorem Effect.watches_reposted? : Watches reposted? .submitReceive := by
  intro effect other
  cases effect <;> simp_all [kind, reposted?]

theorem Effect.watches_delivered? : Watches delivered? .deliver := by
  intro effect other
  cases effect <;> simp_all [kind, delivered?]

namespace Moment

/-- No buffer is submitted at an input that cannot lead to it. -/
theorem reposted_eq_nil (moment : Moment)
    (other : Effect.Kind.submitReceive ∉ moment.input.kinds) : moment.reposted = [] :=
  Effect.watches_reposted?.effects_eq_nil moment other

/-- No frame is handed up at an input that cannot lead to it. -/
theorem delivered_eq_nil (moment : Moment)
    (other : Effect.Kind.deliver ∉ moment.input.kinds) : moment.delivered = [] :=
  Effect.watches_delivered?.effects_eq_nil moment other

end Moment

/-! ## The engine takes steps of the system -/

namespace Reception

open Event

variable (engine : Engine)

/-- An engine after an input is one step further. -/
def Advances (moment : Moment) : Prop :=
  ∃ event, Step moment.before.reception event moment.after.reception ∧ event.Tells moment

/-- A step that shows nothing is quiet. -/
theorem Advances.of_quiet {moment : Moment}
    (step : Step moment.before.reception .quiet moment.after.reception)
    (ended : moment.ended? = none) (asked : moment.asked? = none)
    (reposted : moment.reposted = []) (delivered : moment.delivered = [])
    (comesUp : moment.comesUp = false) (refused : moment.refused? = none) : Advances moment :=
  ⟨.quiet, step, Tells.of_silent (by simp) ended asked reposted delivered comesUp (by simp)
    refused (by simp)⟩

/-- An input that leaves the receiving side alone is no step. -/
theorem Advances.of_unchanged {moment : Moment} {stage : Stage}
    (follows : moment.before.device.stage.Follows stage)
    (same : moment.after.reception = { moment.before.reception with stage := stage })
    (ended : moment.ended? = none) (asked : moment.asked? = none)
    (reposted : moment.reposted = []) (delivered : moment.delivered = [])
    (comesUp : moment.comesUp = false) (refused : moment.refused? = none) : Advances moment :=
  .of_quiet (same ▸ .unchanged follows) ended asked reposted delivered comesUp refused

/-! ### Bringing up -/

theorem advances_startBringUp (supply : Supply) :
    Advances ⟨engine, .startBringUp supply⟩ := by
  have reposted := Moment.reposted_eq_nil ⟨engine, .startBringUp supply⟩ (by simp [Input.kinds])
  have delivered := Moment.delivered_eq_nil ⟨engine, .startBringUp supply⟩ (by simp [Input.kinds])
  by_cases created : engine.device.stage = .created
  · obtain ⟨slots, handles, accounted⟩ := engine.acquire_accounted supply acquisitions
    have others := accounted.acquired.others
    have receive := accounted.acquired.receive
    refine ⟨.acquired, ?_, Tells.of_silent (by simp) rfl rfl reposted delivered rfl
      (by simp) rfl (by simp)⟩
    rw [Moment.after_startBringUp, Engine.startBringUp, if_neg (by simp [created])]
    cases result : engine.acquire supply acquisitions with
    | mk acquired rest =>
        obtain ⟨effects, failure⟩ := rest
        rw [result] at others receive accounted
        simp only at others receive
        cases failure with
        | none =>
            have slotCount := (accounted.complete rfl).1
            rw [countP_acquisitions] at slotCount
            have whole : ({ acquired with
                device := acquired.device.start.2, bringUp := .posting 0 } : Engine).reception =
                { engine.reception with
                  stage := .running
                  ring := engine.reception.ring.extend slots
                  bringUp := .posting 0 } := by
              rw [others]
              simp [Engine.reception, receive, Device.start, created]
            exact whole ▸ .acquired created slotCount accounted.acquired.filled
        | some failure =>
            have whole : (acquired.abandon failure).1.reception =
                { engine.reception.close with
                  ring := engine.reception.ring.extend slots
                  bringUp := .failing failure } := by
              rw [others]
              simp [Engine.reception, Reception.close, Engine.abandon, Engine.beginTeardown,
                receive, Device.kill]
            have slotCount := accounted.within.1
            rw [countP_acquisitions] at slotCount
            exact whole ▸ .acquisitionFailed created slotCount
  · have idle : engine.startBringUp supply = (engine, [], some (.error .notReady)) := by
      rw [Engine.startBringUp, if_pos created]
    refine .of_unchanged (Or.inl rfl) ?_ rfl rfl reposted delivered rfl rfl
    rw [Moment.after_startBringUp, idle]
    rfl

/-- Bringing up succeeds at a step whose answer says so. -/
theorem comesUp_proceedBringUp {step : Engine.BringUpStep}
    (proceeds : engine.proceedBringUp? = some step) :
    (Moment.mk engine .proceedBringUp).comesUp = true ↔ step.2.2 = some (.ok ()) := by
  obtain ⟨next, effects, answer⟩ := step
  simp only [Moment.comesUp, Moment.reply, Engine.step, proceeds, Engine.ofBringUpStep]
  rcases answer with _ | _ | _ <;> simp [Except.mapError]

/-- A step of bringing up that submits nothing, hands up nothing and does not
succeed. -/
theorem tells_proceedBringUp {event : Event} {step : Engine.BringUpStep}
    (proceeds : engine.proceedBringUp? = some step) (calm : event = .quiet ∨ event = .drained)
    (nothing : step.2.1.filterMap Effect.reposted? = []) (pending : step.2.2 ≠ some (.ok ())) :
    event.Tells ⟨engine, .proceedBringUp⟩ := by
  have reposted : (Moment.mk engine .proceedBringUp).reposted = [] := by
    rw [Moment.reposted, Moment.effects_proceedBringUp, proceeds]
    exact nothing
  have comesUp : (Moment.mk engine .proceedBringUp).comesUp = false := by
    rw [← Bool.not_eq_true, comesUp_proceedBringUp engine proceeds]
    exact pending
  have delivered := Moment.delivered_eq_nil ⟨engine, .proceedBringUp⟩ (by simp [Input.kinds])
  rcases calm with rfl | rfl
  all_goals
    exact Tells.of_silent (by simp) rfl rfl reposted delivered comesUp (by simp) rfl (by simp)

theorem reposted_abandon (failure : Failure) :
    (engine.abandon failure).2.filterMap Effect.reposted? = [] := by
  apply Effect.watches_reposted?.filterMap_eq_nil
  intro effect member kind
  simpa [kind] using engine.kind_abandon failure effect member

theorem advances_proceedBringUp : Advances ⟨engine, .proceedBringUp⟩ := by
  cases proceeds : engine.proceedBringUp? with
  | none =>
      refine .of_unchanged (Or.inl rfl) ?_ rfl rfl ?_
        (Moment.delivered_eq_nil _ (by simp [Input.kinds])) ?_ rfl
      · rw [Moment.after_proceedBringUp, proceeds]
        rfl
      · rw [Moment.reposted, Moment.effects_proceedBringUp, proceeds]
        rfl
      · simp [Moment.comesUp, Moment.reply, Engine.step, proceeds]
  | some step =>
      have after : (Moment.mk engine .proceedBringUp).after = step.1 := by
        rw [Moment.after_proceedBringUp, proceeds]
        rfl
      have reposted : (Moment.mk engine .proceedBringUp).reposted =
          step.2.1.filterMap Effect.reposted? := by
        rw [Moment.reposted, Moment.effects_proceedBringUp, proceeds]
        rfl
      have comesUp := comesUp_proceedBringUp engine proceeds
      cases Engine.bringUpMove_of_proceeds proceeds with
      | @posts index slot buffer posting below found held =>
          refine ⟨.submitted slot.handle, ?_, rfl, ?_, rfl, reposted,
            Moment.delivered_eq_nil _ (by simp [Input.kinds]), ?_, by simp, rfl, by simp⟩
          · rw [after]
            exact .posted posting below found held
          · simp [Moment.filed?, Moment.ended?, Event.filed?]
          · simp [comesUp]
      | passes posting below found vacant =>
          refine ⟨.quiet, ?_, tells_proceedBringUp engine proceeds (by simp) rfl (by simp)⟩
          rw [after]
          exact .passedOver posting below found vacant
      | abandons posting below missing =>
          refine ⟨.quiet, ?_, tells_proceedBringUp engine proceeds (by simp)
            (reposted_abandon engine _) (by simp)⟩
          rw [after]
          exact .slotMissing posting below missing
      | comesUp posting all =>
          refine ⟨.cameUp, ?_, rfl, ?_, rfl, reposted,
            Moment.delivered_eq_nil _ (by simp [Input.kinds]), ?_, by simp, rfl, by simp⟩
          · rw [after]
            exact .cameUp posting all
          · simp [Moment.filed?, Moment.ended?, Event.filed?]
          · simp [comesUp]
      | @fails failure finished failing finish =>
          have noSubmission : finished.2.filterMap Effect.reposted? = [] := by
            apply Effect.watches_reposted?.filterMap_eq_nil
            intro effect member kind
            simpa [kind] using engine.kind_finishTeardown? finish effect member
          refine ⟨.drained, ?_, tells_proceedBringUp engine proceeds (by simp) noSubmission
            (by simp)⟩
          rw [after]
          obtain ⟨begun, quiet, rfl⟩ := Engine.finishTeardown?_eq_some finish
          exact .drained begun quiet (Or.inr ⟨⟨failure, failing⟩, rfl⟩)

theorem advances_answerPost (refusal : Option Refusal) :
    Advances ⟨engine, .answerPost refusal⟩ := by
  have reposted := Moment.reposted_eq_nil ⟨engine, .answerPost refusal⟩ (by simp [Input.kinds])
  have delivered := Moment.delivered_eq_nil ⟨engine, .answerPost refusal⟩ (by simp [Input.kinds])
  cases place : engine.bringUp with
  | submitting work =>
      cases refusal with
      | none =>
          refine .of_quiet ?_ rfl rfl reposted delivered rfl rfl
          rw [Moment.after_answerPost, Engine.answerPost, place]
          exact .postTaken place
      | some refusal =>
          refine ⟨.refused work.handle, ?_, Tells.of_silent (by simp) rfl rfl reposted delivered rfl
            (by simp) (by simp [Moment.refused?, Event.refused?, place]) (by simp)⟩
          rw [Moment.after_answerPost, Engine.answerPost, place]
          exact .postRefused place
  | idle | posting index | failing failure =>
      have ignored : engine.answerPost refusal = (engine, []) := by
        simp [Engine.answerPost, place]
      refine .of_unchanged (Or.inl rfl) ?_ rfl rfl reposted delivered rfl ?_
      · rw [Moment.after_answerPost, ignored]
        rfl
      · cases refusal <;> simp [Moment.refused?, place]

/-! ### Completions -/

/-- A transfer whose turn it is, is filed. -/
theorem completeReceive_of_expects {transfer : Transfer Buffer}
    (expected : engine.receive.Expects transfer.handle) :
    (engine.completeReceive transfer).1 = (engine.fileReceive transfer).1 := by
  obtain ⟨complete, room, turn⟩ := expected
  simp [Engine.completeReceive, complete, room, turn]

/-- Filing publishes the slot. -/
theorem receive_fileReceive {transfer : Transfer Buffer} (room : engine.receive.isFull = false) :
    (engine.fileReceive transfer).1.receive = engine.receive.file transfer := by
  simp [Engine.fileReceive, Ring.publish_file transfer room]

/-- A transfer whose turn it is not changes nothing but a buffer. -/
theorem reception_completeReceive {transfer : Transfer Buffer}
    (unexpected : ¬ engine.receive.Expects transfer.handle) :
    engine.receive.isComplete = false ∧
        (engine.completeReceive transfer).1.reception = engine.reception ∨
      engine.receive.isComplete = true ∧
        (engine.completeReceive transfer).1.reception =
          (engine.putBackByHandle transfer.handle transfer.content).reception := by
  cases complete : engine.receive.isComplete with
  | false =>
      left
      refine ⟨rfl, ?_⟩
      simp [Engine.completeReceive, complete]
  | true =>
      right
      refine ⟨rfl, ?_⟩
      have dismissed : ∃ anomaly line, (engine.completeReceive transfer).1 =
          (engine.dismissReceive transfer anomaly line).1 := by
        cases room : engine.receive.isFull with
        | true =>
            refine ⟨.receiveRingFull, .receiveRingFull transfer.handle, ?_⟩
            simp only [Engine.completeReceive, complete, room, Bool.not_true, Bool.false_eq_true,
              if_false, if_true]
        | false =>
            have other : engine.receive.producer?.map (·.handle) ≠ some transfer.handle :=
              fun turn => unexpected ⟨complete, room, turn⟩
            refine ⟨.receiveMismatch, .receiveUnexpected transfer.handle
              (engine.receive.producer?.map (·.handle)), ?_⟩
            simp only [Engine.completeReceive, complete, room, Bool.not_true, Bool.false_eq_true,
              if_false, if_neg other]
      obtain ⟨anomaly, line, same⟩ := dismissed
      rw [same]
      simp only [Engine.dismissReceive, Engine.putBackByHandle, Engine.reportOnce]
      split <;> rfl

theorem advances_completeReceive (transfer : Transfer Buffer) :
    Advances ⟨engine, .completeReceive transfer⟩ := by
  have reposted := Moment.reposted_eq_nil ⟨engine, .completeReceive transfer⟩
    (by simp [Input.kinds])
  have delivered := Moment.delivered_eq_nil ⟨engine, .completeReceive transfer⟩
    (by simp [Input.kinds])
  by_cases expected : engine.receive.Expects transfer.handle
  · have same := completeReceive_of_expects engine expected
    have ring : (engine.fileReceive transfer).1.receive = engine.receive.file transfer :=
      receive_fileReceive engine expected.2.1
    refine ⟨.filed transfer, ?_, rfl, ?_, rfl, reposted, delivered, ?_, by simp, rfl, by simp⟩
    · rw [Moment.after_completeReceive, same]
      have whole : (engine.fileReceive transfer).1.reception =
          { engine.reception with
            ring := engine.reception.ring.file transfer
            deferred := engine.reception.deferred.schedule.2 } := by
        simp only [Engine.reception, ring]
        rfl
      exact whole ▸ .filed expected
    · have grown : (engine.completeReceive transfer).1.receiveOccupancy =
          engine.receiveOccupancy + 1 := by
        rw [same, Engine.receiveOccupancy, ring]
        rfl
      simp [Moment.filed?, grown, Moment.ended?, Event.filed?]
    · simp [Moment.comesUp]
  · have occupancy : (engine.completeReceive transfer).1.receiveOccupancy =
        engine.receiveOccupancy := by
      rcases reception_completeReceive engine expected with ⟨-, same⟩ | ⟨-, same⟩
      · exact congrArg (fun reception => reception.ring.used) same
      · refine (congrArg (fun reception => reception.ring.used) same).trans ?_
        simp only [Engine.putBackByHandle, Engine.reception]
        split <;> rfl
    have tells : (Event.dismissed transfer).Tells ⟨engine, .completeReceive transfer⟩ := by
      refine ⟨rfl, ?_, rfl, reposted, delivered, ?_, by simp, rfl, by simp⟩
      · simp [Moment.filed?, occupancy, Event.filed?]
      · simp [Moment.comesUp]
    refine ⟨_, ?_, tells⟩
    rw [Moment.after_completeReceive]
    rcases reception_completeReceive engine expected with ⟨incomplete, same⟩ | ⟨complete, same⟩
    · rw [same]
      refine .dismissed expected fun complete => ?_
      have complete : engine.receive.isComplete = true := complete
      rw [incomplete] at complete
      contradiction
    · rw [same]
      cases owner : engine.receive.position? fun slot => slot.handle == transfer.handle with
      | none =>
          simp only [Engine.putBackByHandle, owner]
          exact .dismissed expected fun _ => owner
      | some index =>
          simp only [Engine.putBackByHandle, owner]
          exact .dismissedTo expected complete owner

/-! ### The pass -/

theorem advances_startPass : Advances ⟨engine, .startPass⟩ := by
  have reposted := Moment.reposted_eq_nil ⟨engine, .startPass⟩ (by simp [Input.kinds])
  have delivered := Moment.delivered_eq_nil ⟨engine, .startPass⟩ (by simp [Input.kinds])
  cases entered : engine.deferred.enter? with
  | none =>
      refine .of_unchanged (Or.inl rfl) ?_ rfl rfl reposted delivered rfl rfl
      rw [Moment.after_startPass, Engine.startPass, entered]
      rfl
  | some deferred =>
      refine ⟨.passStarted, ?_, Tells.of_silent (by simp) rfl rfl reposted delivered rfl
        (fun _ => rfl) rfl (by simp)⟩
      rw [Moment.after_startPass, Engine.startPass, entered]
      exact .passStarted entered

theorem step_popReceive (popping : engine.pass = .popping) :
    Step engine.reception .quiet engine.popReceive.reception := by
  unfold Engine.popReceive
  split
  next empty => exact .nothingLeft popping empty
  next index ring retired =>
    split
    next missing => exact .slotLost popping retired missing
    next slot found =>
      split
      next vacant => exact .slotSkipped popping retired found vacant
      next buffer held =>
        cases readable : slot.status.isOk && engine.device.accepts with
        | true =>
            rw [Bool.and_eq_true] at readable
            exact .opened popping retired found held readable.1 readable.2
        | false =>
            refine .setAside popping retired found held ?_
            intro succeeded
            rw [succeeded, Bool.true_and] at readable
            exact readable

/-- What a walk does to reception, and what it hands up. -/
theorem step_walkReceive (memory : Memory) {work : Work} {walker : Walker}
    (walking : engine.pass = .walking work walker) :
    ∃ event, Step engine.reception event (engine.walkReceive memory work walker).1.reception ∧
      event.asked? = (Moment.mk engine (.proceedPass memory)).asked? ∧
      (engine.walkReceive memory work walker).2.filterMap Effect.delivered? =
        (event.asked?.bind fun request => request.1.delivery? request.2).toList ∧
      (event = .quiet ∨ ∃ segment, event = .asked segment memory) := by
  have silent : ∀ effects : List Effect, (∀ effect ∈ effects, effect.kind = .log) →
      effects.filterMap Effect.delivered? = [] := fun _ =>
    Effect.watches_delivered?.filterMap_logs (by decide)
  unfold Engine.walkReceive
  split
  next next found =>
    refine ⟨.quiet, .walked walking (by simp [found]), ?_, ?_, Or.inl rfl⟩
    · simp [Event.asked?, Moment.asked?, walking, found]
    · exact silent _ (engine.kind_endWalk _ _)
  next defect next found =>
    refine ⟨.quiet, .walked walking (by simp [found]), ?_, ?_, Or.inl rfl⟩
    · simp [Event.asked?, Moment.asked?, walking, found]
    · rw [List.filterMap_append, silent _ (Engine.kind_reportOnce _ _ _),
        silent _ (Engine.kind_endWalk _ _ _)]
      rfl
  next segment next found =>
    have front : walker.next.1 = some (.ok segment) := by rw [found]
    have back : walker.next.2 = next := by rw [found]
    subst back
    unfold Engine.takeSegment
    split
    next rejection rejected =>
      refine ⟨.quiet, .rejected walking front (by simp [rejected]), ?_, ?_, Or.inl rfl⟩
      · simp [Event.asked?, Moment.asked?, walking, front, rejected]
      · exact silent _ (Engine.kind_reportOnce _ _ _)
    next sound =>
      have asked : (Moment.mk engine (.proceedPass memory)).asked? = some (segment, memory) := by
        simp [Moment.asked?, walking, front, sound]
      split
      next failure refused =>
        have lost : segment.delivery? memory = none := by
          simp [Segment.delivery?, sound, refused]
        refine ⟨.asked segment memory, .dropped walking front sound lost, asked.symm, ?_,
          Or.inr ⟨segment, rfl⟩⟩
        simp [Event.asked?, lost]
      next frame copied =>
        have given : segment.delivery? memory = some (frame, segment.descriptor) := by
          simp [Segment.delivery?, sound, copied]
        refine ⟨.asked segment memory, .handedUp walking front sound given, asked.symm, ?_,
          Or.inr ⟨segment, rfl⟩⟩
        simp [Event.asked?, given, Effect.delivered?]

/-- What a step of the pass shows. -/
theorem shown_proceedPass {memory : Memory} {step : Engine × List Effect}
    (proceeds : engine.proceedPass? memory = some step) :
    (Moment.mk engine (.proceedPass memory)).after = step.1 ∧
      (Moment.mk engine (.proceedPass memory)).reposted = step.2.filterMap Effect.reposted? ∧
      (Moment.mk engine (.proceedPass memory)).delivered =
        step.2.filterMap Effect.delivered? := by
  rw [Moment.reposted, Moment.delivered, Moment.after_proceedPass, Moment.effects_proceedPass,
    proceeds]
  exact ⟨rfl, rfl, rfl⟩

theorem advances_proceedPass (memory : Memory) : Advances ⟨engine, .proceedPass memory⟩ := by
  have comesUp : (Moment.mk engine (.proceedPass memory)).comesUp = false := by
    simp [Moment.comesUp]
  cases place : engine.pass with
  | idle | delivering work walker | submitting work =>
      have stuck : engine.proceedPass? memory = none := by
        simp [Engine.proceedPass?, place]
      refine .of_unchanged (Or.inl rfl) ?_ rfl (by simp [Moment.asked?, place]) ?_ ?_ comesUp rfl
      · rw [Moment.after_proceedPass, stuck]
        rfl
      · rw [Moment.reposted, Moment.effects_proceedPass, stuck]
        rfl
      · rw [Moment.delivered, Moment.effects_proceedPass, stuck]
        rfl
  | popping =>
      have proceeds : engine.proceedPass? memory = some (engine.popReceive, []) := by
        simp [Engine.proceedPass?, place]
      obtain ⟨after, reposted, delivered⟩ := shown_proceedPass engine proceeds
      refine .of_quiet ?_ rfl (by simp [Moment.asked?, place]) reposted delivered comesUp rfl
      rw [after]
      exact step_popReceive engine place
  | walking work walker =>
      have proceeds : engine.proceedPass? memory =
          some (engine.walkReceive memory work walker) := by
        simp [Engine.proceedPass?, place]
      obtain ⟨after, reposted, shown⟩ := shown_proceedPass engine proceeds
      obtain ⟨event, step, asked, delivered, calm⟩ := step_walkReceive engine memory place
      have nothing : (Moment.mk engine (.proceedPass memory)).reposted = [] := by
        rw [reposted]
        apply Effect.watches_reposted?.filterMap_eq_nil
        intro effect member kind
        simpa [kind] using engine.kind_walkReceive memory work walker effect member
      refine ⟨event, ?_, ?_, ?_, asked.symm, ?_, ?_, ?_, ?_, ?_, ?_⟩
      · rw [after]
        exact step
      · rcases calm with rfl | ⟨segment, rfl⟩ <;> rfl
      · rcases calm with rfl | ⟨segment, rfl⟩ <;>
          simp [Moment.filed?, Moment.ended?, Event.filed?]
      · rw [nothing]
        rcases calm with rfl | ⟨segment, rfl⟩ <;> rfl
      · rw [shown]
        exact delivered
      · rcases calm with rfl | ⟨segment, rfl⟩ <;> simp [comesUp]
      · rcases calm with rfl | ⟨segment, rfl⟩ <;> simp
      · rcases calm with rfl | ⟨segment, rfl⟩ <;> rfl
      · rcases calm with rfl | ⟨segment, rfl⟩ <;> simp
  | returning work =>
      have asked : (Moment.mk engine (.proceedPass memory)).asked? = none := by
        simp [Moment.asked?, place]
      cases accepts : engine.device.accepts with
      | true =>
          have proceeds : engine.proceedPass? memory = some
              ({ engine with pass := .submitting work },
                [.submitReceive engine.config.inEndpoint (.bind work.handle work.buffer)]) := by
            simp [Engine.proceedPass?, place, Engine.returnReceive, accepts]
          obtain ⟨after, reposted, delivered⟩ := shown_proceedPass engine proceeds
          refine ⟨.submitted work.handle, ?_, rfl, ?_, asked, reposted, delivered,
            by simp [comesUp], by simp, rfl, by simp⟩
          · rw [after]
            exact .givenBack place accepts
          · simp [Moment.filed?, Moment.ended?, Event.filed?]
      | false =>
          have proceeds : engine.proceedPass? memory = some
              ({ engine with pass := .popping }.putBackAt work.index work.buffer, []) := by
            simp [Engine.proceedPass?, place, Engine.returnReceive, accepts]
          obtain ⟨after, reposted, delivered⟩ := shown_proceedPass engine proceeds
          refine .of_quiet ?_ rfl asked reposted delivered comesUp rfl
          rw [after]
          exact .kept place accepts

theorem advances_answerDelivery (accepted : Bool) :
    Advances ⟨engine, .answerDelivery accepted⟩ := by
  have reposted := Moment.reposted_eq_nil ⟨engine, .answerDelivery accepted⟩ (by simp [Input.kinds])
  have delivered := Moment.delivered_eq_nil ⟨engine, .answerDelivery accepted⟩
    (by simp [Input.kinds])
  cases place : engine.pass with
  | delivering work walker =>
      refine .of_quiet ?_ rfl rfl reposted delivered rfl rfl
      rw [Moment.after_answerDelivery, Engine.answerDelivery, place]
      exact .judged place
  | idle | popping | walking work walker | returning work | submitting work =>
      have ignored : engine.answerDelivery accepted = engine := by
        simp [Engine.answerDelivery, place]
      refine .of_unchanged (Or.inl rfl) ?_ rfl rfl reposted delivered rfl rfl
      rw [Moment.after_answerDelivery, ignored]
      rfl

theorem advances_answerRepost (refusal : Option Refusal) :
    Advances ⟨engine, .answerRepost refusal⟩ := by
  have reposted := Moment.reposted_eq_nil ⟨engine, .answerRepost refusal⟩ (by simp [Input.kinds])
  have delivered := Moment.delivered_eq_nil ⟨engine, .answerRepost refusal⟩ (by simp [Input.kinds])
  cases place : engine.pass with
  | submitting work =>
      cases refusal with
      | none =>
          refine .of_quiet ?_ rfl rfl reposted delivered rfl rfl
          rw [Moment.after_answerRepost, Engine.answerRepost, place]
          exact .taken place
      | some refusal =>
          have follows := engine.device.follows_refusal refusal
          refine ⟨.refused work.handle, ?_, Tells.of_silent (by simp) rfl rfl reposted delivered rfl
            (by simp) (by simp [Moment.refused?, Event.refused?, place]) (by simp)⟩
          rw [Moment.after_answerRepost, Engine.answerRepost, place]
          exact .refused place follows
  | idle | popping | walking work walker | delivering work walker | returning work =>
      have ignored : engine.answerRepost refusal = (engine, []) := by
        simp [Engine.answerRepost, place]
      refine .of_unchanged (Or.inl rfl) ?_ rfl rfl reposted delivered rfl ?_
      · rw [Moment.after_answerRepost, ignored]
        rfl
      · cases refusal <;> simp [Moment.refused?, place]

/-! ### Transmission -/

theorem reception_enqueue (memory : Memory) (answer : Transfer Outgoing → Option Refusal)
    (frame : Outgoing) (key queue : UInt8) :
    ∃ stage, engine.device.stage.Follows stage ∧
      (engine.enqueue memory answer frame key queue).1.reception =
        { engine.reception with stage := stage } := by
  have move := engine.sendMove_enqueue memory answer frame key queue
  generalize engine.enqueue memory answer frame key queue = step at move ⊢
  cases move with
  | turnedDown | overflowed => exact ⟨_, Or.inl rfl, rfl⟩
  | refused =>
      simp only [Engine.refuseTransmit]
      split
      · exact ⟨_, engine.device.follows_noteRemoval, rfl⟩
      · exact ⟨_, Or.inl rfl, rfl⟩
  | taken =>
      refine ⟨_, Or.inl rfl, ?_⟩
      simp only [Engine.enterTransmit]
      split <;> rfl

theorem reception_acceptTransmit (lane : Lane) (transfer : Transfer Outgoing) :
    (engine.acceptTransmit lane transfer).1.reception = engine.reception := by
  unfold Engine.acceptTransmit
  simp only
  split <;> rfl

theorem reception_completeTransmit (address : UInt8) (transfer : Transfer Outgoing) :
    (engine.completeTransmit address transfer).1.reception = engine.reception := by
  unfold Engine.completeTransmit
  simp only
  split
  · rfl
  · split
    · rfl
    · split
      · exact reception_acceptTransmit engine _ _
      · rfl

theorem advances_enqueue (memory : Memory) (answer : Transfer Outgoing → Option Refusal)
    (frame : Outgoing) (key queue : UInt8) :
    Advances ⟨engine, .enqueue memory answer frame key queue⟩ := by
  obtain ⟨stage, follows, same⟩ := reception_enqueue engine memory answer frame key queue
  exact .of_unchanged follows same rfl rfl (Moment.reposted_eq_nil _ (by simp [Input.kinds]))
    (Moment.delivered_eq_nil _ (by simp [Input.kinds])) rfl rfl

theorem advances_completeTransmit (address : UInt8) (transfer : Transfer Outgoing) :
    Advances ⟨engine, .completeTransmit address transfer⟩ :=
  .of_unchanged (Or.inl rfl) (reception_completeTransmit engine address transfer) rfl rfl
    (Moment.reposted_eq_nil _ (by simp [Input.kinds]))
    (Moment.delivered_eq_nil _ (by simp [Input.kinds])) rfl rfl

theorem advances_finishStatistics : Advances ⟨engine, .finishStatistics⟩ := by
  refine .of_unchanged (Or.inl rfl) ?_ rfl rfl
    (Moment.reposted_eq_nil _ (by simp [Input.kinds]))
    (Moment.delivered_eq_nil _ (by simp [Input.kinds])) rfl rfl
  rw [Moment.after_finishStatistics, Engine.finishStatistics]
  simp only
  split <;> rfl

/-! ### Tearing down -/

theorem advances_beginTeardown : Advances ⟨engine, .beginTeardown⟩ := by
  refine ⟨.closed, .closed, Tells.of_silent (by simp) rfl rfl
    (Moment.reposted_eq_nil _ (by simp [Input.kinds]))
    (Moment.delivered_eq_nil _ (by simp [Input.kinds])) rfl (by simp) rfl fun _ => rfl⟩

theorem advances_finishTeardown : Advances ⟨engine, .finishTeardown⟩ := by
  have reposted := Moment.reposted_eq_nil ⟨engine, .finishTeardown⟩ (by simp [Input.kinds])
  have delivered := Moment.delivered_eq_nil ⟨engine, .finishTeardown⟩ (by simp [Input.kinds])
  cases finish : engine.finishTeardown? with
  | none =>
      refine .of_unchanged (Or.inl rfl) ?_ rfl rfl reposted delivered rfl rfl
      rw [Moment.after_finishTeardown, finish]
      rfl
  | some finished =>
      refine ⟨.drained, ?_, Tells.of_silent (by simp) rfl rfl reposted delivered rfl
        (by simp) rfl (by simp)⟩
      rw [Moment.after_finishTeardown, finish]
      obtain ⟨begun, quiet, rfl⟩ := Engine.finishTeardown?_eq_some finish
      exact .drained begun quiet (Or.inl rfl)

end Reception

/-- Every moment of an engine is a step of reception, and its event tells what
can be observed. -/
theorem Moment.reception_step (moment : Moment) : Reception.Advances moment := by
  obtain ⟨engine, input⟩ := moment
  cases input with
  | startBringUp supply => exact Reception.advances_startBringUp engine supply
  | proceedBringUp => exact Reception.advances_proceedBringUp engine
  | answerPost refusal => exact Reception.advances_answerPost engine refusal
  | completeReceive transfer => exact Reception.advances_completeReceive engine transfer
  | startPass => exact Reception.advances_startPass engine
  | proceedPass memory => exact Reception.advances_proceedPass engine memory
  | answerDelivery accepted => exact Reception.advances_answerDelivery engine accepted
  | answerRepost refusal => exact Reception.advances_answerRepost engine refusal
  | enqueue memory answer frame key queue =>
      exact Reception.advances_enqueue engine memory answer frame key queue
  | completeTransmit address transfer =>
      exact Reception.advances_completeTransmit engine address transfer
  | finishStatistics => exact Reception.advances_finishStatistics engine
  | beginTeardown => exact Reception.advances_beginTeardown engine
  | finishTeardown => exact Reception.advances_finishTeardown engine

end WlanDatapath
