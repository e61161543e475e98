import WlanDatapath.Engine.Teardown

/-!
# Bringing the device up

Bringing up first acquires everything the rings need, in a fixed order: storage
and handles of the output endpoints, then storage, buffers and handles for
reception.  Then the device runs, and each receive buffer is posted in slot order.
The transport answers each post before the next one, and completions may arrive
in between.

It is all or nothing: the first acquisition or post that fails starts a teardown,
and the failure is the answer once that teardown is finished.
-/

namespace WlanDatapath

/-! ## What is acquired -/

/-- One thing to acquire before the device runs. -/
inductive Acquisition where
  /-- Storage for the ring of an output endpoint. -/
  | transmitStorage (lane : Lane)
  /-- A handle for the next slot of an output endpoint. -/
  | transmitHandle (lane : Lane)
  /-- Storage for the receive ring. -/
  | receiveStorage
  /-- A buffer and then a handle for a receive slot. -/
  | receiveSlot (index : Nat)
deriving DecidableEq, Repr

/-- Everything that is acquired, in order. -/
def acquisitions : List Acquisition :=
  ((List.finRange laneCount).flatMap fun lane =>
    .transmitStorage lane :: List.replicate transmitSlots (.transmitHandle lane)) ++
      .receiveStorage :: (List.range receiveSlots).map .receiveSlot

/-- What can be acquired: the handles that the transport will issue, and whether
there is memory for each acquisition that needs some. -/
structure Supply where
  /-- The handles still to be issued, in order. -/
  handles : List Handle
  /-- Whether the memory for an acquisition is granted. -/
  grants : Acquisition → Bool

namespace Engine

/-- Put a handle into the next slot of an output endpoint.  A handle without a
slot is given back. -/
def addTransmitSlot (engine : Engine) (lane : Lane) (handle : Handle) :
    Except (Failure × List Effect) Engine :=
  match (engine.transmit.get lane).push handle with
  | .ok ring => .ok { engine with transmit := engine.transmit.set lane ring lane.isLt }
  | .error failure => .error (failure, [.free handle])

/-- Put a handle with its buffer into the next receive slot.  A handle without a
slot is given back. -/
def addReceiveSlot (engine : Engine) (handle : Handle) (buffer : Buffer) :
    Except (Failure × List Effect) Engine :=
  match engine.receive.push { handle := handle, buffer := some buffer } with
  | .ok ring => .ok { engine with receive := ring }
  | .error failure => .error (failure, [.free handle])

/-- Acquire a list of things in order, up to the first that fails. -/
def acquire (engine : Engine) (supply : Supply) :
    List Acquisition → Engine × List Effect × Option Failure
  | [] => (engine, [], none)
  | needed :: later =>
      match needed with
      | .transmitStorage _ | .receiveStorage =>
          if supply.grants needed then engine.acquire supply later
          else (engine, [], some .outOfMemory)
      | .transmitHandle lane =>
          match supply.handles with
          | [] => (engine, [.allocate none], some .outOfMemory)
          | handle :: handles =>
              match engine.addTransmitSlot lane handle with
              | .ok next =>
                  let rest := next.acquire { supply with handles := handles } later
                  (rest.1, .allocate (some handle) :: rest.2.1, rest.2.2)
              | .error (failure, released) =>
                  (engine, .allocate (some handle) :: released, some failure)
      | .receiveSlot _ =>
          if supply.grants needed then
            match supply.handles with
            | [] => (engine, [.allocate none], some .outOfMemory)
            | handle :: handles =>
                match engine.addReceiveSlot handle (Buffer.zeroed engine.config.bufferSize) with
                | .ok next =>
                    let rest := next.acquire { supply with handles := handles } later
                    (rest.1, .allocate (some handle) :: rest.2.1, rest.2.2)
                | .error (failure, released) =>
                    (engine, .allocate (some handle) :: released, some failure)
          else (engine, [], some .outOfMemory)

/-! ## Steps -/

/-- What a step of bringing up leads to: the engine, its acts, and the answer if
bringing up is over. -/
abbrev BringUpStep := Engine × List Effect × Option (Except Failure Unit)

/-- Give up bringing the device up. -/
def abandon (engine : Engine) (failure : Failure) : Engine × List Effect :=
  let begun := engine.beginTeardown
  ({ begun.1 with bringUp := .failing failure }, .log (.bringUpFailed failure) :: begun.2)

/-- Begin to bring a device up that was just created. -/
def startBringUp (engine : Engine) (supply : Supply) : BringUpStep :=
  if engine.device.stage ≠ .created then (engine, [], some (.error .notReady))
  else
    match engine.acquire supply acquisitions with
    | (acquired, effects, some failure) =>
        let abandoned := acquired.abandon failure
        (abandoned.1, effects ++ abandoned.2, none)
    | (acquired, effects, none) =>
        ({ acquired with device := acquired.device.start.2, bringUp := .posting 0 },
          effects, none)

/-- Go on with bringing up as far as the next answer that is awaited.  There is
nothing to do while an answer is awaited, or while a teardown waits for a pass. -/
def proceedBringUp? (engine : Engine) : Option BringUpStep :=
  match engine.bringUp with
  | .idle | .submitting _ => none
  | .posting index =>
      if receiveSlots ≤ index then
        some ({ engine with bringUp := .idle },
          [.log (.up engine.config.bufferSize engine.config.inEndpoint)], some (.ok ()))
      else
        match engine.receive.slots[index]? with
        | none =>
            let abandoned := engine.abandon .notReady
            some (abandoned.1, abandoned.2, none)
        | some slot =>
            match slot.buffer with
            | none => some ({ engine with bringUp := .posting (index + 1) }, [], none)
            | some buffer =>
                some (
                  { engine with
                    receive := engine.receive.modify index ReceiveSlot.vacate
                    bringUp := .submitting ⟨index, slot.handle, buffer⟩ },
                  [.submitReceive engine.config.inEndpoint (.bind slot.handle buffer)], none)
  | .failing failure =>
      engine.finishTeardown?.map fun finished =>
        ({ finished.1 with bringUp := .idle }, finished.2, some (.error failure))

/-- What bringing up does next. -/
inductive BringUpMove (engine : Engine) : BringUpStep → Prop where
  | posts {index : Nat} {slot : ReceiveSlot} {buffer : Buffer}
      (posting : engine.bringUp = .posting index) (below : index < receiveSlots)
      (found : engine.receive.slots[index]? = some slot) (held : slot.buffer = some buffer) :
      BringUpMove engine
        ({ engine with
            receive := engine.receive.modify index ReceiveSlot.vacate
            bringUp := .submitting ⟨index, slot.handle, buffer⟩ },
          [.submitReceive engine.config.inEndpoint (.bind slot.handle buffer)], none)
  | passes {index : Nat} {slot : ReceiveSlot} (posting : engine.bringUp = .posting index)
      (below : index < receiveSlots) (found : engine.receive.slots[index]? = some slot)
      (vacant : slot.buffer = none) :
      BringUpMove engine ({ engine with bringUp := .posting (index + 1) }, [], none)
  | abandons {index : Nat} (posting : engine.bringUp = .posting index)
      (below : index < receiveSlots) (missing : engine.receive.slots[index]? = none) :
      BringUpMove engine
        ((engine.abandon .notReady).1, (engine.abandon .notReady).2, none)
  | comesUp {index : Nat} (posting : engine.bringUp = .posting index)
      (all : receiveSlots ≤ index) :
      BringUpMove engine
        ({ engine with bringUp := .idle },
          [.log (.up engine.config.bufferSize engine.config.inEndpoint)], some (.ok ()))
  | fails {failure : Failure} {finished : Engine × List Effect}
      (failing : engine.bringUp = .failing failure)
      (finish : engine.finishTeardown? = some finished) :
      BringUpMove engine
        ({ finished.1 with bringUp := .idle }, finished.2, some (.error failure))

theorem bringUpMove_of_proceeds {engine : Engine} {step : BringUpStep}
    (proceeds : engine.proceedBringUp? = some step) : engine.BringUpMove step := by
  unfold proceedBringUp? at proceeds
  split at proceeds
  · contradiction
  · contradiction
  next index posting =>
    split at proceeds
    next all =>
      cases proceeds
      exact .comesUp posting all
    next more =>
      have below : index < receiveSlots := Nat.lt_of_not_le more
      split at proceeds
      next missing =>
        cases proceeds
        exact .abandons posting below missing
      next slot found =>
        split at proceeds
        next vacant =>
          cases proceeds
          exact .passes posting below found vacant
        next buffer held =>
          cases proceeds
          exact .posts posting below found held
  next failure failing =>
    obtain ⟨finished, finish, rfl⟩ := Option.map_eq_some_iff.mp proceeds
    exact .fails failing finish

/-- Take the transport's answer to a post. -/
def answerPost (engine : Engine) (refusal : Option Refusal) : Engine × List Effect :=
  match engine.bringUp with
  | .submitting work =>
      match refusal with
      | none => ({ engine with bringUp := .posting (work.index + 1) }, [])
      | some refusal =>
          let device := if refusal.fatal then engine.device.noteRemoval.2 else engine.device
          let kept := { engine with device := device }.putBackAt work.index work.buffer
          kept.abandon (.ofStatus refusal.status)
  | .idle | .posting _ | .failing _ => (engine, [])

end Engine

end WlanDatapath
