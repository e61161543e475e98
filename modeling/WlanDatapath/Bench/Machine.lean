import WlanDatapath.Bench.Surroundings
import WlanDatapath.Engine.Step

/-!
# Running a bench

The bench keeps an agenda of tasks, the next one first.  An operation puts the
rest of its work on the agenda; an act of the engine that triggers hooks puts
their operations in front of the answer that the engine awaits.  So operations
nest to any depth, and one step of the bench is a plain function.

A teardown that somebody else makes during a pass waits for it.  It is finished as
soon as the operation that ran the pass is over, before the call in which that
operation was made goes on.

The engine is reached through `Engine.step` alone, so whatever a bench does to it
is a run.
-/

namespace WlanDatapath.Bench

/-- Something still to be done. -/
inductive Task where
  /-- Perform an operation, which may be nested in a call of the engine. -/
  | perform (operation : Operation) (nested : Bool)
  /-- Record that a hook begins. -/
  | announce (occasion : Occasion) (call : Nat)
  /-- Give the engine an answer that it awaits. -/
  | feed (input : Input)
  /-- Go on with an activity of the engine until it is over, then end the
  operation that began it. -/
  | drive (input : Input) (whenIdle : Answer) (nested : Bool)
  /-- End an operation with an answer. -/
  | conclude (answer : Answer) (nested : Bool)

/-- An engine in its surroundings, with what is still to be done. -/
structure Machine where
  /-- The engine. -/
  engine : Engine
  /-- Its surroundings. -/
  surroundings : Surroundings
  /-- The memory limit for later operations. -/
  memoryLimit : Option Nat := none
  /-- What is still to be done, the next task first. -/
  agenda : List Task := []
  /-- The answer of the last operation that was not nested. -/
  answer : Answer := .nothing

namespace Machine

/-! ## Acts of the engine -/

/-- The tasks that hooks put on the agenda. -/
def hookTasks (occasion : Occasion) (call : Nat) (hooks : List Hook) : List Task :=
  hooks.flatMap fun hook =>
    .announce occasion call :: hook.operations.map fun operation => .perform operation true

/-- The tasks that give the engine the answer it awaits after an act.  A
submitted buffer is a post while the device is being brought up, and given back
otherwise. -/
def replyTasks (surroundings : Surroundings) (posting : Bool) : Effect → List Task
  | .deliver frame _ => [.feed (.answerDelivery (surroundings.accepts frame))]
  | .submitReceive _ transfer =>
      let refusal := surroundings.answerReceive transfer
      [.feed (if posting then .answerPost refusal else .answerRepost refusal)]
  | _ => []

/-- Let an act of the engine happen.  The answer is what it puts on the agenda. -/
def absorb (surroundings : Surroundings) (posting : Bool) (effect : Effect) :
    Surroundings × List Task :=
  let replies := replyTasks surroundings posting effect
  let after := surroundings.absorb effect
  match Surroundings.occasion? effect with
  | none => (after, replies)
  | some occasion =>
      let noted := after.note occasion
      (noted.1, hookTasks occasion noted.2.1 noted.2.2 ++ replies)

/-- Let acts of the engine happen in order. -/
def absorbAll (surroundings : Surroundings) (posting : Bool) :
    List Effect → Surroundings × List Task
  | [] => (surroundings, [])
  | effect :: later =>
      let first := absorb surroundings posting effect
      let rest := absorbAll first.1 posting later
      (rest.1, first.2 ++ rest.2)

/-- Give the engine an input, let its acts happen, and put what they entail on
the agenda in front of the tasks that its reply leads to. -/
def feed (machine : Machine) (input : Input) (further : Reply → List Task) : Machine :=
  let step := machine.engine.step input
  let posting := match input with
    | .proceedBringUp => true
    | _ => false
  let absorbed := absorbAll machine.surroundings posting step.2.1
  { machine with
    engine := step.1
    surroundings := absorbed.1
    agenda := absorbed.2 ++ further step.2.2 ++ machine.agenda }

/-! ## Operations -/

/-- Write octets to a buffer and end its transfer. -/
def fill (transfer : Transfer Buffer) (octets : Octets) (length : Option Nat)
    (status : Status) : Transfer Buffer :=
  let written := { transfer with content := transfer.content.write octets }
  written.complete status (length.getD (min transfer.content.capacity octets.length))

/-- The memory for an operation that begins now. -/
def memory (machine : Machine) : Memory :=
  Memory.bounded machine.memoryLimit

/-- What the engine can acquire. -/
def supply (machine : Machine) : Supply where
  handles := machine.surroundings.nextHandles acquisitions.length
  grants
    | .receiveSlot _ => machine.memory machine.engine.config.bufferSize
    | .transmitStorage _ | .transmitHandle _ | .receiveStorage => true

/-- Perform an operation. -/
def perform (machine : Machine) (operation : Operation) (nested : Bool) : Machine :=
  let surroundings := machine.surroundings
  let conclude (answer : Answer) (machine : Machine) : Machine :=
    { machine with agenda := .conclude answer nested :: machine.agenda }
  let call (input : Input) (answer : Answer) (machine : Machine) : Machine :=
    machine.feed input fun _ => [.conclude answer nested]
  match operation with
  | .bringUp =>
      machine.feed (.startBringUp machine.supply) fun
        | .over result => [.conclude (.result result) nested]
        | _ => [.drive .proceedBringUp .nothing nested]
  | .tearDown | .tearDownMeanwhile =>
      machine.feed .beginTeardown fun _ =>
        [.feed .finishTeardown, .conclude .nothing nested]
  | .runPass =>
      machine.feed .startPass fun
        | .started true => [.drive (.proceedPass machine.memory) (.flag true) nested]
        | _ => [.conclude (.flag false) nested]
  | .finishStatistics => machine |> call .finishStatistics .nothing
  | .config => machine |> conclude (.config machine.engine.config)
  | .occupancy index =>
      machine |> conclude (.number (machine.engine.transmitOccupancy? index))
  | .receive nth octets length status =>
      match surroundings.receiving[nth]? with
      | none => machine |> conclude .noneInFlight
      | some transfer =>
          { machine with surroundings := surroundings.releaseReceive nth } |>
            call (.completeReceive (fill transfer octets length status))
              (.handle transfer.handle)
  | .loseReceive nth =>
      match surroundings.receiving[nth]? with
      | none => machine |> conclude .noneInFlight
      | some transfer =>
          { machine with surroundings := surroundings.releaseReceive nth } |>
            conclude (.handle transfer.handle)
  | .forgeReceive handle size octets length status =>
      machine |> call
        (.completeReceive (fill (.bind handle (.zeroed size)) octets length status)) .nothing
  | .send octets queue key hardwareQueue =>
      let input := Input.enqueue machine.memory surroundings.answerTransmit
        (.bare octets queue) key hardwareQueue
      machine.feed input fun
        | .over result => [.conclude (.result result) nested]
        | _ => [.conclude .nothing nested]
  | .sent nth status endpoint =>
      match surroundings.sending[nth]? with
      | none => machine |> conclude .noneInFlight
      | some (submittedOn, transfer) =>
          { machine with surroundings := surroundings.releaseTransmit nth } |>
            call (.completeTransmit (endpoint.getD submittedOn) (transfer.complete status 0))
              (.handle transfer.handle)
  | .forgeSent endpoint handle octets queue wrapped status =>
      let bare := Outgoing.bare octets queue
      let frame :=
        if wrapped then bare.wrapWith .distributed HeaderWord.nativeFrame else bare
      machine |> call
        (.completeTransmit endpoint ((Transfer.bind handle frame).complete status 0)) .nothing
  | .refuseReceive refusal =>
      { machine with surroundings := { surroundings with receiveGate := refusal } } |>
        conclude .nothing
  | .refuseTransmit refusal =>
      { machine with surroundings := { surroundings with transmitGate := refusal } } |>
        conclude .nothing
  | .reject firstOctets =>
      { machine with surroundings := { surroundings with rejected := firstOctets } } |>
        conclude .nothing
  | .limitMemory limit => { machine with memoryLimit := limit } |> conclude .nothing

/-! ## Steps -/

/-- The tasks that finish the teardowns which have waited for a pass. -/
def waitingTeardowns (machine : Machine) : List Task :=
  List.replicate machine.engine.teardowns (.feed .finishTeardown)

/-- Do the next task, if there is one. -/
def step? (machine : Machine) : Option Machine :=
  match machine.agenda with
  | [] => none
  | task :: later =>
      let rest := { machine with agenda := later }
      some <|
        match task with
        | .perform operation nested => rest.perform operation nested
        | .announce occasion call =>
            { rest with surroundings := rest.surroundings.see (.hook occasion call) }
        | .feed input => rest.feed input fun _ => []
        | .drive input whenIdle nested =>
            rest.feed input fun
              | .over result => [.conclude (.result result) nested]
              | .inapplicable => .conclude whenIdle nested :: rest.waitingTeardowns
              | .done | .started _ => [task]
        | .conclude answer true =>
            { rest with surroundings := rest.surroundings.see (.answered answer) }
        | .conclude answer false => { rest with answer := answer }

/-- Do tasks until there are none left, at most as many as `bound`. -/
def settle (machine : Machine) : Nat → Machine
  | 0 => machine
  | bound + 1 =>
      match machine.step? with
      | some next => next.settle bound
      | none => machine

end Machine

end WlanDatapath.Bench
