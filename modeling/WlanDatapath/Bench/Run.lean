import WlanDatapath.Bench.Machine

/-!
# Records of a run

Running a script gives one record for each operation that is not nested: its
answer, everything that happened meanwhile, and the state that can be seen
afterwards.
-/

namespace WlanDatapath.Bench

/-- What can be seen of a bench between operations. -/
structure Snapshot where
  /-- The life of the device. -/
  device : Device
  /-- Received buffers that wait for the pass. -/
  receiveOccupancy : Nat
  /-- Transfers in flight on each output endpoint. -/
  transmitOccupancy : List Nat
  /-- Anomalies reported. -/
  reported : Reported
  /-- Receive transfers that the transport holds. -/
  receiving : Nat
  /-- Transmit transfers that the transport holds. -/
  sending : Nat
  /-- Handles issued and not given back. -/
  live : Nat
  /-- Handles given back that were not live. -/
  doubleFrees : Nat
  /-- What was counted. -/
  counters : Counters

/-- The record of one operation. -/
structure Record where
  /-- The answer of the operation. -/
  answer : Answer
  /-- What happened, in order. -/
  events : List Event
  /-- What could be seen afterwards. -/
  after : Snapshot

/-! ## Bounds -/

/-- The octets of the largest buffer that an operation brings in. -/
def Operation.bufferSize : Operation → Nat
  | .forgeReceive _ size _ _ _ => size
  | _ => 0

/-- Every operation that a script can perform, each at most once. -/
def Script.allOperations (script : Script) : List Operation :=
  script.operations ++ script.hooks.flatMap (·.operations)

/-- More steps than any run of the script takes for one operation.  Each
operation is performed once, takes a few steps of its own and adds at most one
buffer to a pass, whose segments take two steps each; bringing up takes a few
steps for each receive slot. -/
def Script.stepBound (script : Script) : Nat :=
  let largest := (script.allOperations.map Operation.bufferSize).foldl max script.config.bufferSize
  (script.allOperations.length + script.hooks.length + 1) * (largest / 8 + 32 * receiveSlots)

namespace Machine

/-- What can be seen of a machine. -/
def snapshot (machine : Machine) : Snapshot where
  device := machine.engine.device
  receiveOccupancy := machine.engine.receiveOccupancy
  transmitOccupancy := machine.engine.transmit.toList.map (·.used)
  reported := machine.engine.reported
  receiving := machine.surroundings.receiving.length
  sending := machine.surroundings.sending.length
  live := machine.surroundings.live.length
  doubleFrees := machine.surroundings.doubleFrees
  counters := machine.engine.counters

/-- Perform one operation to its end and clear the record of events. -/
def runOperation (machine : Machine) (operation : Operation) : Record × Machine :=
  let begun := { machine with agenda := [.perform operation false] }
  let final := begun.settle machine.surroundings.script.stepBound
  (⟨final.answer, final.surroundings.events.reverse, final.snapshot⟩,
    { final with surroundings := { final.surroundings with events := [] } })

/-- Perform operations one after another. -/
def runOperations (machine : Machine) : List Operation → List Record
  | [] => []
  | operation :: later =>
      let run := machine.runOperation operation
      run.1 :: run.2.runOperations later

end Machine

/-- Run a script.  A configuration that cannot be worked with is refused. -/
def Script.run (script : Script) : Except Failure (List Record) :=
  match Engine.new? script.config with
  | .ok engine =>
      let machine : Machine := { engine := engine, surroundings := { script := script } }
      .ok (machine.runOperations script.operations)
  | .error failure => .error failure

end WlanDatapath.Bench
