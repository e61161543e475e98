import WlanDatapath.Anomaly
import WlanDatapath.Counters
import WlanDatapath.DeferredWork.Basic
import WlanDatapath.Device
import WlanDatapath.Engine.Effect
import WlanDatapath.Receive.Walker
import WlanDatapath.Ring

/-!
# The state of the engine

The engine owns one ring for reception and one for each output endpoint.  It also
remembers where it stands in the two activities that wait for others: bringing
the device up, and the pass over received buffers.  Since these places are part
of the state, every step of the engine is a plain function, and calls made from
inside a call are just further steps.

A receive slot holds its buffer except while the transport or the pass has it.
-/

namespace WlanDatapath

/-! ## Receive slots -/

/-- A transfer handle with its buffer and the outcome of its last transfer. -/
structure ReceiveSlot where
  handle : Handle
  buffer : Option Buffer
  /-- How the last transfer ended. -/
  status : Status := .ok
  /-- Octets reported by the last transfer. -/
  length : Nat := 0
deriving DecidableEq, Repr

namespace ReceiveSlot

/-- Put a buffer back, unless the slot holds one. -/
def putBack (buffer : Buffer) (slot : ReceiveSlot) : ReceiveSlot :=
  if slot.buffer.isNone then { slot with buffer := some buffer } else slot

/-- File a finished transfer. -/
def file (transfer : Transfer Buffer) (slot : ReceiveSlot) : ReceiveSlot :=
  { slot with
    buffer := some transfer.content
    status := transfer.status
    length := transfer.length }

/-- Take the buffer out. -/
def vacate (slot : ReceiveSlot) : ReceiveSlot :=
  { slot with buffer := none }

@[simp]
theorem handle_putBack (buffer : Buffer) (slot : ReceiveSlot) :
    (slot.putBack buffer).handle = slot.handle := by
  unfold putBack
  split <;> rfl

/-- A buffer in a slot is never replaced by putting another one back. -/
theorem putBack_of_buffer {buffer held : Buffer} {slot : ReceiveSlot}
    (holds : slot.buffer = some held) : slot.putBack buffer = slot := by
  simp [putBack, holds]

end ReceiveSlot

/-! ## Activities -/

/-- A buffer taken out of its slot by the pass. -/
structure Work where
  index : Nat
  handle : Handle
  buffer : Buffer
deriving DecidableEq, Repr

/-- Where the pass over received buffers stands. -/
inductive Pass where
  /-- There is no pass. -/
  | idle
  /-- The oldest buffer is to be taken. -/
  | popping
  /-- The next segment of a buffer is to be looked at. -/
  | walking (work : Work) (walker : Walker)
  /-- A frame was handed up, and the verdict is awaited. -/
  | delivering (work : Work) (walker : Walker)
  /-- A buffer is to be given back. -/
  | returning (work : Work)
  /-- A buffer was submitted, and the answer is awaited. -/
  | submitting (work : Work)
deriving DecidableEq, Repr

/-- Where bringing the device up stands. -/
inductive BringUp where
  /-- Not begun, or over. -/
  | idle
  /-- The buffer of a slot is to be posted. -/
  | posting (index : Nat)
  /-- A buffer was submitted, and the answer is awaited. -/
  | submitting (work : Work)
  /-- It failed, and the teardown it started is to be finished. -/
  | failing (failure : Failure)
deriving DecidableEq, Repr

/-! ## The engine -/

/-- The data path of one device. -/
structure Engine where
  config : Config
  device : Device := {}
  /-- Received buffers, oldest first in the window. -/
  receive : Ring ReceiveSlot := .empty receiveSlots
  /-- Transfers in flight on each output endpoint. -/
  transmit : Vector (Ring Handle) laneCount := .replicate laneCount (.empty transmitSlots)
  /-- The request for a pass over received buffers. -/
  deferred : DeferredWork := {}
  /-- What has been counted. -/
  counters : Counters := {}
  /-- Anomalies already reported. -/
  reported : Reported := {}
  /-- Where bringing up stands. -/
  bringUp : BringUp := .idle
  /-- Where the pass stands. -/
  pass : Pass := .idle
  /-- Teardowns that wait for the pass to end. -/
  teardowns : Nat := 0
deriving DecidableEq, Repr

namespace Engine

/-- An engine for a valid configuration.  It owns nothing yet. -/
def new? (config : Config) : Except Failure Engine :=
  match config.validate with
  | .ok _ => .ok { config := config }
  | .error failure => .error failure

/-- Received buffers that wait for the pass. -/
def receiveOccupancy (engine : Engine) : Nat :=
  engine.receive.used

/-- Transfers in flight on an output endpoint, if it exists. -/
def transmitOccupancy? (engine : Engine) (index : Nat) : Option Nat :=
  (engine.transmit[index]?).map (·.used)

/-! ## Logging -/

/-- Whether a status is worth a line: it is an error, and the device is not known
to be gone. -/
def isWorthLogging (engine : Engine) (status : Status) : Bool :=
  status.hasError && !engine.device.removed

/-- A line about a status, if the status is worth one. -/
def complaint (engine : Engine) (status : Status) (line : LogLine) : List Effect :=
  if engine.isWorthLogging status then [.log line] else []

/-- Log a line about an anomaly unless its kind was reported before. -/
def reportOnce (engine : Engine) (anomaly : Anomaly) (line : LogLine) : Engine × List Effect :=
  let report := engine.reported.report anomaly.word
  ({ engine with reported := report.2 }, if report.1 then [.log line] else [])

/-! ## Putting buffers back -/

/-- Put a buffer back into a slot, unless the slot is gone or holds one. -/
def putBackAt (engine : Engine) (index : Nat) (buffer : Buffer) : Engine :=
  { engine with receive := engine.receive.modify index (ReceiveSlot.putBack buffer) }

/-- Put a buffer back into the first slot with a handle, unless there is none or
it holds one. -/
def putBackByHandle (engine : Engine) (handle : Handle) (buffer : Buffer) : Engine :=
  match engine.receive.position? fun slot => slot.handle == handle with
  | some index => engine.putBackAt index buffer
  | none => engine

end Engine

end WlanDatapath
