import WlanDatapath.LogLine
import WlanDatapath.Receive.Buffer
import WlanDatapath.Transmit.Outgoing

/-!
# What the engine does to its surroundings

The engine talks to a transport, to the layer above it and to whoever runs
deferred work, and it writes to the log.  Each of these acts is an `Effect`; a
step of the engine answers with the effects it had, in order.

Two acts leave the engine waiting: handing over a received frame and submitting a
receive buffer.  Their answers arrive as later steps, and anything may happen in
between.
-/

namespace WlanDatapath

/-- A refused submission: the status given as reason, and whether the transport
takes it to mean that the device is gone. -/
structure Refusal where
  status : Status
  fatal : Bool
deriving DecidableEq, Repr

/-- An act of the engine that others can see. -/
inductive Effect where
  /-- A handle was asked for; the answer is part of the act. -/
  | allocate (granted : Option Handle)
  | free (handle : Handle)
  /-- Transfers on a handle were cancelled and forbidden. -/
  | poison (handle : Handle)
  /-- A receive buffer was submitted; the answer is awaited. -/
  | submitReceive (endpoint : UInt8) (transfer : Transfer Buffer)
  /-- A frame was submitted; the answer is part of the act. -/
  | submitTransmit (endpoint : UInt8) (transfer : Transfer Outgoing) (refusal : Option Refusal)
  /-- A received frame was handed up; the verdict is awaited. -/
  | deliver (frame : Octets) (descriptor : Descriptor)
  | reportSent (outgoing : Outgoing) (status : Status)
  | stopQueue (queue : UInt8)
  | wakeQueue (queue : UInt8)
  /-- Statistics are to be read after some milliseconds. -/
  | scheduleStatistics (delay : Nat)
  | raise
  | log (line : LogLine)
deriving DecidableEq, Repr

end WlanDatapath
