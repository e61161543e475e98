import WlanDatapath.Engine.Basic

/-!
# What a bench records

A bench surrounds an engine with a transport and an upper layer and records what
the engine does to them.  An `Event` is one line of that record.

Runs of neighbouring handles are recorded as one event with a count, so a record
of bringing the device up stays short (`Event.extend?`).
-/

namespace WlanDatapath.Bench

/-- The calls during which the surroundings may call the engine back. -/
inductive Occasion where
  | deliver
  | reportSent
  | submitReceive
  | raise
deriving DecidableEq, Repr

/-- The result of an operation on the bench. -/
inductive Answer where
  | nothing
  /-- Success, or why there was none. -/
  | result (result : Except Fault Unit)
  | flag (value : Bool)
  | number (value : Option Nat)
  | config (config : Config)
  /-- The handle of the transfer that was taken from the transport. -/
  | handle (handle : Handle)
  /-- The transport held no such transfer. -/
  | noneInFlight

/-- One line of the record. -/
inductive Event where
  /-- Handles were issued, from the first one upward. -/
  | allocated (first count : Nat)
  | allocationRefused
  | freed (first count : Nat)
  | poisoned (first count : Nat)
  | submitReceive (endpoint : UInt8) (handle : Handle) (answer : Status)
  | submitTransmit (endpoint : UInt8) (handle : Handle) (octets : Octets) (answer : Status)
  | deliver (frame : Octets) (descriptor : Descriptor) (accepted : Bool)
  | reportSent (queue : UInt8) (payload : Octets) (length : Nat) (status : Status)
  | stopQueue (queue : UInt8)
  | wakeQueue (queue : UInt8)
  | scheduleStatistics (delay : Nat)
  | raise
  | log (line : LogLine)
  /-- The surroundings call the engine back, on the given call of its kind. -/
  | hook (occasion : Occasion) (call : Nat)
  /-- An operation that was made during a call is over. -/
  | answered (answer : Answer)

namespace Event

/-- The event that also covers the next one, if the two can be told as one. -/
def extend? : Event → Event → Option Event
  | .allocated first count, .allocated next 1 =>
      if next = first + count then some (.allocated first (count + 1)) else none
  | .freed first count, .freed next 1 =>
      if next = first + count then some (.freed first (count + 1)) else none
  | .poisoned first count, .poisoned next 1 =>
      if next = first + count then some (.poisoned first (count + 1)) else none
  | _, _ => none

/-- Add an event to a record that is kept newest first. -/
def record (event : Event) : List Event → List Event
  | [] => [event]
  | last :: earlier =>
      match last.extend? event with
      | some joined => joined :: earlier
      | none => event :: last :: earlier

end Event

end WlanDatapath.Bench
