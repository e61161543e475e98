import WlanDatapath.Bench.Event

/-!
# Scripts for a bench

A script is a list of operations, some of them calls on the engine and some
instructions to its surroundings.  Hooks add operations that are performed from
inside a call of the engine on its surroundings, each at one given call.
-/

namespace WlanDatapath.Bench

/-- One operation on the bench. -/
inductive Operation where
  | bringUp
  | tearDown
  /-- Let somebody else tear the device down while a pass is going on. -/
  | tearDownMeanwhile
  | runPass
  | finishStatistics
  | config
  | occupancy (index : Nat)
  | receive (nth : Nat) (octets : Octets) (length : Option Nat) (status : Status)
  /-- Lose a receive transfer that the transport holds. -/
  | loseReceive (nth : Nat)
  /-- End a receive transfer that the transport never held. -/
  | forgeReceive (handle : Handle) (size : Nat) (octets : Octets) (length : Option Nat)
      (status : Status)
  | send (octets : Octets) (queue key hardwareQueue : UInt8)
  | sent (nth : Nat) (status : Status) (endpoint : Option UInt8)
  /-- End a transmit transfer that the transport never held. -/
  | forgeSent (endpoint : UInt8) (handle : Handle) (octets : Octets) (queue : UInt8)
      (wrapped : Bool) (status : Status)
  /-- Refuse receive buffers from now on, after letting some more pass. -/
  | refuseReceive (refusal : Option (Status × Nat))
  /-- Refuse frames from now on, after letting some more pass. -/
  | refuseTransmit (refusal : Option (Status × Nat))
  /-- Reject received frames by their first octet. -/
  | reject (firstOctets : Octets)
  | limitMemory (limit : Option Nat)

/-- Operations to be performed from inside one call of the engine. -/
structure Hook where
  occasion : Occasion
  /-- The number of the call among those of its kind, from one. -/
  call : Nat
  operations : List Operation

/-- Everything that decides a run of the bench. -/
structure Script where
  config : Config := {}
  firstHandle : Handle := 0
  /-- The distance between handles, which wraps around. -/
  handleStep : Handle := 1
  handleBudget : Option Nat := none
  /-- The statuses that mean that the device is gone, if they differ from the
  usual ones. -/
  fatal : Option (List Status) := none
  hooks : List Hook := []
  operations : List Operation := []

end WlanDatapath.Bench
