import WlanDatapath.Bench.Script

/-!
# The surroundings of an engine

The transport of the bench issues handles, holds submitted transfers in order and
refuses submissions on poisoned handles or when told to.  The upper layer rejects
frames by their first octet.  Both record every act of the engine.

A call made during an `Occasion` may trigger hooks; the operations to perform are
the answer of `Surroundings.note`.
-/

namespace WlanDatapath.Bench

/-- How many calls of each kind that may trigger hooks there were. -/
structure Calls where
  deliver : Nat := 0
  reportSent : Nat := 0
  submitReceive : Nat := 0
  raise : Nat := 0
deriving DecidableEq, Repr

namespace Calls

/-- The calls of one kind. -/
def count (calls : Calls) : Occasion → Nat
  | .deliver => calls.deliver
  | .reportSent => calls.reportSent
  | .submitReceive => calls.submitReceive
  | .raise => calls.raise

/-- One more call of a kind. -/
def add (calls : Calls) : Occasion → Calls
  | .deliver => { calls with deliver := calls.deliver + 1 }
  | .reportSent => { calls with reportSent := calls.reportSent + 1 }
  | .submitReceive => { calls with submitReceive := calls.submitReceive + 1 }
  | .raise => { calls with raise := calls.raise + 1 }

end Calls

/-- What surrounds the engine of a bench. -/
structure Surroundings where
  /-- What decides the run. -/
  script : Script
  /-- Handles issued so far. -/
  issued : Nat := 0
  /-- Handles issued and not given back. -/
  live : List Handle := []
  /-- Handles given back that were not live. -/
  doubleFrees : Nat := 0
  /-- Handles that take no further transfers. -/
  poisoned : List Handle := []
  /-- Receive transfers held, oldest first. -/
  receiving : List (Transfer Buffer) := []
  /-- Transmit transfers held with their endpoints, oldest first. -/
  sending : List (UInt8 × Transfer Outgoing) := []
  /-- The status for refused receive buffers, and how many still pass. -/
  receiveGate : Option (Status × Nat) := none
  /-- The status for refused frames, and how many still pass. -/
  transmitGate : Option (Status × Nat) := none
  /-- First octets of frames that are rejected. -/
  rejected : Octets := []
  /-- Calls so far of each kind that may trigger hooks. -/
  calls : Calls := {}
  /-- What happened, newest first. -/
  events : List Event := []

namespace Surroundings

/-! ## Answers -/

/-- The handle issued after a number of others. -/
def handleAt (surroundings : Surroundings) (index : Nat) : Handle :=
  surroundings.script.firstHandle + UInt32.ofNat index * surroundings.script.handleStep

/-- The next `count` handles, or as many as are left. -/
def nextHandles (surroundings : Surroundings) (count : Nat) : List Handle :=
  let left := match surroundings.script.handleBudget with
    | some budget => min count (budget - surroundings.issued)
    | none => count
  (List.range left).map fun offset => surroundings.handleAt (surroundings.issued + offset)

/-- Whether a status means that the device is gone. -/
def isFatal (surroundings : Surroundings) (status : Status) : Bool :=
  match surroundings.script.fatal with
  | some statuses => statuses.contains status
  | none => status.isFatal

/-- The transport's answer to a submission on a handle behind a gate. -/
def submission (surroundings : Surroundings) (gate : Option (Status × Nat))
    (handle : Handle) : Option Refusal :=
  let refused (status : Status) : Refusal := ⟨status, surroundings.isFatal status⟩
  if surroundings.poisoned.contains handle then some (refused .poisoned)
  else
    match gate with
    | some (status, 0) => some (refused status)
    | some (_, _ + 1) | none => none

/-- The answer to a receive buffer. -/
def answerReceive (surroundings : Surroundings) (transfer : Transfer Buffer) :
    Option Refusal :=
  surroundings.submission surroundings.receiveGate transfer.handle

/-- The answer to a frame. -/
def answerTransmit (surroundings : Surroundings) (transfer : Transfer Outgoing) :
    Option Refusal :=
  surroundings.submission surroundings.transmitGate transfer.handle

/-- A gate after one more submission has passed. -/
def passed : Option (Status × Nat) → Option (Status × Nat)
  | some (status, left) => some (status, left - 1)
  | none => none

/-- The status that stands for an answer in the record. -/
def answerStatus : Option Refusal → Status
  | some refusal => refusal.status
  | none => .ok

/-- Whether the upper layer accepts a frame. -/
def accepts (surroundings : Surroundings) (frame : Octets) : Bool :=
  match frame with
  | [] => true
  | first :: _ => !surroundings.rejected.contains first

/-! ## Recording -/

/-- Add an event to the record. -/
def see (surroundings : Surroundings) (event : Event) : Surroundings :=
  { surroundings with events := event.record surroundings.events }

/-- Count a call that may trigger hooks.  The answer is the number of the call
with the hooks it triggers. -/
def note (surroundings : Surroundings) (occasion : Occasion) :
    Surroundings × Nat × List Hook :=
  let calls := surroundings.calls.add occasion
  let call := calls.count occasion
  ({ surroundings with calls := calls }, call,
    surroundings.script.hooks.filter fun hook => hook.occasion = occasion && hook.call == call)

/-- Let an act of the engine happen, apart from the hooks it triggers. -/
def absorb (surroundings : Surroundings) : Effect → Surroundings
  | .allocate none => surroundings.see .allocationRefused
  | .allocate (some handle) =>
      { surroundings.see (.allocated handle.toNat 1) with
        issued := surroundings.issued + 1
        live := if surroundings.live.contains handle then surroundings.live
          else handle :: surroundings.live }
  | .free handle =>
      let seen := surroundings.see (.freed handle.toNat 1)
      if surroundings.live.contains handle then
        { seen with live := surroundings.live.erase handle }
      else { seen with doubleFrees := surroundings.doubleFrees + 1 }
  | .poison handle =>
      { surroundings.see (.poisoned handle.toNat 1) with
        poisoned := handle :: surroundings.poisoned }
  | .submitReceive endpoint transfer =>
      let refusal := surroundings.answerReceive transfer
      let seen := surroundings.see
        (.submitReceive endpoint transfer.handle (answerStatus refusal))
      if refusal.isNone then
        { seen with
          receiving := surroundings.receiving ++ [transfer]
          receiveGate := passed surroundings.receiveGate }
      else seen
  | .submitTransmit endpoint transfer refusal =>
      let seen := surroundings.see
        (.submitTransmit endpoint transfer.handle transfer.content.octets
          (answerStatus refusal))
      if refusal.isNone then
        { seen with
          sending := surroundings.sending ++ [(endpoint, transfer)]
          transmitGate := passed surroundings.transmitGate }
      else seen
  | .deliver frame descriptor =>
      surroundings.see (.deliver frame descriptor (surroundings.accepts frame))
  | .reportSent outgoing status =>
      surroundings.see
        (.reportSent outgoing.queue outgoing.payload outgoing.length status)
  | .stopQueue queue => surroundings.see (.stopQueue queue)
  | .wakeQueue queue => surroundings.see (.wakeQueue queue)
  | .scheduleStatistics delay => surroundings.see (.scheduleStatistics delay)
  | .raise => surroundings.see .raise
  | .log line => surroundings.see (.log line)

/-- Take a receive transfer out of the transport. -/
def releaseReceive (surroundings : Surroundings) (nth : Nat) : Surroundings :=
  { surroundings with receiving := surroundings.receiving.eraseIdx nth }

/-- Take a transmit transfer out of the transport. -/
def releaseTransmit (surroundings : Surroundings) (nth : Nat) : Surroundings :=
  { surroundings with sending := surroundings.sending.eraseIdx nth }

/-- The occasion that an act is, if it is one. -/
def occasion? : Effect → Option Occasion
  | .deliver _ _ => some .deliver
  | .reportSent _ _ => some .reportSent
  | .submitReceive _ _ => some .submitReceive
  | .raise => some .raise
  | _ => none

end Surroundings

end WlanDatapath.Bench
