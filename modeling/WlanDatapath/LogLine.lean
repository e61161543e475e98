import WlanDatapath.Config
import WlanDatapath.Failure
import WlanDatapath.Transfer

/-!
# Log lines

Everything the data path writes to the log is one of the lines below.  A line is
kept as what it says; its level and its text are functions of that.
-/

namespace WlanDatapath

/-- How much a log line matters. -/
inductive LogLevel where
  | error
  | warn
  | debug
  | trace
deriving DecidableEq, Repr

/-- The name of a level. -/
def LogLevel.name : LogLevel → String
  | .error => "error"
  | .warn => "warn"
  | .debug => "debug"
  | .trace => "trace"

/-- A number in hexadecimal digits, marked as such. -/
def hexadecimal (number : Nat) : String :=
  "0x" ++ String.ofList (Nat.toDigits 16 number)

/-- The handle of a slot, if there is a slot. -/
def expectation : Option Handle → String
  | some handle => s!"Some({handle.toNat})"
  | none => "None"

/-- A line of the log. -/
inductive LogLine where
  | bringUpFailed (failure : Failure)
  | up (bufferSize : Nat) (endpoint : UInt8)
  | receiveFailed (handle : Handle) (status : Status)
  | receiveRingFull (handle : Handle)
  | receiveUnexpected (handle : Handle) (expected : Option Handle)
  | badLength (defect : Defect)
  | segmentRejected (rejection : Rejection)
  | aggregate (segments : Nat)
  | repostFailed (handle : Handle) (status : Status)
  | transmitRingFull (lane : Lane) (queue : UInt8)
  | submitFailed (status : Status)
  | transmitFailed (handle : Handle) (status : Status)
  | unknownEndpoint (address : UInt8)
  | transmitUnexpected (handle : Handle) (lane : Lane) (expected : Option Handle)
  | inFlightAtTeardown (lane : Lane) (used : Nat)
deriving DecidableEq, Repr

namespace LogLine

/-- The level of a line. -/
def level : LogLine → LogLevel
  | .bringUpFailed _ | .receiveFailed _ _ | .repostFailed _ _ | .transmitRingFull _ _
  | .submitFailed _ | .transmitFailed _ _ => .error
  | .receiveRingFull _ | .receiveUnexpected _ _ | .badLength _ | .segmentRejected _
  | .unknownEndpoint _ | .transmitUnexpected _ _ _ | .inFlightAtTeardown _ _ => .warn
  | .up _ _ => .debug
  | .aggregate _ => .trace

/-- The text of a line. -/
def text : LogLine → String
  | .bringUpFailed failure => s!"dma: init failed: {failure.message}"
  | .up bufferSize endpoint =>
      s!"dma: up, {receiveSlots} rx buffers of {bufferSize} bytes posted on ep " ++
        hexadecimal endpoint.toNat
  | .receiveFailed handle status => s!"rx: urb {handle.toNat} failed: {status.text}"
  | .receiveRingFull handle => s!"rx: completion for urb {handle.toNat} on a full ring"
  | .receiveUnexpected handle expected =>
      s!"rx: urb {handle.toNat} completed, expected {expectation expected}"
  | .badLength defect => s!"rx: bad segment length: {defect.text}"
  | .segmentRejected rejection => s!"rx: segment rejected: {rejection.text}"
  | .aggregate segments => s!"rx: {segments} segments in one buffer"
  | .repostFailed handle status => s!"rx: repost of urb {handle.toNat} failed: {status.text}"
  | .transmitRingFull lane queue =>
      s!"tx: ring {lane.val} full, queue {queue.toNat} not stopped"
  | .submitFailed status => s!"tx: urb submit failed: {status.text}"
  | .transmitFailed handle status => s!"tx: urb {handle.toNat} failed: {status.text}"
  | .unknownEndpoint address =>
      "tx: completion on unknown ep " ++ hexadecimal address.toNat
  | .transmitUnexpected handle lane expected =>
      s!"tx: urb {handle.toNat} completed on ep {lane.val}, expected {expectation expected}"
  | .inFlightAtTeardown lane used =>
      s!"tx: ring {lane.val} has {used} urbs in flight at cleanup"

end LogLine

end WlanDatapath
