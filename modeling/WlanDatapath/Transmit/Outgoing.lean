import WlanDatapath.Memory
import WlanDatapath.Transmit.HeaderWord
import WlanDatapath.Wire.Octets

/-!
# Outgoing frames

An outgoing frame is handed down bare and wrapped once before it is submitted:
the header word goes in front, zeros pad it to a multiple of four and a trailer
of four zeros follows.  The frame can be read back from the wrapped octets, which
is what its sender sees when the transfer is over.

`Outgoing.payload_wrapWith` says that wrapping changes nothing that the sender
handed down.
-/

namespace WlanDatapath

/-- A frame on its way to the device or back. -/
structure Outgoing where
  /-- The octets of the transfer; those of the frame alone before wrapping. -/
  octets : Octets
  /-- The upper queue the frame came from. -/
  queue : UInt8
  /-- Octets in the frame alone. -/
  frameLength : Nat
  /-- The header word and the padding are in place. -/
  wrapped : Bool
deriving DecidableEq, Repr

namespace Outgoing

/-- Zero octets behind the padded frame. -/
def trailerSize : Nat := 4

/-- A frame as its sender hands it down. -/
def bare (octets : Octets) (queue : UInt8) : Outgoing where
  octets := octets
  queue := queue
  frameLength := octets.length
  wrapped := false

/-- Octets in the transfer. -/
def length (outgoing : Outgoing) : Nat :=
  outgoing.octets.length

/-- The frame alone. -/
def payload (outgoing : Outgoing) : Octets :=
  if outgoing.wrapped then
    (outgoing.octets.drop HeaderWord.size).take outgoing.frameLength
  else
    outgoing.octets

/-- The header word of a wrapped frame. -/
def header? (outgoing : Outgoing) : Option HeaderWord :=
  if outgoing.wrapped then
    match outgoing.octets with
    | first :: second :: third :: fourth :: _ =>
        some ⟨Wire.word32 first second third fourth⟩
    | _ => none
  else
    none

/-- Octets in the transfer of a frame of `length` octets once it is wrapped. -/
def wrappedSize (length : Nat) : Nat :=
  HeaderWord.size + roundUp length + trailerSize

/-- The frame with its header word, padding and trailer in place. -/
def wrapWith (outgoing : Outgoing) (selector : QueueSelector) (flags : UInt32) :
    Outgoing :=
  let header := HeaderWord.pack flags outgoing.frameLength selector .radio .packet
  let wrapped := Wire.octets32 header.word ++ outgoing.octets
  { outgoing with
    octets := wrapped ++
      List.replicate (wrappedSize outgoing.frameLength - wrapped.length) 0
    wrapped := true }

/-- Wrap a bare frame, if there is memory for the transfer. -/
def wrap (memory : Memory) (outgoing : Outgoing) (selector : QueueSelector)
    (flags : UInt32) : Except Fault Outgoing :=
  if outgoing.wrapped then .error (.misuse .wrappedTwice)
  else if largestRoundable < outgoing.frameLength then .error (.misuse .lengthOverflow)
  else if memory (wrappedSize outgoing.frameLength) then
    .ok (outgoing.wrapWith selector flags)
  else .error (.failure .outOfMemory)

@[simp]
theorem payload_bare (octets : Octets) (queue : UInt8) :
    (bare octets queue).payload = octets := rfl

@[simp]
theorem queue_wrapWith (outgoing : Outgoing) (selector : QueueSelector) (flags : UInt32) :
    (outgoing.wrapWith selector flags).queue = outgoing.queue := rfl

/-- Wrapping keeps the frame that was handed down. -/
@[simp]
theorem payload_wrapWith (octets : Octets) (queue : UInt8) (selector : QueueSelector)
    (flags : UInt32) :
    ((bare octets queue).wrapWith selector flags).payload = octets := by
  simp [bare, wrapWith, payload, HeaderWord.size, Wire.octets32]

end Outgoing

end WlanDatapath
