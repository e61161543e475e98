import WlanDatapath.Failure
import WlanDatapath.Memory
import WlanDatapath.Receive.FrameControl
import WlanDatapath.Receive.Segment

/-!
# Pad octets behind the MAC header

The adapter aligns the body of a frame by inserting two octets behind the MAC
header and says so in the descriptor.  Extraction copies the frame of a segment
without them; where the header length cannot be trusted, the two octets at the
front of the payload go instead.

`unpad_pad` says that extraction undoes the insertion on every frame whose
header length can be trusted.
-/

namespace WlanDatapath

/-- The number of pad octets. -/
def padSize : Nat := 2

/-- A frame with two octets inserted behind its MAC header. -/
def pad (padding : UInt8 × UInt8) (frame : Octets) : Octets :=
  frame.take (headerLengthOf frame) ++ [padding.1, padding.2] ++
    frame.drop (headerLengthOf frame)

/-- A payload without the two octets behind its MAC header.  The header must fit
into what remains once the two octets are gone. -/
def unpad (payload : Octets) : Octets :=
  let header := headerLengthOf (payload.take (payload.length - padSize))
  payload.take header ++ payload.drop (header + padSize)

/-- The memory that extraction asks for. -/
def extractedSize (padded : Bool) (payload : Octets) : Nat :=
  if padded then payload.length - padSize else payload.length

/-- The frame in a payload, if there is memory for it. -/
def extract (memory : Memory) (descriptor : Descriptor) (payload : Octets) :
    Except Failure Octets :=
  if memory (extractedSize descriptor.isPadded payload) then
    .ok (if descriptor.isPadded then unpad payload else payload)
  else
    .error .outOfMemory

/-- The frame that a segment carries, if there is memory for it. -/
def Segment.extract (memory : Memory) (segment : Segment) : Except Failure Octets :=
  WlanDatapath.extract memory segment.descriptor segment.payload

theorem length_unpad (payload : Octets) :
    (unpad payload).length = payload.length - padSize := by
  have bound := headerLengthOf_le (payload.take (payload.length - padSize))
  simp only [List.length_take] at bound
  simp only [unpad, List.length_append, List.length_take, List.length_drop, padSize] at bound ⊢
  omega

@[simp]
theorem length_pad (padding : UInt8 × UInt8) (frame : Octets) :
    (pad padding frame).length = frame.length + padSize := by
  have bound := headerLengthOf_le frame
  simp only [pad, List.length_append, List.length_take, List.length_drop,
    List.length_cons, List.length_nil, padSize]
  omega

/-- Extraction undoes the insertion of pad octets, whatever they hold, on a
frame whose header length can be trusted. -/
theorem unpad_pad {frame : Octets} (trusted : 0 < headerLengthOf frame)
    (padding : UInt8 × UInt8) : unpad (pad padding frame) = frame := by
  have bound := headerLengthOf_le frame
  have field := two_le_headerLengthOf trusted
  have sameHeader : headerLengthOf ((pad padding frame).take frame.length) =
      headerLengthOf frame := by
    apply headerLengthOf_congr
    · rw [List.take_take, Nat.min_eq_left (by omega), pad, List.append_assoc,
        List.take_append_of_le_length (by simp only [List.length_take]; omega),
        List.take_take, Nat.min_eq_left field]
    · simp
  have headerSize : (frame.take (headerLengthOf frame)).length = headerLengthOf frame := by
    simp only [List.length_take]
    omega
  have before : (pad padding frame).take (headerLengthOf frame) =
      frame.take (headerLengthOf frame) := by
    rw [pad, List.append_assoc, List.take_left' headerSize]
  have after : (pad padding frame).drop (headerLengthOf frame + padSize) =
      frame.drop (headerLengthOf frame) := by
    rw [pad, List.drop_left' (by simp [padSize]; omega)]
  simp only [unpad, length_pad, Nat.add_sub_cancel, sameHeader, before, after,
    List.take_append_drop]

end WlanDatapath
