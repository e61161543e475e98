import WlanDatapath.Failure
import WlanDatapath.Memory
import WlanDatapath.Wire.Octets

/-!
# Receive buffers

A receive buffer has a fixed capacity.  The device writes to its front; whatever
lies behind the written octets stays as it was before, so only the reported part
of a buffer may be looked at.
-/

namespace WlanDatapath

/-- Memory that the device receives into. -/
structure Buffer where
  /-- The whole buffer. -/
  octets : Octets
deriving DecidableEq, Repr

namespace Buffer

/-- A buffer filled with zeros. -/
def zeroed (size : Nat) : Buffer where
  octets := List.replicate size 0

/-- A buffer filled with zeros, if there is memory for it. -/
def allocate (memory : Memory) (size : Nat) : Except Failure Buffer :=
  if memory size then .ok (zeroed size) else .error .outOfMemory

/-- The number of octets in a buffer. -/
def capacity (buffer : Buffer) : Nat :=
  buffer.octets.length

/-- The part of a buffer that a transfer of `length` octets filled.  A length
beyond the capacity means the whole buffer. -/
def filled (buffer : Buffer) (length : Nat) : Octets :=
  buffer.octets.take length

/-- Write octets to the front; those beyond the capacity are lost. -/
def write (buffer : Buffer) (octets : Octets) : Buffer where
  octets := octets.take buffer.capacity ++ buffer.octets.drop octets.length

/-- The text that shows a buffer by its capacity. -/
def text (buffer : Buffer) : String :=
  s!"RxBuf \x7b capacity: {buffer.capacity} \x7d"

@[simp]
theorem capacity_zeroed (size : Nat) : (zeroed size).capacity = size := by
  simp [zeroed, capacity]

/-- Writing keeps the capacity. -/
@[simp]
theorem capacity_write (buffer : Buffer) (octets : Octets) :
    (buffer.write octets).capacity = buffer.capacity := by
  simp only [write, capacity, List.length_append, List.length_take, List.length_drop]
  omega

/-- A report that covers only written octets shows nothing else. -/
theorem filled_write_of_le (buffer : Buffer) {octets : Octets} {length : Nat}
    (fits : octets.length ≤ buffer.capacity) (reported : length ≤ octets.length) :
    (buffer.write octets).filled length = octets.take length := by
  simp only [filled, write, List.take_of_length_le fits]
  exact List.take_append_of_le_length reported

end Buffer

end WlanDatapath
