import WlanDatapath.Receive.Padding
import WlanDatapath.Receive.Walker

/-!
# The frames of a received transfer

A transfer seen whole is the list of its frames: those of its segments, in memory
order up to the first defect, that are not rejected and for which there is
memory.  Each frame comes with the descriptor of its segment.
-/

namespace WlanDatapath

/-- The frame of a segment with its descriptor, if it is to be delivered. -/
def Segment.delivery? (memory : Memory) (segment : Segment) : Option (Octets × Descriptor) :=
  match segment.rejection? with
  | some _ => none
  | none =>
      match segment.extract memory with
      | .ok frame => some (frame, segment.descriptor)
      | .error _ => none

/-- The frames of a transfer, in the order in which they are delivered. -/
def frames (memory : Memory) (octets : Octets) : List (Octets × Descriptor) :=
  (Segment.walk octets).1.filterMap (Segment.delivery? memory)

/-- A rejected segment delivers nothing, whatever memory there is. -/
theorem Segment.delivery?_of_rejection {segment : Segment} {rejection : Rejection}
    (rejected : segment.rejection? = some rejection) (memory : Memory) :
    segment.delivery? memory = none := by
  simp [delivery?, rejected]

end WlanDatapath
