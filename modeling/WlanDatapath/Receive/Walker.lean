import WlanDatapath.Receive.Segment

/-!
# Walking the segments of a transfer

A walker stands at a place in a received transfer and steps over one segment at
a time.  It stops for good at the end of the transfer or at the first defect,
and it counts the segments it stepped over.

`Segment.walk` is the same walk seen whole: the segments in memory order and the
defect, if any, at which it stopped.
-/

namespace WlanDatapath

/-- A place in a received transfer. -/
structure Walker where
  /-- The octets not yet stepped over. -/
  rest : Octets
  /-- Segments stepped over. -/
  walked : Nat := 0
  /-- The walk is over. -/
  finished : Bool := false
deriving DecidableEq, Repr

namespace Walker

/-- A walker at the front of a transfer. -/
def start (octets : Octets) : Walker where
  rest := octets

/-- What the walker finds next, and where it stands afterwards.  Nothing is
found once the walk is over. -/
def next (walker : Walker) : Option (Except Defect Segment) × Walker :=
  if walker.finished then (none, walker)
  else
    match Segment.read? walker.rest with
    | none => (none, { walker with finished := true })
    | some (.error defect) => (some (.error defect), { walker with finished := true })
    | some (.ok (segment, rest)) =>
        (some (.ok segment), { walker with rest := rest, walked := walker.walked + 1 })

/-- Nothing follows the end of a walk. -/
@[simp]
theorem next_of_finished {walker : Walker} (finished : walker.finished = true) :
    walker.next = (none, walker) := by
  simp [next, finished]

end Walker

namespace Segment

/-- The segments at the front of a string, in memory order, and the defect at
which they end, if they do not end with the string. -/
def walk (octets : Octets) : List Segment × Option Defect :=
  match _ : read? octets with
  | none => ([], none)
  | some (.error defect) => ([], some defect)
  | some (.ok (segment, rest)) =>
      let later := walk rest
      (segment :: later.1, later.2)
termination_by octets.length
decreasing_by exact length_lt_of_read? ‹_›

end Segment

end WlanDatapath
