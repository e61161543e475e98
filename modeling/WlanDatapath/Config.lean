import WlanDatapath.Failure
import WlanDatapath.Receive.Segment
import WlanDatapath.Transmit.HeaderWord

/-!
# Configuration of the data path

A configuration names the endpoints of the adapter, the size of receive buffers
and the two delays of statistics reading.  It also fixes how hardware queues map
to output endpoints.

`Config.isValid_iff` says which configurations can be worked with: a buffer
holds at least one segment and keeps segments aligned, and no two output
endpoints share an address, so a completion names its ring.
-/

namespace WlanDatapath

/-- The number of receive buffers. -/
def receiveSlots : Nat := 16

/-- The number of transfers in flight on one output endpoint. -/
def transmitSlots : Nat := 64

/-- The number of output endpoints. -/
def laneCount : Nat := 6

/-- The index of an output endpoint. -/
abbrev Lane := Fin laneCount

/-- Endpoints, sizes and delays. -/
structure Config where
  /-- The address of the input endpoint. -/
  inEndpoint : UInt8 := 0x84
  /-- The addresses of the output endpoints.  The first carries commands and
  never data. -/
  outEndpoints : Vector UInt8 laneCount := #v[8, 4, 5, 6, 7, 9]
  /-- Octets in a receive buffer. -/
  bufferSize : Nat := 24576
  /-- Milliseconds before statistics are first read. -/
  statisticsDelay : Nat := 10
  /-- Milliseconds before statistics are read again. -/
  statisticsRequeueDelay : Nat := 20
deriving DecidableEq, Repr

namespace Config

/-- The configuration can be worked with. -/
def isValid (config : Config) : Bool :=
  decide (Segment.minimumSize ≤ config.bufferSize) && config.bufferSize % 4 == 0 &&
    decide config.outEndpoints.toList.Nodup

/-- Refuse a configuration that cannot be worked with. -/
def validate (config : Config) : Except Failure Unit :=
  if config.isValid then .ok () else .error .invalidConfig

theorem isValid_iff (config : Config) :
    config.isValid = true ↔
      Segment.minimumSize ≤ config.bufferSize ∧ config.bufferSize % 4 = 0 ∧
        config.outEndpoints.toList.Nodup := by
  simp only [isValid, Bool.and_eq_true, decide_eq_true_eq, beq_iff_eq, and_assoc]

/-- The output endpoint with an address. -/
def lane? (config : Config) (address : UInt8) : Option Lane :=
  config.outEndpoints.finIdxOf? address

end Config

/-! ## Entries of output endpoints -/

namespace Lane

variable {Entry : Type} (entries : Vector Entry laneCount) (lane : Lane)

/-- The entry of an endpoint after the one of another was replaced. -/
theorem get_set (other : Lane) (entry : Entry) :
    (entries.set lane entry lane.isLt).get other =
      if lane = other then entry else entries.get other := by
  show (entries.set lane.val entry lane.isLt)[other.val] = _
  rw [Vector.getElem_set]
  simp only [Fin.val_inj]
  rfl

@[simp]
theorem get_map {Other : Type} (change : Entry → Other) :
    (entries.map change).get lane = change (entries.get lane) :=
  Vector.getElem_map ..

@[simp]
theorem get_replicate (entry : Entry) : (Vector.replicate laneCount entry).get lane = entry :=
  Vector.getElem_replicate ..

end Lane

/-! ## Queues and endpoints -/

/-- The output endpoint of a hardware queue.  The first endpoint serves none. -/
def laneOfQueue (queue : UInt8) : Except Failure Lane :=
  if inRange : queue.toNat + 1 < laneCount then .ok ⟨queue.toNat + 1, inRange⟩
  else .error (.invalidQueue queue)

/-- The queue selector for the traffic on an output endpoint. -/
def selectorOfLane (index : Nat) : QueueSelector :=
  if index = 5 then .management else .distributed

/-- The number of transfers in flight at which a completion wakes the upper
queue again. -/
def wakeLevel (slots : Nat) : Nat :=
  slots - slots / 8

/-- No hardware queue uses the endpoint for commands. -/
theorem laneOfQueue_ne_zero {queue : UInt8} {lane : Lane}
    (mapped : laneOfQueue queue = .ok lane) : lane.val ≠ 0 := by
  unfold laneOfQueue at mapped
  split at mapped
  · cases mapped
    exact Nat.succ_ne_zero _
  · contradiction

end WlanDatapath
