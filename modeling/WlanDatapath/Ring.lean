import WlanDatapath.Failure
import WlanDatapath.Memory

/-!
# Circular rings of slots

A ring owns a fixed number of slots and a window of them.  Slots are put in once;
afterwards the producer publishes the slot behind the window and the consumer
retires the slot at its front, each time in slot order and around the end.

The window is kept as two indices and a count, which agree on every ring that
was built by these operations: `Ring.WellFormed` says how, and one lemma per
operation says that it is kept.  `Ring.window` lists the slot indices in the
window, oldest first.
-/

namespace WlanDatapath

/-- A circular array of slots with a window of published ones. -/
structure Ring (Slot : Type) where
  /-- The number of slots once the ring is populated. -/
  capacity : Nat
  /-- The slots put in so far. -/
  slots : List Slot := []
  /-- The oldest slot of the window. -/
  start : Nat := 0
  /-- The slot behind the window. -/
  stop : Nat := 0
  /-- The number of slots in the window. -/
  used : Nat := 0
deriving DecidableEq, Repr

namespace Ring

variable {Slot : Type}

/-! ## Construction -/

/-- A ring without slots. -/
def empty (capacity : Nat) : Ring Slot where
  capacity := capacity

/-- A ring for at least one slot. -/
def new? (capacity : Nat) : Except Misuse (Ring Slot) :=
  if capacity = 0 then .error .zeroCapacity else .ok (empty capacity)

/-- Ask for the memory of all slots, each of `slotSize` octets, on top of those
in place. -/
def allocate (memory : Memory) (slotSize : Nat) (ring : Ring Slot) : Except Failure Unit :=
  if memory ((ring.slots.length + ring.capacity) * slotSize) then .ok ()
  else .error .outOfMemory

/-- Put in the next slot. -/
def push (ring : Ring Slot) (slot : Slot) : Except Failure (Ring Slot) :=
  if ring.slots.length < ring.capacity then
    .ok { ring with slots := ring.slots ++ [slot] }
  else .error .queueFull

/-! ## Observation -/

/-- Every slot is in place. -/
def isComplete (ring : Ring Slot) : Bool :=
  ring.slots.length == ring.capacity

/-- No slot lies outside the window. -/
def isFull (ring : Ring Slot) : Bool :=
  decide (ring.capacity ≤ ring.used)

/-- No slot lies in the window. -/
def isEmpty (ring : Ring Slot) : Bool :=
  ring.used == 0

/-- The slot behind the window, where the next one is published. -/
def producer? (ring : Ring Slot) : Option Slot :=
  ring.slots[ring.stop]?

/-- The slot at the front of the window, or where the window would begin. -/
def consumer? (ring : Ring Slot) : Option Slot :=
  ring.slots[ring.start]?

/-- The index of the first slot that satisfies a test. -/
def position? (ring : Ring Slot) (test : Slot → Bool) : Option Nat :=
  ring.slots.findIdx? test

/-- The slot indices of the window, oldest first. -/
def window (ring : Ring Slot) : List Nat :=
  (List.range ring.used).map fun offset => (ring.start + offset) % ring.capacity

/-! ## Operations -/

/-- Change the slot at an index, if there is one. -/
def modify (ring : Ring Slot) (index : Nat) (change : Slot → Slot) : Ring Slot :=
  { ring with slots := ring.slots.modify index change }

/-- The free slot that the next publication takes.  A ring that is not populated
offers none. -/
def reserve? (ring : Ring Slot) : Except Failure Slot :=
  if ring.isFull || !ring.isComplete then .error .queueFull
  else
    match ring.producer? with
    | some slot => .ok slot
    | none => .error .queueFull

/-- Let the window grow by the slot behind it. -/
def publish (ring : Ring Slot) : Except Failure (Ring Slot) :=
  if ring.isFull then .error .queueFull
  else
    .ok { ring with
      stop := (ring.stop + 1) % ring.capacity
      used := ring.used + 1 }

/-- Let the window shrink by its oldest slot, whose index is the answer. -/
def retire? (ring : Ring Slot) : Option (Nat × Ring Slot) :=
  if ring.isEmpty then none
  else
    some (ring.start, { ring with
      start := (ring.start + 1) % ring.capacity
      used := ring.used - 1 })

/-- Take out every slot and close the window. -/
def drain (ring : Ring Slot) : List Slot × Ring Slot :=
  (ring.slots, empty ring.capacity)

/-! ## The invariant -/

/-- The two indices and the count describe one window, and no slot is in excess. -/
structure WellFormed (ring : Ring Slot) : Prop where
  start_lt : ring.start < ring.capacity
  used_le : ring.used ≤ ring.capacity
  stop_eq : ring.stop = (ring.start + ring.used) % ring.capacity
  slots_le : ring.slots.length ≤ ring.capacity

namespace WellFormed

variable {ring : Ring Slot}

theorem stop_lt (sound : ring.WellFormed) : ring.stop < ring.capacity := by
  rw [sound.stop_eq]
  exact Nat.mod_lt _ (Nat.lt_of_le_of_lt (Nat.zero_le _) sound.start_lt)

theorem empty {capacity : Nat} (positive : 0 < capacity) :
    (Ring.empty capacity : Ring Slot).WellFormed where
  start_lt := positive
  used_le := Nat.zero_le _
  stop_eq := by simp [Ring.empty]
  slots_le := Nat.zero_le _

theorem push {slot : Slot} {next : Ring Slot} (sound : ring.WellFormed)
    (pushed : ring.push slot = .ok next) : next.WellFormed := by
  unfold Ring.push at pushed
  split at pushed
  next room =>
    cases pushed
    exact ⟨sound.start_lt, sound.used_le, sound.stop_eq, by
      simp only [List.length_append, List.length_cons, List.length_nil]
      omega⟩
  next => contradiction

theorem modify (sound : ring.WellFormed) (index : Nat) (change : Slot → Slot) :
    (ring.modify index change).WellFormed :=
  ⟨sound.start_lt, sound.used_le, sound.stop_eq, by simpa [Ring.modify] using sound.slots_le⟩

theorem publish {next : Ring Slot} (sound : ring.WellFormed)
    (published : ring.publish = .ok next) : next.WellFormed := by
  unfold Ring.publish at published
  split at published
  next => contradiction
  next room =>
    cases published
    simp only [isFull, decide_eq_true_eq, Nat.not_le] at room
    refine ⟨sound.start_lt, room, ?_, sound.slots_le⟩
    simp only [sound.stop_eq, Nat.mod_add_mod, Nat.add_assoc]

theorem retire {index : Nat} {next : Ring Slot} (sound : ring.WellFormed)
    (retired : ring.retire? = some (index, next)) : next.WellFormed := by
  unfold Ring.retire? at retired
  split at retired
  next => contradiction
  next present =>
    cases retired
    simp only [isEmpty, beq_iff_eq] at present
    have used := sound.used_le
    refine ⟨Nat.mod_lt _ (by omega), ?_, ?_, sound.slots_le⟩
    · simp only
      omega
    · simp only [sound.stop_eq, Nat.mod_add_mod]
      congr 1
      omega

theorem drain (sound : ring.WellFormed) : ring.drain.2.WellFormed :=
  empty (Nat.lt_of_le_of_lt (Nat.zero_le _) sound.start_lt)

end WellFormed

/-! ## The window -/

@[simp]
theorem length_window (ring : Ring Slot) : ring.window.length = ring.used := by
  simp [window]

@[simp]
theorem window_empty (capacity : Nat) : (empty capacity : Ring Slot).window = [] := rfl

/-- Publication appends the slot behind the window. -/
theorem window_publish {ring next : Ring Slot} (sound : ring.WellFormed)
    (published : ring.publish = .ok next) : next.window = ring.window ++ [ring.stop] := by
  unfold publish at published
  split at published
  next => contradiction
  next =>
    cases published
    simp [window, List.range_succ, sound.stop_eq]

/-- Retirement removes the oldest slot. -/
theorem window_retire {ring next : Ring Slot} {index : Nat} (sound : ring.WellFormed)
    (retired : ring.retire? = some (index, next)) : ring.window = index :: next.window := by
  unfold retire? at retired
  split at retired
  next => contradiction
  next present =>
    cases retired
    simp only [isEmpty, beq_iff_eq] at present
    obtain ⟨rest, used⟩ : ∃ rest, ring.used = rest + 1 :=
      ⟨ring.used - 1, by omega⟩
    simp only [window, used, List.range_succ_eq_map, List.map_cons, List.map_map,
      Nat.add_zero, Nat.mod_eq_of_lt sound.start_lt, Nat.add_sub_cancel]
    congr 1
    apply List.map_congr_left
    intro offset _
    simp only [Function.comp, Nat.mod_add_mod]
    congr 1
    omega

end Ring

end WlanDatapath
