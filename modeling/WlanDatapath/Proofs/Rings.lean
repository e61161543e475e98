import Mathlib.Data.List.Nodup
import Mathlib.Data.List.Perm.Subperm
import Mathlib.Data.Nat.ModEq
import WlanDatapath.Engine.Basic

/-!
# Windows and gaps of a ring

The window of a ring lists the slots in use, oldest first; the gap lists the
others, beginning with the slot that is published next.  Publication moves a slot
from the front of the gap to the end of the window, and retirement moves one from
the front of the window to the end of the gap.  No slot is ever in both.
-/

namespace WlanDatapath

namespace Ring

variable {Slot : Type} {ring next : Ring Slot}

/-! ## Operations, seen whole -/

/-- A ring with further slots behind those in place. -/
def extend (ring : Ring Slot) (slots : List Slot) : Ring Slot :=
  { ring with slots := ring.slots ++ slots }

@[simp]
theorem extend_nil (ring : Ring Slot) : ring.extend [] = ring := by
  simp [extend]

@[simp]
theorem extend_extend (ring : Ring Slot) (slots further : List Slot) :
    (ring.extend slots).extend further = ring.extend (slots ++ further) := by
  simp [extend]

theorem WellFormed.extend (sound : ring.WellFormed) {slots : List Slot}
    (fits : ring.slots.length + slots.length ≤ ring.capacity) :
    (ring.extend slots).WellFormed :=
  ⟨sound.start_lt, sound.used_le, sound.stop_eq, by simpa [Ring.extend] using fits⟩

theorem push_eq_ok {slot : Slot} (pushed : ring.push slot = .ok next) :
    next = ring.extend [slot] := by
  unfold push at pushed
  split at pushed
  · cases pushed
    rfl
  · contradiction

/-- A ring with room for a slot takes it. -/
theorem push_of_room (slot : Slot) (room : ring.slots.length < ring.capacity) :
    ring.push slot = .ok (ring.extend [slot]) := by
  simp [push, room, extend]

/-- Publication moves the end of the window and nothing else. -/
theorem publish_eq_ok (published : ring.publish = .ok next) :
    ring.isFull = false ∧
      next = { ring with
        stop := (ring.stop + 1) % ring.capacity
        used := ring.used + 1 } := by
  unfold publish at published
  split at published
  · contradiction
  next room =>
    cases published
    exact ⟨by simpa using room, rfl⟩

/-- A ring that is not full publishes the slot behind its window. -/
theorem exists_publish (room : ring.isFull = false) : ∃ next, ring.publish = .ok next := by
  unfold publish
  rw [if_neg (by simp [room])]
  exact ⟨_, rfl⟩

/-- Retirement moves the front of the window and nothing else. -/
theorem retire?_eq_some {index : Nat} (retired : ring.retire? = some (index, next)) :
    ring.isEmpty = false ∧ index = ring.start ∧
      next = { ring with
        start := (ring.start + 1) % ring.capacity
        used := ring.used - 1 } := by
  unfold retire? at retired
  split at retired
  · contradiction
  next present =>
    cases retired
    exact ⟨by simpa using present, rfl, rfl⟩

/-- Retirement takes one slot from the window. -/
theorem used_of_retire? {index : Nat}
    (retired : ring.retire? = some (index, next)) : next.used + 1 = ring.used := by
  obtain ⟨present, -, rfl⟩ := retire?_eq_some retired
  simp only [isEmpty, beq_eq_false_iff_ne] at present
  simp only
  omega

/-- A ring with a window retires its oldest slot. -/
theorem exists_retire? (present : ring.isEmpty = false) :
    ∃ index next, ring.retire? = some (index, next) := by
  unfold retire?
  rw [if_neg (by simp [present])]
  exact ⟨_, _, rfl⟩

/-! ## The window -/

theorem mem_window_iff {index : Nat} :
    index ∈ ring.window ↔ ∃ offset < ring.used, (ring.start + offset) % ring.capacity = index := by
  simp [window]

theorem lt_of_mem_window (sound : ring.WellFormed) {index : Nat} (member : index ∈ ring.window) :
    index < ring.capacity := by
  obtain ⟨offset, -, rfl⟩ := mem_window_iff.mp member
  exact Nat.mod_lt _ (Nat.zero_lt_of_lt sound.start_lt)

/-- Different places of a ring have different indices. -/
theorem offset_injective {first second : Nat} (first_lt : first < ring.capacity)
    (second_lt : second < ring.capacity)
    (same : (ring.start + first) % ring.capacity = (ring.start + second) % ring.capacity) :
    first = second :=
  (Nat.ModEq.add_left_cancel' ring.start same).eq_of_lt_of_lt first_lt second_lt

/-- No slot is in the window twice. -/
theorem nodup_window (sound : ring.WellFormed) : ring.window.Nodup := by
  apply List.Nodup.map_on ?_ List.nodup_range
  intro first inFirst second inSecond same
  rw [List.mem_range] at inFirst inSecond
  have used := sound.used_le
  exact offset_injective (by omega) (by omega) same

/-- The slot that is published next is not in the window. -/
theorem stop_notMem_window (sound : ring.WellFormed) (room : ring.isFull = false) :
    ring.stop ∉ ring.window := by
  intro member
  obtain ⟨offset, within, same⟩ := mem_window_iff.mp member
  simp only [isFull, decide_eq_false_iff_not, Nat.not_le] at room
  rw [sound.stop_eq] at same
  have equal := offset_injective (by omega) room same
  omega

/-- The distance between two places of a ring is determined by the places. -/
theorem distance_eq {capacity origin place index : Nat} (origin_lt : origin < capacity)
    (place_lt : place < capacity) (same : (origin + place) % capacity = index) :
    place = (index + capacity - origin) % capacity := by
  subst same
  by_cases wraps : origin + place < capacity
  · have whole : origin + place + capacity - origin = place + capacity := by omega
    rw [Nat.mod_eq_of_lt wraps, whole, Nat.add_mod_right, Nat.mod_eq_of_lt place_lt]
  · have past : (origin + place) % capacity = origin + place - capacity := by
      rw [Nat.mod_eq_sub_mod (by omega), Nat.mod_eq_of_lt (by omega)]
    rw [past, Nat.mod_eq_of_lt (by omega)]
    omega

/-! ## The gap -/

/-- The slot indices outside the window, beginning with the one published next. -/
def gap (ring : Ring Slot) : List Nat :=
  (List.range (ring.capacity - ring.used)).map fun offset => (ring.stop + offset) % ring.capacity

/-- No slot is in the gap twice. -/
theorem nodup_gap : ring.gap.Nodup := by
  apply List.Nodup.map_on ?_ List.nodup_range
  intro first inFirst second inSecond same
  rw [List.mem_range] at inFirst inSecond
  exact (Nat.ModEq.add_left_cancel' ring.stop same).eq_of_lt_of_lt (by omega) (by omega)

/-- No slot is both in the window and in the gap. -/
theorem notMem_window_of_mem_gap (sound : ring.WellFormed) {index : Nat}
    (member : index ∈ ring.gap) : index ∉ ring.window := by
  intro inWindow
  obtain ⟨outer, beyond, rfl⟩ := List.mem_map.mp member
  obtain ⟨inner, within, same⟩ := mem_window_iff.mp inWindow
  rw [List.mem_range] at beyond
  rw [sound.stop_eq, Nat.mod_add_mod, Nat.add_assoc] at same
  have equal := offset_injective (by omega) (by omega) same
  omega

/-- Every slot is either in the window or in the gap. -/
theorem perm_range (sound : ring.WellFormed) :
    (ring.window ++ ring.gap).Perm (List.range ring.capacity) := by
  have distinct : (ring.window ++ ring.gap).Nodup :=
    List.nodup_append'.mpr ⟨nodup_window sound, nodup_gap, fun index inWindow inGap =>
      notMem_window_of_mem_gap sound inGap inWindow⟩
  have within : ring.window ++ ring.gap ⊆ List.range ring.capacity := by
    intro index member
    rw [List.mem_range]
    rcases List.mem_append.mp member with inWindow | inGap
    · exact lt_of_mem_window sound inWindow
    · obtain ⟨offset, -, rfl⟩ := List.mem_map.mp inGap
      exact Nat.mod_lt _ (Nat.zero_lt_of_lt sound.start_lt)
  apply (distinct.subperm within).perm_of_length_le
  have used := sound.used_le
  rw [List.length_range, List.length_append, length_window, gap, List.length_map,
    List.length_range]
  omega

/-- Publication takes the first slot of the gap. -/
theorem gap_publish (sound : ring.WellFormed) (published : ring.publish = .ok next) :
    ring.gap = ring.stop :: next.gap := by
  obtain ⟨room, rfl⟩ := publish_eq_ok published
  simp only [isFull, decide_eq_false_iff_not, Nat.not_le] at room
  obtain ⟨rest, size⟩ : ∃ rest, ring.capacity - ring.used = rest + 1 :=
    ⟨ring.capacity - ring.used - 1, by omega⟩
  have less : ring.capacity - (ring.used + 1) = rest := by omega
  simp only [gap, size, less, List.range_succ_eq_map, List.map_cons, List.map_map, Nat.add_zero,
    Nat.mod_eq_of_lt sound.stop_lt]
  congr 1
  apply List.map_congr_left
  intro offset _
  simp only [Function.comp, Nat.mod_add_mod]
  congr 1
  omega

/-- Retirement puts the oldest slot of the window at the end of the gap. -/
theorem gap_retire {index : Nat} (sound : ring.WellFormed)
    (retired : ring.retire? = some (index, next)) : next.gap = ring.gap ++ [index] := by
  obtain ⟨present, rfl, rfl⟩ := retire?_eq_some retired
  simp only [isEmpty, beq_eq_false_iff_ne] at present
  have used := sound.used_le
  have more : ring.capacity - (ring.used - 1) = ring.capacity - ring.used + 1 := by omega
  have back : (ring.stop + (ring.capacity - ring.used)) % ring.capacity = ring.start := by
    rw [sound.stop_eq, Nat.mod_add_mod]
    have whole : ring.start + ring.used + (ring.capacity - ring.used) =
        ring.start + ring.capacity := by omega
    rw [whole, Nat.add_mod_right, Nat.mod_eq_of_lt sound.start_lt]
  simp only [gap, more, List.range_succ, List.map_append, List.map_cons, List.map_nil, back]

end Ring

end WlanDatapath
