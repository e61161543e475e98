import Mathlib.Data.List.DropRight
import WlanDatapath.Proofs.Rings

/-!
# A ring is a bounded queue of its slots

Whatever is done to a ring, its slots are published in slot order, beginning with the first
one after the ring was made or drained, and retired in the order of publication.  The window
is what was published and not yet retired: two indices and a count keep a queue that holds
at most as many slots as the ring has (`Ring.queues_slots`).

An `Operation` is one call of the owner of a ring, with the answer of others where it needs
one, and `Ring.perform` says what comes of it by the functions of the ring.  Operations that
lend a slot say how it is changed meanwhile.  `Ring.performStrictly?` does the same on a
machine that stops when an index leaves 64 bits or the slots, and never stops.
-/

namespace WlanDatapath.Ring

/-! ## Operations -/

/-- What the owner of a ring can do. -/
inductive Operation (Slot : Type) where
  /-- Ask for the memory of all slots. -/
  | allocate (memory : Memory) (slotSize : Nat)
  /-- Put in the next slot, if memory for it is granted. -/
  | push (slot : Slot) (granted : Bool)
  /-- Borrow the free slot that is published next. -/
  | reserve (change : Slot → Slot)
  | publish
  /-- Retire the oldest slot of the window and borrow it. -/
  | retire (change : Slot → Slot)
  /-- Borrow the slot behind the window, free or not. -/
  | producer (change : Slot → Slot)
  | consumer
  /-- Borrow the slot at an index. -/
  | get (index : Nat) (change : Slot → Slot)
  | position (test : Slot → Bool)
  | drain

/-- The answer to an operation. -/
inductive Answer (Slot : Type) where
  | done
  | refused (failure : Failure)
  /-- The slot that was looked at or lent, as it was before. -/
  | lent (slot : Option Slot)
  /-- The index of the slot that was retired, and the slot as it was before. -/
  | retired (slot : Option (Nat × Slot))
  | found (index : Option Nat)
  | drained (slots : List Slot)
deriving DecidableEq, Repr

/-- The operation had nothing to work on, or was refused. -/
def Answer.isFailure {Slot : Type} : Answer Slot → Bool
  | .refused _ | .lent none | .found none => true
  | .done | .lent (some _) | .retired _ | .found (some _) | .drained _ => false

variable {Slot : Type}

/-- What comes of an operation. -/
def perform (ring : Ring Slot) : Operation Slot → Answer Slot × Ring Slot
  | .allocate memory slotSize =>
      match ring.allocate memory slotSize with
      | .ok () => (.done, ring)
      | .error failure => (.refused failure, ring)
  | .push slot granted =>
      match ring.push slot with
      | .ok next => if granted then (.done, next) else (.refused .outOfMemory, ring)
      | .error failure => (.refused failure, ring)
  | .reserve change =>
      match ring.reserve? with
      | .ok slot => (.lent (some slot), ring.modify ring.stop change)
      | .error failure => (.refused failure, ring)
  | .publish =>
      match ring.publish with
      | .ok next => (.done, next)
      | .error failure => (.refused failure, ring)
  | .retire change =>
      match ring.retire? with
      | some (index, next) =>
          (.retired (next.slots[index]?.map fun slot => (index, slot)), next.modify index change)
      | none => (.retired none, ring)
  | .producer change => (.lent ring.producer?, ring.modify ring.stop change)
  | .consumer => (.lent ring.consumer?, ring)
  | .get index change => (.lent ring.slots[index]?, ring.modify index change)
  | .position test => (.found (ring.position? test), ring)
  | .drain => (.drained ring.drain.1, ring.drain.2)

/-- The ring after operations one after another. -/
def run (ring : Ring Slot) (operations : List (Operation Slot)) : Ring Slot :=
  operations.foldl (fun ring operation => (ring.perform operation).2) ring

/-! ## Machine arithmetic -/

/-- The number after a number, if 64 bits hold it. -/
def increment? (number : Nat) : Option Nat :=
  if number + 1 < 2 ^ 64 then some (number + 1) else none

/-- The number before a number, if there is one. -/
def decrement? : Nat → Option Nat
  | 0 => none
  | number + 1 => some number

/-- What comes of an operation on a machine that stops, without an answer, when an index
leaves 64 bits or when it takes a slot that is not there. -/
def performStrictly? (ring : Ring Slot) : Operation Slot → Option (Answer Slot × Ring Slot)
  | .reserve change =>
      if ring.isFull || !ring.isComplete then some (.refused .queueFull, ring)
      else do
        let slot ← ring.slots[ring.stop]?
        some (.lent (some slot), ring.modify ring.stop change)
  | .publish =>
      if ring.isFull then some (.refused .queueFull, ring)
      else do
        let stop ← increment? ring.stop
        let used ← increment? ring.used
        some (.done, { ring with stop := stop % ring.capacity, used := used })
  | .retire change =>
      if ring.isEmpty then some (.retired none, ring)
      else do
        let start ← increment? ring.start
        let used ← decrement? ring.used
        let next : Ring Slot := { ring with start := start % ring.capacity, used := used }
        some (.retired (next.slots[ring.start]?.map fun slot => (ring.start, slot)),
          next.modify ring.start change)
  | operation => some (ring.perform operation)

/-- The ring after operations one after another on such a machine. -/
def runStrictly? (ring : Ring Slot) (operations : List (Operation Slot)) : Option (Ring Slot) :=
  operations.foldlM (fun ring operation => (ring.performStrictly? operation).map Prod.snd) ring

/-! ## What happened since the ring was drained -/

/-- A ring and the operation that is performed on it. -/
structure Use (Slot : Type) where
  before : Ring Slot
  operation : Operation Slot

namespace Use

/-- The ring is drained. -/
def drains (use : Use Slot) : Bool :=
  match use.operation with
  | .drain => true
  | _ => false

/-- The index of the slot that joins the window. -/
def published? (use : Use Slot) : Option Nat :=
  match use.operation with
  | .publish => if use.before.isFull then none else some use.before.stop
  | _ => none

/-- The index of the slot that leaves the window. -/
def retired? (use : Use Slot) : Option Nat :=
  match use.operation with
  | .retire _ => if use.before.isEmpty then none else some use.before.start
  | _ => none

end Use

/-- The operations one after another, each with the ring before it. -/
def uses (ring : Ring Slot) : List (Operation Slot) → List (Use Slot)
  | [] => []
  | operation :: later => ⟨ring, operation⟩ :: (ring.perform operation).2.uses later

/-- The operations behind the last draining. -/
def sinceDrained (uses : List (Use Slot)) : List (Use Slot) :=
  uses.rtakeWhile fun use => !use.drains

/-- The slots that were published, in order. -/
def published (uses : List (Use Slot)) : List Nat :=
  uses.filterMap Use.published?

/-- The slots that were retired, in order. -/
def retired (uses : List (Use Slot)) : List Nat :=
  uses.filterMap Use.retired?

theorem run_concat (ring : Ring Slot) (operations : List (Operation Slot))
    (operation : Operation Slot) :
    ring.run (operations ++ [operation]) = ((ring.run operations).perform operation).2 := by
  simp [run]

theorem uses_concat (ring : Ring Slot) (operations : List (Operation Slot))
    (operation : Operation Slot) :
    ring.uses (operations ++ [operation]) =
      ring.uses operations ++ [⟨ring.run operations, operation⟩] := by
  induction operations generalizing ring with
  | nil => rfl
  | cons first later hypothesis => simp [uses, hypothesis, run]

/-! ## Moves of the window -/

/-- What an operation does to the window, if anything. -/
inductive Move (ring : Ring Slot) : Operation Slot → Ring Slot → Prop where
  | published {next} (published : ring.publish = .ok next) : Move ring .publish next
  | retired {change index next} (retired : ring.retire? = some (index, next)) :
      Move ring (.retire change) (next.modify index change)
  | drained : Move ring .drain (empty ring.capacity)
  | kept {operation slots} (undrained : (Use.mk ring operation).drains = false)
      (unpublished : (Use.mk ring operation).published? = none)
      (unretired : (Use.mk ring operation).retired? = none)
      (fits : slots.length = ring.slots.length ∨ slots.length ≤ ring.capacity) :
      Move ring operation { ring with slots := slots }

/-- An operation that changes the contents of slots at most. -/
theorem Move.modify {ring : Ring Slot} {operation : Operation Slot} (index : Nat)
    (change : Slot → Slot) (undrained : (Use.mk ring operation).drains = false)
    (unpublished : (Use.mk ring operation).published? = none)
    (unretired : (Use.mk ring operation).retired? = none) :
    Move ring operation (ring.modify index change) :=
  .kept undrained unpublished unretired (Or.inl (List.length_modify ..))

/-- An operation that leaves the ring alone. -/
theorem Move.stay {ring : Ring Slot} {operation : Operation Slot}
    (undrained : (Use.mk ring operation).drains = false)
    (unpublished : (Use.mk ring operation).published? = none)
    (unretired : (Use.mk ring operation).retired? = none) : Move ring operation ring :=
  .kept undrained unpublished unretired (Or.inl rfl)

/-- A slot is only put in where there is room. -/
theorem length_lt_of_push {ring next : Ring Slot} {slot : Slot}
    (pushed : ring.push slot = .ok next) : ring.slots.length < ring.capacity := by
  by_contra full
  rw [push, if_neg full] at pushed
  contradiction

theorem move_perform (ring : Ring Slot) (operation : Operation Slot) :
    Move ring operation (ring.perform operation).2 := by
  cases operation with
  | allocate memory slotSize =>
      rw [perform]
      split <;> exact .stay rfl rfl rfl
  | push slot granted =>
      rw [perform]
      split
      next next pushed =>
        have room := length_lt_of_push pushed
        split
        · rw [push_eq_ok pushed]
          refine .kept rfl rfl rfl (Or.inr ?_)
          rw [List.length_append]
          exact room
        · exact .stay rfl rfl rfl
      next => exact .stay rfl rfl rfl
  | reserve change =>
      rw [perform]
      split
      · exact .modify _ _ rfl rfl rfl
      · exact .stay rfl rfl rfl
  | publish =>
      rw [perform]
      split
      next next published => exact .published published
      next failure refused =>
        refine .stay rfl ?_ rfl
        cases full : ring.isFull with
        | true => simp [Use.published?, full]
        | false =>
            obtain ⟨next, published⟩ := exists_publish full
            rw [published] at refused
            contradiction
  | retire change =>
      rw [perform]
      split
      next index next retired => exact .retired retired
      next nothing =>
        refine .stay rfl rfl ?_
        cases vacant : ring.isEmpty with
        | true => simp [Use.retired?, vacant]
        | false =>
            obtain ⟨index, next, retired⟩ := exists_retire? vacant
            rw [retired] at nothing
            contradiction
  | producer change => exact .modify _ _ rfl rfl rfl
  | get index change => exact .modify _ _ rfl rfl rfl
  | consumer | position test => exact .stay rfl rfl rfl
  | drain => exact .drained

/-! ## Order -/

/-- The slots published so far come in slot order, and those not yet retired are the
window. -/
structure Ordered (ring : Ring Slot) (uses : List (Use Slot)) : Prop where
  sound : ring.WellFormed
  published : published uses = (List.range (published uses).length).map (· % ring.capacity)
  stop : ring.stop = (Ring.published uses).length % ring.capacity
  split : Ring.published uses = retired uses ++ ring.window

theorem ordered_empty {capacity : Nat} (positive : 0 < capacity) :
    Ordered (empty capacity : Ring Slot) [] where
  sound := .empty positive
  published := rfl
  stop := (Nat.zero_mod _).symm
  split := rfl

section Since

variable {past : List (Use Slot)} {use : Use Slot}

theorem sinceDrained_of_drains (drains : use.drains = true) :
    sinceDrained (past ++ [use]) = [] :=
  List.rtakeWhile_concat_neg _ _ _ (by simp [drains])

theorem sinceDrained_concat (undrained : use.drains = false) :
    sinceDrained (past ++ [use]) = sinceDrained past ++ [use] :=
  List.rtakeWhile_concat_pos _ _ _ (by simp [undrained])

theorem published_concat (uses : List (Use Slot)) :
    published (uses ++ [use]) = published uses ++ use.published?.toList := by
  cases place : use.published? <;> simp [published, place]

theorem retired_concat (uses : List (Use Slot)) :
    retired (uses ++ [use]) = retired uses ++ use.retired?.toList := by
  cases place : use.retired? <;> simp [retired, place]

end Since

/-- Every operation keeps the order. -/
theorem Ordered.after {ring : Ring Slot} {past : List (Use Slot)}
    (ordered : Ordered ring (sinceDrained past)) (operation : Operation Slot) :
    Ordered (ring.perform operation).2 (sinceDrained (past ++ [⟨ring, operation⟩])) := by
  obtain ⟨sound, order, stop, split⟩ := ordered
  have move := ring.move_perform operation
  generalize (ring.perform operation).2 = after at move
  cases move with
  | drained =>
      rw [sinceDrained_of_drains rfl]
      exact ordered_empty (Nat.zero_lt_of_lt sound.start_lt)
  | @published next published =>
      have window := window_publish sound published
      have kept := sound.publish published
      obtain ⟨room, same⟩ := publish_eq_ok published
      have joins : (Use.mk ring .publish).published? = some ring.stop := by
        simp [Use.published?, room]
      rw [sinceDrained_concat rfl]
      refine ⟨kept, ?_, ?_, ?_⟩
      · rw [published_concat, joins, Option.toList_some, List.length_append, List.length_singleton,
          List.range_succ, List.map_append, List.map_singleton, same]
        rw [← order, ← stop]
      · rw [published_concat, joins, same, Option.toList_some, List.length_append, stop]
        exact Nat.mod_add_mod _ _ _
      · rw [published_concat, retired_concat, joins, window, split]
        simp [Use.retired?]
  | @retired change index next retired =>
      have window := window_retire sound retired
      have kept := sound.retire retired
      obtain ⟨present, rfl, same⟩ := retire?_eq_some retired
      have leaves : (Use.mk ring (.retire change)).retired? = some ring.start := by
        simp [Use.retired?, present]
      have still : (Use.mk ring (.retire change)).published? = none := rfl
      rw [sinceDrained_concat rfl]
      refine ⟨kept.modify _ _, ?_, ?_, ?_⟩
      · rw [published_concat, still, Option.toList_none, List.append_nil, same]
        exact order
      · rw [published_concat, still, Option.toList_none, List.append_nil, same]
        exact stop
      · rw [published_concat, retired_concat, still, leaves, Option.toList_none, List.append_nil,
          split, window]
        simp [Ring.modify, Ring.window]
  | kept undrained unpublished unretired fits =>
      rw [sinceDrained_concat undrained]
      refine ⟨?_, ?_, ?_, ?_⟩
      · have before := sound.slots_le
        exact ⟨sound.start_lt, sound.used_le, sound.stop_eq, by
          simp only
          omega⟩
      · rw [published_concat, unpublished, Option.toList_none, List.append_nil]
        exact order
      · rw [published_concat, unpublished, Option.toList_none, List.append_nil]
        exact stop
      · rw [published_concat, retired_concat, unpublished, unretired]
        simp only [Option.toList_none, List.append_nil]
        exact split

theorem capacity_perform (ring : Ring Slot) (operation : Operation Slot) :
    (ring.perform operation).2.capacity = ring.capacity := by
  have move := ring.move_perform operation
  generalize (ring.perform operation).2 = after at move
  cases move with
  | published published => rw [(publish_eq_ok published).2]
  | retired retired => rw [Ring.modify, (retire?_eq_some retired).2.2]
  | drained | kept => rfl

theorem capacity_run (ring : Ring Slot) (operations : List (Operation Slot)) :
    (ring.run operations).capacity = ring.capacity := by
  induction operations using List.reverseRecOn with
  | nil => rfl
  | append_singleton operations operation hypothesis =>
      rw [run_concat, capacity_perform, hypothesis]

/-- The slots of a ring are in order, whatever is done to it. -/
theorem ordered_run {capacity : Nat} (positive : 0 < capacity)
    (operations : List (Operation Slot)) :
    Ordered ((empty capacity : Ring Slot).run operations)
      (sinceDrained ((empty capacity).uses operations)) := by
  induction operations using List.reverseRecOn with
  | nil => exact ordered_empty positive
  | append_singleton operations operation hypothesis =>
      rw [run_concat, uses_concat]
      exact hypothesis.after operation

/-- Since slots are retired in the order of publication, they are retired in slot order. -/
theorem Ordered.retired_eq {ring : Ring Slot} {uses : List (Use Slot)}
    (ordered : Ordered ring uses) :
    retired uses = (List.range (retired uses).length).map (· % ring.capacity) := by
  have front := congrArg (List.take (retired uses).length) ordered.split
  rw [List.take_left, ordered.published, ← List.map_take, List.take_range] at front
  have fewer := congrArg List.length ordered.split
  rw [List.length_append] at fewer
  rw [Nat.min_eq_left (by omega)] at front
  exact front.symm

/-! ## Machine arithmetic -/

/-- A machine with 64 bits never stops. -/
theorem performStrictly?_eq {ring : Ring Slot} (sound : ring.WellFormed)
    (word : ring.capacity < 2 ^ 64) (operation : Operation Slot) :
    ring.performStrictly? operation = some (ring.perform operation) := by
  have successor : ∀ number < ring.capacity, increment? number = some (number + 1) := by
    intro number below
    exact if_pos (by omega)
  cases operation with
  | reserve change =>
      rw [performStrictly?, perform, reserve?]
      split
      · rfl
      next free =>
        simp only [isComplete, Bool.or_eq_true, Bool.not_eq_true', not_or, Bool.not_eq_false,
          beq_iff_eq] at free
        have inRange : ring.stop < ring.slots.length := free.2 ▸ sound.stop_lt
        have found : ring.producer? = some ring.slots[ring.stop] :=
          List.getElem?_eq_getElem inRange
        have same : ring.slots[ring.stop]? = some ring.slots[ring.stop] := found
        simp only [found, same]
        rfl
  | publish =>
      rw [performStrictly?, perform, publish]
      split
      · rfl
      next room =>
        simp only [isFull, decide_eq_true_eq, Nat.not_le] at room
        rw [successor _ sound.stop_lt, successor _ room]
        rfl
  | retire change =>
      rw [performStrictly?, perform, retire?]
      split
      · rfl
      next present =>
        simp only [isEmpty, beq_iff_eq] at present
        have predecessor : decrement? ring.used = some (ring.used - 1) := by
          cases count : ring.used with
          | zero => exact absurd count present
          | succ rest => rfl
        rw [successor _ sound.start_lt, predecessor]
        rfl
  | allocate | push | producer | consumer | get | position | drain => rfl

theorem runStrictly?_eq {capacity : Nat} (positive : 0 < capacity) (word : capacity < 2 ^ 64)
    (operations : List (Operation Slot)) :
    (empty capacity : Ring Slot).runStrictly? operations =
      some ((empty capacity).run operations) := by
  induction operations using List.reverseRecOn with
  | nil => rfl
  | append_singleton operations operation hypothesis =>
      have sound : ((empty capacity : Ring Slot).run operations).WellFormed :=
        (ordered_run positive operations).sound
      have bits : ((empty capacity : Ring Slot).run operations).capacity < 2 ^ 64 := by
        rw [capacity_run]
        exact word
      rw [runStrictly?] at hypothesis ⊢
      rw [List.foldlM_append, hypothesis, run_concat]
      simp [performStrictly?_eq sound bits]

/-! ## What an operation leaves alone -/

/-- The slot that an operation lends, with the change that is made to it. -/
def lent? (ring : Ring Slot) : Operation Slot → Option (Nat × (Slot → Slot))
  | .reserve change => if ring.isFull then none else some (ring.stop, change)
  | .retire change => if ring.isEmpty then none else some (ring.start, change)
  | .producer change => some (ring.stop, change)
  | .get index change => some (index, change)
  | .allocate _ _ | .push _ _ | .publish | .consumer | .position _ | .drain => none

/-- Why an operation leaves other contents at an index. -/
inductive Rewrites (ring : Ring Slot) : Operation Slot → Nat → Option Slot → Prop where
  /-- The slot was just put in. -/
  | pushed {slot} (room : ring.slots.length < ring.capacity) :
      Rewrites ring (.push slot true) ring.slots.length (some slot)
  /-- The slot was changed while it was lent. -/
  | written {operation index change slot} (lent : ring.lent? operation = some (index, change))
      (found : ring.slots[index]? = some slot) :
      Rewrites ring operation index (some (change slot))
  /-- The slot was taken out. -/
  | drained {index} : Rewrites ring .drain index none

section Unchanged

variable {ring : Ring Slot}

theorem getElem?_modify (place : Nat) (change : Slot → Slot) (index : Nat) :
    (ring.modify place change).slots[index]? =
      if place = index then ring.slots[index]?.map change else ring.slots[index]? := by
  rw [modify, List.getElem?_modify]
  split <;> simp

/-- A slot that is not there cannot be changed. -/
theorem modify_of_none {index : Nat} (change : Slot → Slot) (missing : ring.slots[index]? = none) :
    ring.modify index change = ring := by
  rw [modify, List.modify_eq_self (List.getElem?_eq_none_iff.mp missing)]

theorem Rewrites.of_modify {operation : Operation Slot} {place index : Nat} {change : Slot → Slot}
    (lent : ring.lent? operation = some (place, change))
    (changed : (ring.modify place change).slots[index]? ≠ ring.slots[index]?) :
    Rewrites ring operation index (ring.modify place change).slots[index]? := by
  rw [getElem?_modify] at changed ⊢
  split
  next here =>
    subst here
    cases found : ring.slots[place]? with
    | none => simp [found] at changed
    | some slot => exact .written lent found
  next apart => exact absurd (if_neg apart) changed

theorem reserve?_eq_ok {slot : Slot} (reserved : ring.reserve? = .ok slot) :
    ring.isFull = false ∧ ring.isComplete = true ∧ ring.slots[ring.stop]? = some slot := by
  unfold reserve? at reserved
  split at reserved
  · contradiction
  next free =>
    simp only [Bool.or_eq_true, Bool.not_eq_true', not_or, Bool.not_eq_true,
      Bool.not_eq_false] at free
    split at reserved
    next found =>
      cases reserved
      exact ⟨free.1, free.2, found⟩
    next => contradiction

/-- Slots are only changed by putting them in or out, and while they are lent. -/
theorem rewrites_of_ne {operation : Operation Slot} {index : Nat}
    (changed : (ring.perform operation).2.slots[index]? ≠ ring.slots[index]?) :
    Rewrites ring operation index (ring.perform operation).2.slots[index]? := by
  cases operation with
  | allocate memory slotSize =>
      rw [perform] at changed
      split at changed <;> exact absurd rfl changed
  | push slot granted =>
      rw [perform] at changed ⊢
      split at changed
      next next pushed =>
        have room := length_lt_of_push pushed
        cases granted with
        | false => exact absurd rfl changed
        | true =>
            rw [push_eq_ok pushed] at changed ⊢
            have last : index = ring.slots.length := by
              by_contra other
              apply changed
              show (ring.slots ++ [slot])[index]? = ring.slots[index]?
              rcases Nat.lt_or_gt_of_ne other with below | above
              · exact List.getElem?_append_left below
              · rw [List.getElem?_eq_none (Nat.le_of_lt above), List.getElem?_eq_none]
                rw [List.length_append]
                exact above
            subst last
            have put : (ring.extend [slot]).slots[ring.slots.length]? = some slot :=
              List.getElem?_concat_length
            simp only [if_true, put]
            exact .pushed room
      next => exact absurd rfl changed
  | reserve change =>
      rw [perform] at changed ⊢
      split at changed
      next slot reserved =>
        obtain ⟨room, -, -⟩ := reserve?_eq_ok reserved
        exact .of_modify (by simp [lent?, room]) changed
      next => exact absurd rfl changed
  | publish =>
      rw [perform] at changed
      split at changed
      next next published =>
        rw [(publish_eq_ok published).2] at changed
        exact absurd rfl changed
      next => exact absurd rfl changed
  | retire change =>
      rw [perform] at changed ⊢
      split at changed
      next index next retired =>
        obtain ⟨present, rfl, rfl⟩ := retire?_eq_some retired
        exact .of_modify (by simp [lent?, present]) changed
      next => exact absurd rfl changed
  | producer change => exact .of_modify rfl changed
  | get place change => exact .of_modify rfl changed
  | consumer | position test => exact absurd rfl changed
  | drain => exact .drained

/-- An operation that fails leaves the ring as it was. -/
theorem perform_of_isFailure {operation : Operation Slot}
    (failed : (ring.perform operation).1.isFailure = true) :
    (ring.perform operation).2 = ring := by
  cases operation with
  | allocate memory slotSize =>
      rw [perform] at failed ⊢
      split <;> rfl
  | push slot granted =>
      rw [perform] at failed ⊢
      split at failed
      next next pushed =>
        cases granted with
        | false => rfl
        | true => contradiction
      next => rfl
  | reserve change =>
      rw [perform] at failed ⊢
      split at failed
      · contradiction
      · rfl
  | publish =>
      rw [perform] at failed ⊢
      split at failed
      · contradiction
      · rfl
  | retire change =>
      rw [perform] at failed
      split at failed <;> contradiction
  | producer change =>
      apply modify_of_none
      cases missing : ring.slots[ring.stop]? with
      | none => rfl
      | some slot => simp [perform, producer?, missing, Answer.isFailure] at failed
  | get index change =>
      apply modify_of_none
      cases missing : ring.slots[index]? with
      | none => rfl
      | some slot => simp [perform, missing, Answer.isFailure] at failed
  | consumer | position test => rfl
  | drain => contradiction

/-- Publication is refused exactly when no slot lies outside the window. -/
theorem perform_publish (sound : ring.WellFormed) :
    (ring.perform .publish).1 =
      if ring.used = ring.capacity then .refused .queueFull else .done := by
  have within := sound.used_le
  by_cases full : ring.used = ring.capacity
  · simp [perform, publish, isFull, full]
  · have room : ¬ ring.capacity ≤ ring.used := by omega
    simp [perform, publish, isFull, full, room]

/-- Retirement answers with the slot at the front of the window, if it is there. -/
theorem perform_retire (present : ring.used ≠ 0) (change : Slot → Slot) :
    (ring.perform (.retire change)).1 =
      .retired (ring.slots[ring.start]?.map fun slot => (ring.start, slot)) := by
  simp [perform, retire?, isEmpty, present]

/-- Retirement leaves a ring as it was exactly when its window is empty. -/
theorem perform_retire_eq_self_iff (change : Slot → Slot) :
    (ring.perform (.retire change)).2 = ring ↔ ring.used = 0 := by
  constructor
  · intro same
    by_contra present
    have nonempty : ring.isEmpty = false := by simpa [isEmpty] using present
    obtain ⟨index, next, retired⟩ := exists_retire? nonempty
    have fewer := used_of_retire? retired
    have used := congrArg Ring.used same
    simp only [perform, retired, modify] at used
    omega
  · intro none
    simp [perform, retire?, isEmpty, none]

end Unchanged

/-! ## The queue -/

/-- A ring is a bounded queue of its slots.  For every number of slots that 64 bits hold and
whatever is done to the ring, its indices and its count describe one window, and a machine
with 64 bits computes them without leaving its range.  Since the ring was drained, slots were
published in slot order and retired in slot order, around the end again and again, and the
window holds those that were published and not yet retired, so that the first one published
is the first one retired.  Publication fails exactly when every slot is in the window, and
retirement does nothing exactly when none is.  The slot that is lent for the next publication
is not in the window.  An operation that fails changes nothing, and slots are changed only by
putting them in, by taking all of them out and by whoever borrows them. -/
theorem queues_slots (capacity : Nat) (positive : 0 < capacity) (word : capacity < 2 ^ 64)
    (operations : List (Operation Slot)) :
    let ring : Ring Slot := (empty capacity).run operations
    let uses := sinceDrained ((empty capacity).uses operations)
    new? capacity = .ok (empty capacity : Ring Slot) ∧
      (ring.capacity = capacity ∧ ring.start < capacity ∧ ring.stop < capacity ∧
        ring.used ≤ capacity ∧ ring.stop = (ring.start + ring.used) % capacity ∧
        ring.slots.length ≤ capacity) ∧
      (empty capacity).runStrictly? operations = some ring ∧
      published uses = (List.range (published uses).length).map (· % capacity) ∧
      retired uses = (List.range (retired uses).length).map (· % capacity) ∧
      published uses = retired uses ++ ring.window ∧
      (ring.perform .publish).1 =
        (if ring.used = capacity then .refused .queueFull else .done) ∧
      (∀ change, ring.used ≠ 0 → (ring.perform (.retire change)).1 =
        .retired (ring.slots[ring.start]?.map fun slot => (ring.start, slot))) ∧
      (∀ change, (ring.perform (.retire change)).2 = ring ↔ ring.used = 0) ∧
      (∀ change slot, (ring.perform (.reserve change)).1 = .lent (some slot) →
        ring.slots[ring.stop]? = some slot ∧ ring.stop ∉ ring.window) ∧
      (∀ operation, (ring.perform operation).1.isFailure = true →
        (ring.perform operation).2 = ring) ∧
      ∀ operation index,
        (ring.perform operation).2.slots[index]? ≠ ring.slots[index]? →
          ring.Rewrites operation index (ring.perform operation).2.slots[index]? := by
  intro ring uses
  have ordered : Ordered ring uses := ordered_run positive operations
  have same : ring.capacity = capacity := capacity_run _ _
  have sound := ordered.sound
  have indices : ring.start < ring.capacity ∧ ring.stop < ring.capacity ∧
      ring.used ≤ ring.capacity ∧ ring.stop = (ring.start + ring.used) % ring.capacity ∧
      ring.slots.length ≤ ring.capacity :=
    ⟨sound.start_lt, sound.stop_lt, sound.used_le, sound.stop_eq, sound.slots_le⟩
  have publication := perform_publish sound
  have inOrder := ordered.published
  have retirement := ordered.retired_eq
  rw [same] at indices publication inOrder retirement
  refine ⟨if_neg (Nat.ne_of_gt positive), ⟨same, indices⟩, runStrictly?_eq positive word operations,
    inOrder, retirement, ordered.split, publication, fun change present =>
      perform_retire present change, perform_retire_eq_self_iff, ?_,
    fun _ => perform_of_isFailure, fun _ _ => rewrites_of_ne⟩
  intro change slot lent
  rw [perform] at lent
  split at lent
  next reserved =>
    cases lent
    obtain ⟨room, -, found⟩ := reserve?_eq_ok reserved
    exact ⟨found, stop_notMem_window sound room⟩
  next => contradiction

/-- A ring with two slots that goes around twice, after it was used with one slot and
drained. -/
theorem queues_slots_around :
    let operations : List (Operation Nat) :=
      [.push 7 true, .publish, .publish, .retire id, .retire (· + 1), .drain, .push 10 true,
        .push 20 true, .publish, .publish, .publish, .retire (· + 1), .publish, .retire id,
        .reserve (· + 5)]
    let ring : Ring Nat := (empty 2).run operations
    let uses := sinceDrained ((empty 2).uses operations)
    0 < 2 ∧ 2 < 2 ^ 64 ∧ ring = ⟨2, [11, 25], 0, 1, 1⟩ ∧
      published uses = [0, 1, 0] ∧ retired uses = [0, 1] ∧
      published uses = (List.range (published uses).length).map (· % 2) ∧
      published uses = retired uses ++ ring.window := by
  intro operations ring uses
  have facts : ring = ⟨2, [11, 25], 0, 1, 1⟩ ∧ published uses = [0, 1, 0] ∧
      retired uses = [0, 1] := by
    decide
  obtain ⟨around, joined, left⟩ := facts
  obtain ⟨-, -, -, inOrder, -, split, -⟩ := queues_slots 2 (by decide) (by decide) operations
  exact ⟨by decide, by decide, around, joined, left, inOrder, split⟩

end WlanDatapath.Ring
