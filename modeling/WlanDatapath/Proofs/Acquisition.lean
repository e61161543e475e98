import Mathlib.Algebra.BigOperators.Fin
import WlanDatapath.Proofs.Acts
import WlanDatapath.Proofs.Rings

/-!
# What bringing up acquires

However far the acquisition gets, it only puts slots behind those that the rings
have: `Engine.Acquired` lists them.  `Engine.acquire_accounted` adds where their
handles come from.  They are a prefix of those that the transport issues, each
of them is in exactly one slot, and nothing else is done, provided that the
rings have room for everything that is needed.
-/

namespace WlanDatapath

namespace Engine

/-! ## Engines with further slots -/

/-- An engine is another one with further slots behind those in place. -/
structure Acquired (before after : Engine) (slots : List ReceiveSlot)
    (handles : Lane → List Handle) : Prop where
  receive : after.receive = before.receive.extend slots
  transmit : ∀ lane : Lane,
    after.transmit.get lane = (before.transmit.get lane).extend (handles lane)
  others : after = { before with receive := after.receive, transmit := after.transmit }
  filled : ∀ slot ∈ slots, slot.buffer.isSome = true

namespace Acquired

theorem refl (engine : Engine) : Acquired engine engine [] fun _ => [] where
  receive := by simp
  transmit := by simp
  others := rfl
  filled := by simp

theorem trans {first second third : Engine} {slots further : List ReceiveSlot}
    {handles more : Lane → List Handle} (early : Acquired first second slots handles)
    (late : Acquired second third further more) :
    Acquired first third (slots ++ further) fun lane => handles lane ++ more lane where
  receive := by rw [late.receive, early.receive, Ring.extend_extend]
  transmit := by
    intro lane
    rw [late.transmit, early.transmit, Ring.extend_extend]
  others := by
    rw [late.others, early.others]
  filled := by
    intro slot member
    rcases List.mem_append.mp member with inSlots | inFurther
    · exact early.filled slot inSlots
    · exact late.filled slot inFurther

theorem addTransmitSlot {engine next : Engine} {lane : Lane} {handle : Handle}
    (added : engine.addTransmitSlot lane handle = .ok next) :
    Acquired engine next [] fun other => if other = lane then [handle] else [] := by
  unfold Engine.addTransmitSlot at added
  split at added
  next ring pushed =>
    cases added
    refine ⟨by simp, ?_, rfl, by simp⟩
    intro other
    rw [Lane.get_set]
    by_cases same : lane = other
    · subst same
      simp [Ring.push_eq_ok pushed]
    · simp [same, Ne.symm same]
  next => contradiction

theorem addReceiveSlot {engine next : Engine} {handle : Handle} {buffer : Buffer}
    (added : engine.addReceiveSlot handle buffer = .ok next) :
    Acquired engine next [{ handle := handle, buffer := some buffer }] fun _ => [] := by
  unfold Engine.addReceiveSlot at added
  split at added
  next ring pushed =>
    cases added
    exact ⟨Ring.push_eq_ok pushed, by simp, rfl, by simp⟩
  next => contradiction

end Acquired

/-! ## Accounts of the acquisition -/

end Engine

/-- The thing to acquire is a receive slot. -/
def Acquisition.isReceiveSlot : Acquisition → Bool
  | .receiveSlot _ => true
  | .transmitStorage _ | .transmitHandle _ | .receiveStorage => false

namespace Engine

/-- The rings have room for everything that is needed. -/
structure Room (engine : Engine) (needed : List Acquisition) : Prop where
  transmit : ∀ lane : Lane,
    (engine.transmit.get lane).slots.length + needed.count (.transmitHandle lane) ≤
      (engine.transmit.get lane).capacity
  receive : engine.receive.slots.length + needed.countP Acquisition.isReceiveSlot ≤
    engine.receive.capacity

/-- How an acquisition that led to `result` accounts for what it took. -/
structure Accounted (engine : Engine) (supply : Supply) (needed : List Acquisition)
    (result : Engine × List Effect × Option Failure) (slots : List ReceiveSlot)
    (handles : Lane → List Handle) : Prop where
  /-- The rings got the slots. -/
  acquired : Acquired engine result.1 slots handles
  /-- Handles are issued in the order of the supply. -/
  taken : issued result.2.1 <+: supply.handles
  /-- Nothing is acquired that is not needed. -/
  within : slots.length ≤ needed.countP Acquisition.isReceiveSlot ∧
    ∀ lane, (handles lane).length ≤ needed.count (.transmitHandle lane)
  /-- Without a failure nothing is missing. -/
  complete : result.2.2 = none →
    slots.length = needed.countP Acquisition.isReceiveSlot ∧
      ∀ lane, (handles lane).length = needed.count (.transmitHandle lane)
  /-- With room for all, no handle is given back. -/
  kept : Room engine needed → freed result.2.1 = []
  /-- With room for all, each handle issued is in one slot. -/
  balanced : Room engine needed → ∀ handle,
    (issued result.2.1).count handle =
      (slots.map (·.handle)).count handle + ∑ lane, (handles lane).count handle

namespace Accounted

variable {engine : Engine} {supply : Supply} {first : Acquisition} {later : List Acquisition}

/-- Nothing was acquired, and nothing was to be acquired. -/
theorem nil : Accounted engine supply [] (engine, [], none) [] fun _ => [] where
  acquired := .refl engine
  taken := List.nil_prefix
  within := by simp
  complete := by simp
  kept := by simp
  balanced := by simp

/-- The acquisition failed before it took anything. -/
theorem failed {needed : List Acquisition} {effects : List Effect} (failure : Failure)
    (silent : ∀ effect ∈ effects, effect = .allocate none) :
    Accounted engine supply needed (engine, effects, some failure) [] fun _ => [] := by
  have nothingIssued : issued effects = [] := by
    rw [issued, List.filterMap_eq_nil_iff]
    intro effect member
    rw [silent effect member]
    rfl
  have nothingFreed : freed effects = [] := by
    rw [freed, List.filterMap_eq_nil_iff]
    intro effect member
    rw [silent effect member]
    rfl
  refine ⟨.refl engine, ?_, by simp, by simp, fun _ => nothingFreed, ?_⟩
  · rw [nothingIssued]
    exact List.nil_prefix
  · intro _ handle
    rw [nothingIssued]
    simp

/-- A storage was granted; the rest follows. -/
theorem storage {result : Engine × List Effect × Option Failure} {slots : List ReceiveSlot}
    {handles : Lane → List Handle} (rest : Accounted engine supply later result slots handles)
    (noSlot : first.isReceiveSlot = false) (noHandle : ∀ lane, first ≠ .transmitHandle lane) :
    Accounted engine supply (first :: later) result slots handles := by
  have noMore : ∀ lane : Lane,
      (first :: later).count (.transmitHandle lane) = later.count (.transmitHandle lane) :=
    fun lane => List.count_cons_of_ne (noHandle lane)
  have noMoreSlots : (first :: later).countP Acquisition.isReceiveSlot =
      later.countP Acquisition.isReceiveSlot :=
    List.countP_cons_of_neg (by simp [noSlot])
  have room : Room engine (first :: later) → Room engine later := by
    intro whole
    exact ⟨fun lane => noMore lane ▸ whole.transmit lane, noMoreSlots ▸ whole.receive⟩
  refine ⟨rest.acquired, rest.taken, ?_, ?_, rest.kept ∘ room, rest.balanced ∘ room⟩
  · exact ⟨noMoreSlots ▸ rest.within.1, fun lane => noMore lane ▸ rest.within.2 lane⟩
  intro succeeded
  obtain ⟨slotCount, handleCount⟩ := rest.complete succeeded
  exact ⟨slotCount.trans noMoreSlots.symm, fun lane => (handleCount lane).trans (noMore lane).symm⟩

/-- A handle was issued and found no slot. -/
theorem overflowed {handle : Handle} {others : List Handle} {failure : Failure}
    (supplied : supply.handles = handle :: others)
    (full : ¬ Room engine (first :: later)) :
    Accounted engine supply (first :: later)
      (engine, [.allocate (some handle), .free handle], some failure) [] fun _ => [] where
  acquired := .refl engine
  taken := ⟨others, supplied.symm⟩
  within := by simp
  complete := by simp
  kept := fun room => (full room).elim
  balanced := fun room => (full room).elim

/-- A handle was issued and put into a slot; the rest follows. -/
theorem stored {next : Engine} {handle : Handle} {others : List Handle}
    {result : Engine × List Effect × Option Failure} {slots further : List ReceiveSlot}
    {handles more : Lane → List Handle} (supplied : supply.handles = handle :: others)
    (added : Acquired engine next slots handles)
    (slotCount : slots.length = if first.isReceiveSlot then 1 else 0)
    (handleCount : ∀ lane, (handles lane).length = if first == .transmitHandle lane then 1 else 0)
    (one : ∀ other, [handle].count other =
      (slots.map (·.handle)).count other + ∑ lane, (handles lane).count other)
    (rest : Accounted next { supply with handles := others } later result further more) :
    Accounted engine supply (first :: later)
      (result.1, .allocate (some handle) :: result.2.1, result.2.2) (slots ++ further)
      fun lane => handles lane ++ more lane := by
  have issuedFirst : issued (.allocate (some handle) :: result.2.1) =
      handle :: issued result.2.1 := rfl
  have room : Room engine (first :: later) → Room next later := by
    intro whole
    constructor
    · intro lane
      have bound := whole.transmit lane
      rw [List.count_cons] at bound
      rw [added.transmit lane]
      simp only [Ring.extend, List.length_append, handleCount lane]
      omega
    · have bound := whole.receive
      rw [List.countP_cons] at bound
      rw [added.receive]
      simp only [Ring.extend, List.length_append, slotCount]
      omega
  refine ⟨added.trans rest.acquired, ?_, ?_, ?_, ?_, ?_⟩
  · rw [issuedFirst, supplied, List.cons_prefix_cons]
    exact ⟨rfl, rest.taken⟩
  · constructor
    · have bound := rest.within.1
      rw [List.length_append, List.countP_cons, slotCount]
      omega
    · intro lane
      have bound := rest.within.2 lane
      rw [List.length_append, List.count_cons, handleCount]
      omega
  · intro succeeded
    obtain ⟨furtherCount, moreCount⟩ := rest.complete succeeded
    constructor
    · rw [List.length_append, List.countP_cons, slotCount, furtherCount, Nat.add_comm]
    · intro lane
      rw [List.length_append, List.count_cons, handleCount, moreCount, Nat.add_comm]
  · intro whole
    exact rest.kept (room whole)
  · intro whole other
    have early := one other
    have late := rest.balanced (room whole) other
    rw [issuedFirst, List.map_append, List.count_append, ← List.singleton_append,
      List.count_append, early, late]
    simp only [List.count_append, Finset.sum_add_distrib]
    omega

end Accounted

/-- An acquisition takes handles from the front of the supply, and what it took
is in the rings. -/
theorem acquire_accounted (engine : Engine) (supply : Supply) (needed : List Acquisition) :
    ∃ slots handles,
      Accounted engine supply needed (engine.acquire supply needed) slots handles := by
  induction needed generalizing engine supply with
  | nil => exact ⟨[], fun _ => [], .nil⟩
  | cons first later hypothesis =>
      cases first with
      | transmitStorage lane | receiveStorage =>
          simp only [acquire]
          split
          · obtain ⟨slots, handles, rest⟩ := hypothesis engine supply
            exact ⟨slots, handles, rest.storage rfl (by simp)⟩
          · exact ⟨[], fun _ => [], .failed _ (by simp)⟩
      | transmitHandle lane =>
          simp only [acquire]
          split
          next => exact ⟨[], fun _ => [], .failed _ (by simp)⟩
          next handle others supplied =>
            split
            next next added =>
              obtain ⟨slots, handles, rest⟩ := hypothesis next { supply with handles := others }
              refine ⟨_, _, .stored supplied (.addTransmitSlot added) rfl ?_ ?_ rest⟩
              · intro other
                by_cases same : other = lane
                · simp [same]
                · have apart : lane ≠ other := fun equal => same equal.symm
                  simp [same, apart]
              · intro other
                simp [apply_ite (List.count other), Finset.sum_ite_eq']
            next failure released refused =>
              unfold addTransmitSlot at refused
              split at refused
              · contradiction
              next failure pushed =>
                cases refused
                refine ⟨_, _, .overflowed supplied ?_⟩
                intro room
                have bound := room.transmit lane
                rw [List.count_cons_self] at bound
                rw [Ring.push_of_room handle (by omega)] at pushed
                contradiction
      | receiveSlot index =>
          simp only [acquire]
          split
          · split
            next => exact ⟨[], fun _ => [], .failed _ (by simp)⟩
            next handle others supplied =>
              split
              next next added =>
                obtain ⟨slots, handles, rest⟩ :=
                  hypothesis next { supply with handles := others }
                refine ⟨_, _, .stored supplied (.addReceiveSlot added) rfl (by simp) ?_ rest⟩
                intro other
                simp
              next failure released refused =>
                unfold addReceiveSlot at refused
                split at refused
                · contradiction
                next failure pushed =>
                  cases refused
                  refine ⟨_, _, .overflowed supplied ?_⟩
                  intro room
                  have bound := room.receive
                  rw [List.countP_cons_of_pos rfl] at bound
                  rw [Ring.push_of_room _ (by omega)] at pushed
                  contradiction
          · exact ⟨[], fun _ => [], .failed _ (by simp)⟩

/-- Acquiring leaves the device alone. -/
theorem device_acquire (engine : Engine) (supply : Supply) (needed : List Acquisition) :
    (engine.acquire supply needed).1.device = engine.device := by
  obtain ⟨slots, handles, accounted⟩ := engine.acquire_accounted supply needed
  rw [accounted.acquired.others]

end Engine

/-! ## Everything that is needed -/

/-- Every receive slot is among what is acquired. -/
theorem countP_acquisitions : acquisitions.countP Acquisition.isReceiveSlot = receiveSlots := by
  decide +kernel

/-- Every slot of an output endpoint is among what is acquired. -/
theorem count_acquisitions (lane : Lane) :
    acquisitions.count (.transmitHandle lane) = transmitSlots := by
  revert lane
  decide +kernel

end WlanDatapath
