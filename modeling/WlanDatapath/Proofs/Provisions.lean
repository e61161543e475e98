import WlanDatapath.Proofs.Acquisition

/-!
# What a supply suffices for

Each thing to acquire needs memory, a handle or both.  A supply suffices for several of them
if it grants the memory for each and has as many handles as they need together
(`Supply.Suffices`), so that it suffices for all, or for some of the first ones and not for
the next one (`Supply.exists_shortage`).

An acquisition gets exactly as far: `Engine.acquire_append` says what is left to do behind
everything that the supply suffices for, and `Engine.acquire_short` how it ends at the first
thing for which it does not.  The handles are dealt in order, so that the receive slots get
those behind the handles for transmission (`Engine.acquire_receiveSlots`).
-/

namespace WlanDatapath

namespace Acquisition

/-- A handle is needed. -/
def needsHandle : Acquisition → Bool
  | .transmitHandle _ | .receiveSlot _ => true
  | .transmitStorage _ | .receiveStorage => false

/-- Memory is needed. -/
def needsMemory : Acquisition → Bool
  | .transmitStorage _ | .receiveStorage | .receiveSlot _ => true
  | .transmitHandle _ => false

end Acquisition

/-- The receive slots come last.  There are six times 64 handles before theirs. -/
theorem exists_acquisitions_eq :
    ∃ front, acquisitions = front ++ (List.range receiveSlots).map .receiveSlot ∧
      front.countP Acquisition.needsHandle = laneCount * transmitSlots ∧
      front.countP Acquisition.isReceiveSlot = 0 :=
  ⟨((List.finRange laneCount).flatMap fun lane =>
      .transmitStorage lane :: List.replicate transmitSlots (.transmitHandle lane)) ++
        [.receiveStorage],
    by simp [acquisitions], by decide +kernel, by decide +kernel⟩

theorem countP_needsHandle_acquisitions :
    acquisitions.countP Acquisition.needsHandle = laneCount * transmitSlots + receiveSlots := by
  decide +kernel

/-- A receive slot with a handle and a buffer of zeros. -/
def ReceiveSlot.fresh (size : Nat) (handle : Handle) : ReceiveSlot where
  handle := handle
  buffer := some (.zeroed size)

namespace Supply

/-- There is memory for everything that needs some, and there are handles enough. -/
def Suffices (supply : Supply) (needed : List Acquisition) : Prop :=
  (∀ item ∈ needed, item.needsMemory = true → supply.grants item = true) ∧
    needed.countP Acquisition.needsHandle ≤ supply.handles.length

/-- What is left of a supply when some handles were issued. -/
def without (supply : Supply) (count : Nat) : Supply :=
  { supply with handles := supply.handles.drop count }

/-- The handles behind those for transmission, which the receive slots get. -/
def receiveHandles (supply : Supply) : List Handle :=
  (supply.handles.drop (laneCount * transmitSlots)).take receiveSlots

/-- The acts that issue the first handles. -/
def issues (supply : Supply) (count : Nat) : List Effect :=
  (supply.handles.take count).map fun handle => .allocate (some handle)

/-- The acts for a thing that cannot be acquired: a handle is asked for in vain, unless there
is no memory in the first place. -/
def asksInVain (supply : Supply) (item : Acquisition) : List Effect :=
  if item.needsMemory && !supply.grants item then [] else [.allocate none]

variable {supply : Supply}

theorem suffices_nil : supply.Suffices [] :=
  ⟨by simp, Nat.zero_le _⟩

/-- What one thing needs. -/
theorem suffices_singleton_iff {item : Acquisition} :
    supply.Suffices [item] ↔ (item.needsMemory = true → supply.grants item = true) ∧
      (item.needsHandle = true → supply.handles ≠ []) := by
  simp only [Suffices, List.forall_mem_singleton, List.countP_singleton, ← List.length_pos_iff]
  cases item.needsHandle <;> simp [Nat.succ_le_iff]

/-- The first handles are issued in two parts. -/
theorem issues_append (supply : Supply) (count more : Nat) :
    supply.issues count ++ (supply.without count).issues more = supply.issues (count + more) := by
  simp only [issues, without, ← List.map_append, List.take_add]

@[simp]
theorem without_without (supply : Supply) (count more : Nat) :
    (supply.without count).without more = supply.without (count + more) := by
  simp only [without, List.drop_drop]

/-- A supply suffices for two lists if it does for the first, and what is left for the
second. -/
theorem suffices_append_iff {front back : List Acquisition} :
    supply.Suffices (front ++ back) ↔
      supply.Suffices front ∧
        (supply.without (front.countP Acquisition.needsHandle)).Suffices back := by
  simp only [Suffices, without, List.forall_mem_append, List.countP_append, List.length_drop]
  constructor
  · rintro ⟨⟨early, late⟩, count⟩
    exact ⟨⟨early, by omega⟩, late, by omega⟩
  · rintro ⟨⟨early, first⟩, late, rest⟩
    exact ⟨⟨early, late⟩, by omega⟩

/-- A supply that does not suffice does for some of the first things, and not for the next
one. -/
theorem exists_shortage {needed : List Acquisition} (short : ¬ supply.Suffices needed) :
    ∃ past item later, needed = past ++ item :: later ∧ supply.Suffices past ∧
      ¬ supply.Suffices (past ++ [item]) := by
  induction needed using List.reverseRecOn with
  | nil => exact absurd suffices_nil short
  | append_singleton items item hypothesis =>
      by_cases enough : supply.Suffices items
      · exact ⟨items, item, [], rfl, enough, short⟩
      · obtain ⟨past, first, later, rfl, before, behind⟩ := hypothesis enough
        exact ⟨past, first, later ++ [item], by simp, before, behind⟩

/-- Some handle is left for every receive slot. -/
theorem length_receiveHandles (enough : supply.Suffices acquisitions) :
    supply.receiveHandles.length = receiveSlots := by
  have count := enough.2
  rw [countP_needsHandle_acquisitions] at count
  rw [receiveHandles, List.length_take, List.length_drop]
  omega

end Supply

namespace Engine

variable {engine : Engine} {supply : Supply}

/-! ## Room -/

theorem Room.front {front back : List Acquisition} (room : engine.Room (front ++ back)) :
    engine.Room front := by
  constructor
  · intro lane
    have bound := room.transmit lane
    rw [List.count_append] at bound
    omega
  · have bound := room.receive
    rw [List.countP_append] at bound
    omega

/-- Behind an acquisition that succeeded there is room for the rest. -/
theorem Room.behind {front back : List Acquisition} (room : engine.Room (front ++ back))
    (succeeded : (engine.acquire supply front).2.2 = none) :
    (engine.acquire supply front).1.Room back := by
  obtain ⟨slots, handles, accounted⟩ := engine.acquire_accounted supply front
  obtain ⟨slotCount, handleCount⟩ := accounted.complete succeeded
  constructor
  · intro lane
    have bound := room.transmit lane
    rw [List.count_append] at bound
    rw [accounted.acquired.transmit lane]
    simp only [Ring.extend, List.length_append, handleCount lane]
    omega
  · have bound := room.receive
    rw [List.countP_append] at bound
    rw [accounted.acquired.receive]
    simp only [Ring.extend, List.length_append, slotCount]
    omega

/-! ## One thing -/

/-- A thing for which the supply does not suffice ends the acquisition. -/
theorem acquire_short {item : Acquisition} (short : ¬ supply.Suffices [item])
    (later : List Acquisition) :
    engine.acquire supply (item :: later) =
      (engine, supply.asksInVain item, some .outOfMemory) := by
  rw [Supply.suffices_singleton_iff] at short
  cases item with
  | transmitStorage | receiveStorage =>
      simp only [Acquisition.needsMemory, Acquisition.needsHandle, true_implies,
        Bool.false_eq_true, false_implies, and_true, Bool.not_eq_true] at short
      simp [acquire, Supply.asksInVain, Acquisition.needsMemory, short]
  | transmitHandle lane =>
      have exhausted : supply.handles = [] := by
        simpa [Acquisition.needsMemory, Acquisition.needsHandle] using short
      simp [acquire, Supply.asksInVain, Acquisition.needsMemory, exhausted]
  | receiveSlot index =>
      cases granted : supply.grants (.receiveSlot index) with
      | false => simp [acquire, Supply.asksInVain, Acquisition.needsMemory, granted]
      | true =>
          have exhausted : supply.handles = [] := by
            simpa [Acquisition.needsMemory, Acquisition.needsHandle, granted] using short
          simp [acquire, Supply.asksInVain, Acquisition.needsMemory, granted, exhausted]

/-- A thing for which the supply suffices is acquired, and the rest follows. -/
theorem acquire_cons {item : Acquisition} (enough : supply.Suffices [item])
    (room : engine.Room [item]) (later : List Acquisition) :
    let first := engine.acquire supply [item]
    let count := [item].countP Acquisition.needsHandle
    let rest := first.1.acquire (supply.without count) later
    first.2 = (supply.issues count, none) ∧
      engine.acquire supply (item :: later) =
        (rest.1, supply.issues count ++ rest.2.1, rest.2.2) := by
  rw [Supply.suffices_singleton_iff] at enough
  obtain ⟨memory, handle⟩ := enough
  cases item with
  | transmitStorage | receiveStorage =>
      simp [acquire, memory rfl, Acquisition.needsHandle, Supply.without, Supply.issues]
  | transmitHandle lane =>
      obtain ⟨handle, others, supplied⟩ := List.exists_cons_of_ne_nil (handle rfl)
      have bound := room.transmit lane
      rw [List.count_singleton_self] at bound
      simp [acquire, supplied, addTransmitSlot, Ring.push_of_room handle bound,
        Acquisition.needsHandle, Supply.without, Supply.issues]
  | receiveSlot index =>
      obtain ⟨handle, others, supplied⟩ := List.exists_cons_of_ne_nil (handle rfl)
      have bound := room.receive
      rw [List.countP_cons_of_pos rfl] at bound
      simp [acquire, memory rfl, supplied, addReceiveSlot, Ring.push_of_room _ bound,
        Acquisition.needsHandle, Supply.without, Supply.issues]

/-! ## Several things -/

/-- Everything for which the supply suffices is acquired, and the rest follows. -/
theorem acquire_append {past : List Acquisition} (enough : supply.Suffices past)
    {later : List Acquisition} (room : engine.Room (past ++ later)) :
    let first := engine.acquire supply past
    let count := past.countP Acquisition.needsHandle
    let rest := first.1.acquire (supply.without count) later
    first.2 = (supply.issues count, none) ∧
      engine.acquire supply (past ++ later) =
        (rest.1, supply.issues count ++ rest.2.1, rest.2.2) := by
  induction past generalizing engine supply with
  | nil => simp [acquire, Supply.issues, Supply.without]
  | cons item past hypothesis =>
      have enough : supply.Suffices ([item] ++ past) := enough
      have room : engine.Room ([item] ++ (past ++ later)) := room
      obtain ⟨early, late⟩ := Supply.suffices_append_iff.mp enough
      obtain ⟨issued, whole⟩ := acquire_cons early room.front (past ++ later)
      obtain ⟨-, front⟩ := acquire_cons early room.front past
      obtain ⟨further, rest⟩ := hypothesis late (room.behind (by rw [issued]))
      have count : (item :: past).countP Acquisition.needsHandle =
          [item].countP Acquisition.needsHandle + past.countP Acquisition.needsHandle := by
        rw [← List.singleton_append, List.countP_append]
      dsimp only
      rw [count, ← supply.issues_append, ← supply.without_without]
      refine ⟨?_, ?_⟩
      · rw [front]
        simp only [further]
      · rw [front, List.cons_append, whole]
        simp only [rest, List.append_assoc]

/-! ## Receive slots -/

/-- A receive slot gets the first handle. -/
theorem acquire_receiveSlot {index : Nat} (enough : supply.Suffices [.receiveSlot index])
    (room : engine.Room [.receiveSlot index]) :
    (engine.acquire supply [.receiveSlot index]).1 = { engine with
      receive := engine.receive.extend
        ((supply.handles.take 1).map (.fresh engine.config.bufferSize)) } := by
  obtain ⟨memory, handle⟩ := Supply.suffices_singleton_iff.mp enough
  obtain ⟨handle, others, supplied⟩ := List.exists_cons_of_ne_nil (handle rfl)
  have bound := room.receive
  rw [List.countP_cons_of_pos rfl] at bound
  simp [acquire, memory rfl, supplied, addReceiveSlot, Ring.push_of_room _ bound,
    ReceiveSlot.fresh, Ring.extend]

/-- The receive slots get the handles in order. -/
theorem acquire_receiveSlots {indices : List Nat}
    (enough : supply.Suffices (indices.map .receiveSlot))
    (room : engine.Room (indices.map .receiveSlot)) :
    (engine.acquire supply (indices.map .receiveSlot)).1 = { engine with
      receive := engine.receive.extend
        ((supply.handles.take indices.length).map (.fresh engine.config.bufferSize)) } := by
  induction indices generalizing engine supply with
  | nil => simp [acquire]
  | cons index indices hypothesis =>
      have enough : supply.Suffices ([.receiveSlot index] ++ indices.map .receiveSlot) := enough
      have room : engine.Room ([.receiveSlot index] ++ indices.map .receiveSlot) := room
      obtain ⟨early, late⟩ := Supply.suffices_append_iff.mp enough
      obtain ⟨issued, whole⟩ := acquire_cons early room.front (indices.map .receiveSlot)
      have rest := hypothesis late (room.behind (by rw [issued]))
      rw [List.map_cons, whole]
      dsimp only
      rw [rest, acquire_receiveSlot early room.front]
      simp [Supply.without, Acquisition.needsHandle, Nat.add_comm indices.length, List.take_add]

/-! ## Everything that is needed -/

/-- A supply that suffices for everything populates every ring. -/
theorem acquire_acquisitions (enough : supply.Suffices acquisitions)
    (room : engine.Room acquisitions) :
    let result := engine.acquire supply acquisitions
    result.2 = (supply.issues (laneCount * transmitSlots + receiveSlots), none) ∧
      result.1.receive = engine.receive.extend
        (supply.receiveHandles.map (.fresh engine.config.bufferSize)) ∧
      (∀ lane : Lane, ∃ handles, handles.length = transmitSlots ∧
        result.1.transmit.get lane = (engine.transmit.get lane).extend handles) ∧
      result.1 = { engine with
        receive := result.1.receive
        transmit := result.1.transmit } := by
  intro result
  have issued : result.2 = (supply.issues (laneCount * transmitSlots + receiveSlots), none) := by
    have room : engine.Room (acquisitions ++ []) := by rwa [List.append_nil]
    rw [← countP_needsHandle_acquisitions]
    exact (acquire_append enough room).1
  obtain ⟨slots, handles, accounted⟩ := engine.acquire_accounted supply acquisitions
  obtain ⟨-, handleCount⟩ := accounted.complete (congrArg Prod.snd issued)
  refine ⟨issued, ?_, ?_, accounted.acquired.others⟩
  · obtain ⟨front, split, before, none⟩ := exists_acquisitions_eq
    rw [split] at enough room
    obtain ⟨early, late⟩ := Supply.suffices_append_iff.mp enough
    obtain ⟨succeeded, whole⟩ := acquire_append early room
    obtain ⟨slots, handles, accounted⟩ := engine.acquire_accounted supply front
    have empty : slots = [] := by
      rw [← List.length_eq_zero_iff, ← none]
      exact (accounted.complete (congrArg Prod.snd succeeded)).1
    have unchanged : (engine.acquire supply front).1.receive = engine.receive := by
      rw [accounted.acquired.receive, empty, Ring.extend_nil]
    have config : (engine.acquire supply front).1.config = engine.config := by
      rw [accounted.acquired.others]
    show (engine.acquire supply acquisitions).1.receive = _
    rw [split, whole]
    dsimp only
    rw [acquire_receiveSlots late (room.behind (congrArg Prod.snd succeeded))]
    simp [unchanged, config, Supply.without, Supply.receiveHandles, before]
  · intro lane
    exact ⟨handles lane, (handleCount lane).trans (count_acquisitions lane),
      accounted.acquired.transmit lane⟩

/-- A supply that does not suffice ends the acquisition at the first thing that is short. -/
theorem acquire_shortage {past later : List Acquisition} {item : Acquisition}
    (enough : supply.Suffices past) (short : ¬ supply.Suffices (past ++ [item]))
    (room : engine.Room (past ++ item :: later)) :
    (engine.acquire supply (past ++ item :: later)).2 =
      (supply.issues (past.countP Acquisition.needsHandle) ++ supply.asksInVain item,
        some .outOfMemory) := by
  have missing : ¬ (supply.without (past.countP Acquisition.needsHandle)).Suffices [item] :=
    fun rest => short (Supply.suffices_append_iff.mpr ⟨enough, rest⟩)
  rw [(acquire_append enough room).2]
  simp only [acquire_short missing]
  rfl

end Engine

end WlanDatapath
