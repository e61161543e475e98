import WlanDatapath.Engine.Basic

/-!
# Tearing the device down

A teardown first ends the life of the device, poisons the receive handles and
disables the pass; that much happens at once.  The rest releases every ring and
has to wait for a pass that is going on.

`Engine.tearDown` is both parts in one, for an engine without a pass.  Releasing
a ring twice has no effect: a released ring has no slots.
-/

namespace WlanDatapath.Engine

/-- The first part of a teardown. -/
def beginTeardown (engine : Engine) : Engine × List Effect :=
  ({ engine with
      device := engine.device.kill
      deferred := engine.deferred.disable
      teardowns := engine.teardowns + 1 },
    (engine.receive.slots.take receiveSlots).map fun slot => .poison slot.handle)

/-- The acts that release the ring of an output endpoint. -/
def releaseLane (lane : Lane) (ring : Ring Handle) : List Effect :=
  (if ring.used = 0 then [] else [.log (.inFlightAtTeardown lane ring.used)]) ++
    (ring.slots.take transmitSlots).map Effect.poison ++ ring.slots.map Effect.free

/-- The second part of a teardown, once no pass is going on. -/
def finishTeardown? (engine : Engine) : Option (Engine × List Effect) :=
  if engine.teardowns = 0 || engine.deferred.running then none
  else
    some (
      { engine with
        deferred := engine.deferred.dropRequest
        receive := engine.receive.drain.2
        transmit := engine.transmit.map fun ring => ring.drain.2
        teardowns := engine.teardowns - 1 },
      engine.receive.drain.1.map (fun slot => .free slot.handle) ++
        (List.finRange laneCount).flatMap fun lane => releaseLane lane (engine.transmit.get lane))

/-- A whole teardown.  It is left unfinished while a pass is going on. -/
def tearDown (engine : Engine) : Engine × List Effect :=
  let begun := engine.beginTeardown
  match begun.1.finishTeardown? with
  | some finished => (finished.1, begun.2 ++ finished.2)
  | none => begun

/-- A device that is torn down accepts nothing. -/
@[simp]
theorem accepts_beginTeardown (engine : Engine) :
    engine.beginTeardown.1.device.accepts = false := rfl

/-- Without a pass, a teardown that has begun can be finished. -/
theorem isSome_finishTeardown? {engine : Engine} (begun : engine.teardowns ≠ 0)
    (quiet : engine.deferred.running = false) : engine.finishTeardown?.isSome = true := by
  simp [finishTeardown?, begun, quiet]

/-- A teardown that is finished had begun, found no pass and drained every ring. -/
theorem finishTeardown?_eq_some {engine : Engine} {finished : Engine × List Effect}
    (finish : engine.finishTeardown? = some finished) :
    engine.teardowns ≠ 0 ∧ engine.deferred.running = false ∧ finished = (
      { engine with
        deferred := engine.deferred.dropRequest
        receive := engine.receive.drain.2
        transmit := engine.transmit.map fun ring => ring.drain.2
        teardowns := engine.teardowns - 1 },
      engine.receive.drain.1.map (fun slot => .free slot.handle) ++
        (List.finRange laneCount).flatMap fun lane =>
          releaseLane lane (engine.transmit.get lane)) := by
  unfold finishTeardown? at finish
  split at finish
  · contradiction
  next ready =>
    simp only [Bool.or_eq_true, decide_eq_true_eq, not_or, Bool.not_eq_true] at ready
    exact ⟨ready.1, ready.2, (Option.some.inj finish).symm⟩

/-- Releasing the ring of an output endpoint logs at most a line, and touches no
handle but its own. -/
theorem of_mem_releaseLane {lane : Lane} {ring : Ring Handle} {effect : Effect}
    (member : effect ∈ releaseLane lane ring) :
    effect = .log (.inFlightAtTeardown lane ring.used) ∨
      (∃ handle ∈ ring.slots, effect = .poison handle) ∨
      ∃ handle ∈ ring.slots, effect = .free handle := by
  simp only [releaseLane, List.mem_append, List.mem_map] at member
  rcases member with (inLog | ⟨handle, inRing, rfl⟩) | ⟨handle, inRing, rfl⟩
  · split at inLog
    · simp at inLog
    · exact Or.inl (List.mem_singleton.mp inLog)
  · exact Or.inr (Or.inl ⟨handle, List.mem_of_mem_take inRing, rfl⟩)
  · exact Or.inr (Or.inr ⟨handle, inRing, rfl⟩)

/-- Finishing a teardown logs what was in flight, and poisons and frees handles. -/
theorem of_mem_finishTeardown? {engine : Engine} {finished : Engine × List Effect}
    (finish : engine.finishTeardown? = some finished) {effect : Effect}
    (member : effect ∈ finished.2) :
    (∃ lane count, effect = .log (.inFlightAtTeardown lane count)) ∨
      (∃ handle, effect = .poison handle) ∨ ∃ handle, effect = .free handle := by
  obtain ⟨-, -, rfl⟩ := finishTeardown?_eq_some finish
  rcases List.mem_append.mp member with inReceive | inTransmit
  · obtain ⟨slot, -, rfl⟩ := List.mem_map.mp inReceive
    exact Or.inr (Or.inr ⟨_, rfl⟩)
  · obtain ⟨lane, -, inLane⟩ := List.mem_flatMap.mp inTransmit
    rcases of_mem_releaseLane inLane with rfl | ⟨handle, -, rfl⟩ | ⟨handle, -, rfl⟩
    · exact Or.inl ⟨_, _, rfl⟩
    · exact Or.inr (Or.inl ⟨_, rfl⟩)
    · exact Or.inr (Or.inr ⟨_, rfl⟩)

end WlanDatapath.Engine
