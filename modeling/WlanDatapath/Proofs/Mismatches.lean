import WlanDatapath.Proofs.Lifecycle

/-!
# Completions that match no slot

A completion is for a transfer on which the engine does not wait if its endpoint does not
exist, if its ring has no room for it or nothing in flight, or if it is another slot's turn.
`Engine.Mismatch` lists these cases.  Nothing is asked of the completion otherwise: its handle
may be that of any slot, or of none.

What a mismatch leaves behind is one record, `Engine.Recorded`: a counter, the kind of the
anomaly, lines of the log, and for reception a buffer in the slot that owns the handle, if
that slot held none.  No index or count of a ring depends on it, so that being a mismatch
does not either: any number of them is recorded one by one.
-/

namespace WlanDatapath

/-- The slot at an index is the first one with a handle. -/
def Ring.IsOwner (ring : Ring ReceiveSlot) (handle : Handle) (index : Nat) : Prop :=
  (ring.slots[index]?).map (·.handle) = some handle ∧
    ∀ earlier < index, (ring.slots[earlier]?).map (·.handle) ≠ some handle

/-- The position of a handle is that of its owner. -/
theorem Ring.position?_eq_some_iff {ring : Ring ReceiveSlot} {handle : Handle} {index : Nat} :
    ring.position? (fun slot => slot.handle == handle) = some index ↔
      ring.IsOwner handle index := by
  unfold position? IsOwner
  rw [List.findIdx?_eq_some_iff_getElem]
  constructor
  · rintro ⟨below, own, others⟩
    refine ⟨by simpa [List.getElem?_eq_getElem below] using own, ?_⟩
    intro earlier before
    have inside : earlier < ring.slots.length := before.trans below
    simpa [List.getElem?_eq_getElem inside] using others earlier before
  · rintro ⟨own, others⟩
    obtain ⟨slot, found, same⟩ := Option.map_eq_some_iff.mp own
    obtain ⟨below, at_⟩ := List.getElem?_eq_some_iff.mp found
    refine ⟨below, by simpa [at_] using same, ?_⟩
    intro earlier before
    have inside : earlier < ring.slots.length := before.trans below
    simpa [List.getElem?_eq_getElem inside] using others earlier before

/-- The counters after the end of a transfer that matched no slot. -/
def Counters.dismissing (counters : Counters) : Input → Counters
  | .completeReceive _ => { counters with rxMismatches := counters.rxMismatches + 1 }
  | .completeTransmit _ _ => { counters with txMismatches := counters.txMismatches + 1 }
  | _ => counters

namespace Engine

/-- The end of a transfer on which the engine does not wait, though its ring is populated. -/
inductive Mismatch (engine : Engine) : Input → Prop where
  | receiveFull (transfer : Transfer Buffer) (complete : engine.receive.isComplete = true)
      (full : engine.receive.isFull = true) :
      Mismatch engine (.completeReceive transfer)
  | receiveOther (transfer : Transfer Buffer) (complete : engine.receive.isComplete = true)
      (other : engine.receive.producer?.map (·.handle) ≠ some transfer.handle) :
      Mismatch engine (.completeReceive transfer)
  | unknownEndpoint (address : UInt8) (transfer : Transfer Outgoing)
      (unknown : engine.config.lane? address = none) :
      Mismatch engine (.completeTransmit address transfer)
  | transmitEmpty {address : UInt8} {lane : Lane} (transfer : Transfer Outgoing)
      (found : engine.config.lane? address = some lane)
      (complete : (engine.transmit.get lane).isComplete = true)
      (empty : (engine.transmit.get lane).isEmpty = true) :
      Mismatch engine (.completeTransmit address transfer)
  | transmitOther {address : UInt8} {lane : Lane} (transfer : Transfer Outgoing)
      (found : engine.config.lane? address = some lane)
      (complete : (engine.transmit.get lane).isComplete = true)
      (other : (engine.transmit.get lane).consumer? ≠ some transfer.handle) :
      Mismatch engine (.completeTransmit address transfer)

/-- A slot after the end of a transfer that matched none: it is as it was, unless it owns
the handle and holds no buffer. -/
inductive SlotRecorded (engine : Engine) (input : Input) (index : Nat) (slot : ReceiveSlot) :
    ReceiveSlot → Prop where
  | kept (unowned : ∀ transfer, input = .completeReceive transfer →
        ¬ engine.receive.IsOwner transfer.handle index ∨ slot.buffer.isSome = true) :
      SlotRecorded engine input index slot slot
  | parked (transfer : Transfer Buffer) (completed : input = .completeReceive transfer)
      (owner : engine.receive.IsOwner transfer.handle index) (vacant : slot.buffer = none) :
      SlotRecorded engine input index slot { slot with buffer := some transfer.content }

/-- All that the end of a transfer changes if it matched no slot. -/
structure Recorded (engine : Engine) (input : Input) (after : Engine) : Prop where
  others : after = { engine with
    receive := after.receive
    counters := engine.counters.dismissing input
    reported := after.reported }
  report : ∃ anomaly : Anomaly, after.reported = (engine.reported.report anomaly.word).2
  window : after.receive = { engine.receive with slots := after.receive.slots }
  length : after.receive.slots.length = engine.receive.slots.length
  slots : ∀ index slot, engine.receive.slots[index]? = some slot →
    ∃ later, after.receive.slots[index]? = some later ∧ engine.SlotRecorded input index slot later

variable {engine : Engine}

/-- A buffer that is put back by its handle goes to the owner, if that one holds none. -/
theorem recorded_dismissReceive (transfer : Transfer Buffer) (anomaly : Anomaly)
    (line : LogLine) :
    engine.Recorded (.completeReceive transfer)
      (engine.dismissReceive transfer anomaly line).1 := by
  unfold dismissReceive putBackByHandle
  simp only [reportOnce]
  split
  next owner found =>
    have owns := Ring.position?_eq_some_iff.mp found
    refine ⟨rfl, ⟨anomaly, rfl⟩, rfl, List.length_modify _ _ _, ?_⟩
    intro index slot inPlace
    simp only [putBackAt, Ring.modify, List.getElem?_modify, inPlace]
    by_cases same : owner = index
    · subst same
      refine ⟨slot.putBack transfer.content, by simp, ?_⟩
      cases held : slot.buffer with
      | none =>
          simp only [ReceiveSlot.putBack, held, Option.isNone_none, if_true]
          exact .parked transfer rfl owns held
      | some buffer =>
          rw [ReceiveSlot.putBack_of_buffer held]
          exact .kept fun _ _ => .inr (by simp [held])
    · refine ⟨slot, by simp [same], .kept fun other completed => .inl fun owned => same ?_⟩
      cases completed
      exact Option.some.inj (found.symm.trans (Ring.position?_eq_some_iff.mpr owned))
  next unowned =>
    refine ⟨rfl, ⟨anomaly, rfl⟩, rfl, rfl, ?_⟩
    intro index slot inPlace
    refine ⟨slot, inPlace, .kept fun other completed => .inl fun owned => ?_⟩
    cases completed
    rw [Ring.position?_eq_some_iff.mpr owned] at unowned
    contradiction

theorem recorded_dismissTransmit (address : UInt8) (transfer : Transfer Outgoing)
    (line : LogLine) :
    engine.Recorded (.completeTransmit address transfer) (engine.dismissTransmit line).1 :=
  ⟨rfl, ⟨.transmitMismatch, rfl⟩, rfl, rfl,
    fun _ slot inPlace => ⟨slot, inPlace, .kept fun _ impossible => by cases impossible⟩⟩

/-- A receive transfer that matches no slot is dismissed. -/
theorem completeReceive_of_mismatch {transfer : Transfer Buffer}
    (complete : engine.receive.isComplete = true)
    (unexpected : engine.receive.isFull = true ∨
      engine.receive.producer?.map (·.handle) ≠ some transfer.handle) :
    ∃ anomaly line, engine.completeReceive transfer =
      ((engine.dismissReceive transfer anomaly line).1,
        engine.complaint transfer.status (.receiveFailed transfer.handle transfer.status) ++
          (engine.dismissReceive transfer anomaly line).2) := by
  cases full : engine.receive.isFull with
  | true =>
      refine ⟨.receiveRingFull, .receiveRingFull transfer.handle, ?_⟩
      simp [completeReceive, complete, full]
  | false =>
      have other := unexpected.resolve_left (by simp [full])
      refine ⟨.receiveMismatch, .receiveUnexpected transfer.handle
        (engine.receive.producer?.map (·.handle)), ?_⟩
      simp only [completeReceive, complete, full, Bool.not_true, Bool.false_eq_true, if_false,
        if_neg other]

/-- A transmit transfer that matches no slot is dismissed. -/
theorem completeTransmit_of_mismatch {address : UInt8} {transfer : Transfer Outgoing}
    (mismatch : engine.Mismatch (.completeTransmit address transfer)) :
    ∃ line, engine.completeTransmit address transfer =
      ((engine.dismissTransmit line).1,
        engine.complaint transfer.status (.transmitFailed transfer.handle transfer.status) ++
          (engine.dismissTransmit line).2) := by
  cases mismatch with
  | unknownEndpoint _ _ unknown =>
      exact ⟨.unknownEndpoint address, by simp [completeTransmit, unknown]⟩
  | @transmitEmpty _ lane _ found complete empty =>
      refine ⟨.transmitUnexpected transfer.handle lane (engine.transmit.get lane).consumer?, ?_⟩
      simp [completeTransmit, found, complete, empty]
  | @transmitOther _ lane _ found complete other =>
      refine ⟨.transmitUnexpected transfer.handle lane (engine.transmit.get lane).consumer?, ?_⟩
      simp [completeTransmit, found, complete, other]

/-- A mismatch leaves a record behind, and all that is heard of it are lines of the log. -/
theorem Mismatch.recorded {input : Input} (mismatch : engine.Mismatch input) :
    let moment : Moment := ⟨engine, input⟩
    engine.Recorded input moment.after ∧ ∀ effect ∈ moment.effects, effect.kind = .log := by
  intro moment
  cases input with
  | completeReceive transfer =>
      have unexpected : engine.receive.isComplete = true ∧ (engine.receive.isFull = true ∨
          engine.receive.producer?.map (·.handle) ≠ some transfer.handle) := by
        cases mismatch with
        | receiveFull _ complete full => exact ⟨complete, .inl full⟩
        | receiveOther _ complete other => exact ⟨complete, .inr other⟩
      obtain ⟨anomaly, line, dismissed⟩ :=
        completeReceive_of_mismatch unexpected.1 unexpected.2
      rw [Moment.after_completeReceive, Moment.effects_completeReceive, dismissed]
      refine ⟨recorded_dismissReceive transfer anomaly line, List.forall_mem_append.mpr ⟨?_, ?_⟩⟩
      · exact engine.kind_complaint _ _
      · exact engine.kind_dismissReceive _ _ _
  | completeTransmit address transfer =>
      obtain ⟨line, dismissed⟩ := completeTransmit_of_mismatch mismatch
      rw [Moment.after_completeTransmit, Moment.effects_completeTransmit, dismissed]
      refine ⟨recorded_dismissTransmit address transfer line,
        List.forall_mem_append.mpr ⟨?_, ?_⟩⟩
      · exact engine.kind_complaint _ _
      · exact engine.kind_dismissTransmit line
  | _ => cases mismatch

/-! ## Any number of them -/

namespace Recorded

variable {input : Input} {after : Engine}

/-- A record leaves the handles in place. -/
theorem handle (recorded : engine.Recorded input after) (index : Nat) :
    (after.receive.slots[index]?).map (·.handle) =
      (engine.receive.slots[index]?).map (·.handle) := by
  cases inPlace : engine.receive.slots[index]? with
  | none =>
      have beyond := List.getElem?_eq_none_iff.mp inPlace
      rw [List.getElem?_eq_none (recorded.length ▸ beyond)]
  | some slot =>
      obtain ⟨later, found, change⟩ := recorded.slots index slot inPlace
      rw [found]
      cases change <;> rfl

/-- A record leaves a slot that holds a buffer as it is. -/
theorem held (recorded : engine.Recorded input after) {index : Nat} {slot : ReceiveSlot}
    (inPlace : engine.receive.slots[index]? = some slot) (holds : slot.buffer.isSome = true) :
    after.receive.slots[index]? = some slot := by
  obtain ⟨later, found, change⟩ := recorded.slots index slot inPlace
  cases change with
  | kept => exact found
  | parked _ _ _ vacant => simp [vacant] at holds

/-- Two changes of the receive slots, of the counters and of what was reported are one. -/
theorem trans (recorded : engine.Recorded input after) (slots : List ReceiveSlot)
    (counters : Counters) (reported : Reported) :
    { after with
      receive := { after.receive with slots := slots }
      counters := counters
      reported := reported } =
    { engine with
      receive := { engine.receive with slots := slots }
      counters := counters
      reported := reported } := by
  have window : { after.receive with slots := slots } =
      { engine.receive with slots := slots } := by rw [recorded.window]
  rw [window, recorded.others]

/-- What is a mismatch before a record is one behind it. -/
theorem mismatch (recorded : engine.Recorded input after) {other : Input}
    (before : engine.Mismatch other) : after.Mismatch other := by
  have config : after.config = engine.config := by rw [recorded.others]
  have lanes : after.transmit = engine.transmit := by rw [recorded.others]
  have capacity : after.receive.capacity = engine.receive.capacity := by rw [recorded.window]
  have used : after.receive.used = engine.receive.used := by rw [recorded.window]
  have stop : after.receive.stop = engine.receive.stop := by rw [recorded.window]
  have complete : after.receive.isComplete = engine.receive.isComplete := by
    simp only [Ring.isComplete, recorded.length, capacity]
  cases before with
  | receiveFull transfer whole full =>
      refine .receiveFull transfer (complete.trans whole) ?_
      simpa only [Ring.isFull, capacity, used] using full
  | receiveOther transfer whole unexpected =>
      refine .receiveOther transfer (complete.trans whole) ?_
      rwa [Ring.producer?, recorded.handle, stop]
  | unknownEndpoint address transfer unknown =>
      exact .unknownEndpoint address transfer (config ▸ unknown)
  | transmitEmpty transfer found whole empty =>
      exact .transmitEmpty transfer (config ▸ found) (lanes ▸ whole) (lanes ▸ empty)
  | transmitOther transfer found whole unexpected =>
      exact .transmitOther transfer (config ▸ found) (lanes ▸ whole) (lanes ▸ unexpected)

end Recorded

/-- **A mismatch changes nothing but its record.**

Whatever the state of the engine, and whatever the completions carry, each of any number of
mismatches, and one in particular, changes one counter by one, the kinds of anomalies that
were reported, and the buffer of the slot that owns the handle of a receive transfer, if
that slot held none.  All that is heard of it are lines of the log.  So together they change
no window of a ring, no device and no request, and no slot that holds a buffer. -/
theorem mismatches_recorded (engine : Engine) (inputs : List Input)
    (all : ∀ input ∈ inputs, engine.Mismatch input) :
    let after := (engine.run inputs).1
    (∀ moment ∈ engine.history inputs,
      moment.before.Recorded moment.input moment.after ∧
        ∀ effect ∈ moment.effects, effect.kind = .log) ∧
      after = { engine with
        receive := { engine.receive with slots := after.receive.slots }
        counters := inputs.foldl Counters.dismissing engine.counters
        reported := after.reported } ∧
      ∀ (index : Nat) (slot : ReceiveSlot), engine.receive.slots[index]? = some slot →
        slot.buffer.isSome = true → after.receive.slots[index]? = some slot := by
  induction inputs generalizing engine with
  | nil => exact ⟨by simp, rfl, fun _ _ inPlace _ => inPlace⟩
  | cons input later hypothesis =>
      obtain ⟨recorded, logs⟩ := (all input (by simp)).recorded
      obtain ⟨each, total, kept⟩ := hypothesis _ fun other member =>
        recorded.mismatch (all other (by simp [member]))
      refine ⟨List.forall_mem_cons.mpr ⟨⟨recorded, logs⟩, each⟩, ?_, ?_⟩
      · have counted : (Moment.mk engine input).after.counters =
            engine.counters.dismissing input := by rw [recorded.others]
        rw [counted] at total
        exact total.trans (recorded.trans _ _ _)
      · intro index slot inPlace holds
        exact kept index slot (recorded.held inPlace holds) holds

/-- A forged completion with the handle of a slot in the middle of the receive ring, whose
buffer the transport has, and one for an endpoint that does not exist. -/
theorem mismatches_recorded_forged :
    let engine := ((fresh .small).run bringUpInputs).1
    let transfer : Transfer Buffer := ⟨392, ⟨[1, 2, 3]⟩, .io (-71), 3⟩
    let inputs := [Input.completeReceive transfer,
      .completeTransmit 99 ⟨0, .bare [] 7, .ok, 0⟩]
    let after := (engine.run inputs).1
    (∀ input ∈ inputs, engine.Mismatch input) ∧
      after.counters = { engine.counters with rxMismatches := 1, txMismatches := 1 } ∧
      after.receive.stop = 0 ∧ after.receive.used = 0 ∧ after.device.stage = .running := by
  have facts :
      let engine := ((fresh .small).run bringUpInputs).1
      engine.receive.isComplete = true ∧ engine.receive.producer?.map (·.handle) = some 384 ∧
        engine.config.lane? 99 = none ∧ engine.counters = {} ∧ engine.receive.stop = 0 ∧
        engine.receive.used = 0 ∧ engine.device.stage = .running := by
    decide +kernel
  generalize ((fresh .small).run bringUpInputs).1 = engine at facts ⊢
  obtain ⟨complete, turn, unknown, counters, stop, used, running⟩ := facts
  intro engine transfer inputs after
  have all : ∀ input ∈ inputs, engine.Mismatch input := by
    refine List.forall_mem_cons.mpr ⟨.receiveOther _ complete ?_, ?_⟩
    · rw [turn]
      decide
    · exact List.forall_mem_singleton.mpr (.unknownEndpoint 99 _ unknown)
  obtain ⟨-, total, -⟩ := mismatches_recorded engine inputs all
  refine ⟨all, ?_, ?_, ?_, ?_⟩
  · exact (congrArg Engine.counters total).trans (by rw [counters]; rfl)
  · exact (congrArg (fun engine => engine.receive.stop) total).trans stop
  · exact (congrArg (fun engine => engine.receive.used) total).trans used
  · exact (congrArg (fun engine => engine.device.stage) total).trans running

end Engine

end WlanDatapath
