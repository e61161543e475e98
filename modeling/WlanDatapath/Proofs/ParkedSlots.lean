import WlanDatapath.Proofs.EarlyCompletions

/-!
# Slots that block reception

A receive buffer that is put back into its slot outside the window stays there.  The
device submits only what a pass takes out of the window or what was never posted, so
the transport never gets that buffer again, and a transfer on its handle never ends.
But the window grows past a slot only by such a transfer.

So the slot is a bound (`Reception.Parked`): each transfer that the ring accepts
brings the window one slot closer to it, nothing moves it away, and once the window
has reached it every transfer that ends is a mismatch and parks one more buffer.
Whether the transport takes buffers again makes no difference;
`parked_slot_bounds_reception` says this of every continuation of a run until the
device is torn down.
-/

namespace WlanDatapath

/-! ## Places in the gap -/

namespace Ring

variable {Slot : Type} {ring : Ring Slot} {index place : Nat}

/-- A slot outside the window has a place in the gap. -/
theorem exists_place_of_notMem_window (sound : ring.WellFormed) (below : index < ring.capacity)
    (outside : index ∉ ring.window) : ∃ place : Nat, ring.gap[place]? = some index := by
  have somewhere := (perm_range sound).mem_iff.mpr (List.mem_range.mpr below)
  rcases List.mem_append.mp somewhere with inWindow | inGap
  · exact absurd inWindow outside
  · exact List.mem_iff_getElem?.mp inGap

/-- The slot at a place of the gap is that many slots behind the window. -/
theorem eq_of_place (found : ring.gap[place]? = some index) :
    place < ring.capacity ∧ (ring.stop + place) % ring.capacity = index := by
  rw [gap, List.getElem?_map, Option.map_eq_some_iff] at found
  obtain ⟨offset, inRange, rfl⟩ := found
  obtain ⟨below, rfl⟩ := List.getElem?_eq_some_iff.mp inRange
  rw [List.length_range] at below
  rw [List.getElem_range]
  exact ⟨by omega, rfl⟩

/-- The place of a slot in the gap is its distance from the end of the window. -/
theorem place_eq (sound : ring.WellFormed) (found : ring.gap[place]? = some index) :
    place = (index + ring.capacity - ring.stop) % ring.capacity := by
  obtain ⟨below, same⟩ := eq_of_place found
  exact distance_eq sound.stop_lt below same

end Ring

namespace Reception

variable {reception next : Reception} {event : Event} {ledger : Ledger} {index ahead : Nat}
  {buffer : Buffer}

/-! ## Parked slots -/

/-- A slot outside the window that is not to be posted holds a buffer, and so many
slots are to be published before its turn comes. -/
structure Parked (reception : Reception) (index : Nat) (buffer : Buffer) (ahead : Nat) :
    Prop where
  turn : reception.ring.gap[ahead]? = some index
  posted : index ∉ reception.bringUp.unposted
  held : reception.ring.buffer? index = some buffer

namespace Parked

theorem notMem_window (parked : reception.Parked index buffer ahead)
    (sound : reception.ring.WellFormed) : index ∉ reception.ring.window :=
  Ring.notMem_window_of_mem_gap sound (List.mem_of_getElem? parked.turn)

/-- The slot keeps its place if the gap only grows at its end. -/
theorem keep (parked : reception.Parked index buffer ahead)
    (gap : reception.ring.gap <+: next.ring.gap)
    (unposted : ∀ other ∈ next.bringUp.unposted, other ∈ reception.bringUp.unposted)
    (held : next.ring.buffer? index = some buffer) : next.Parked index buffer ahead where
  turn := by
    obtain ⟨added, gap⟩ := gap
    rw [← gap, List.getElem?_append_left (List.getElem?_eq_some_iff.mp parked.turn).1]
    exact parked.turn
  posted member := parked.posted (unposted index member)
  held := held

/-- A buffer is put back into some slot. -/
theorem putBack (parked : reception.Parked index buffer ahead) {other : Nat} {own : Buffer}
    (ring : next.ring = reception.ring.putBack other own)
    (bringUp : next.bringUp = reception.bringUp) : next.Parked index buffer ahead := by
  refine parked.keep ?_ (fun _ member => bringUp ▸ member) ?_
  · rw [ring]
    exact List.prefix_rfl
  · rw [ring]
    exact Ring.buffer?_putBack_of_eq_some parked.held

/-- The oldest slot of the window is retired, and its buffer is taken or it has none. -/
theorem retire (parked : reception.Parked index buffer ahead) (sound : reception.Sound)
    {oldest : Nat} {ring : Ring ReceiveSlot}
    (retired : reception.ring.retire? = some (oldest, ring))
    (same : next.ring = ring ∨ next.ring = ring.vacate oldest)
    (bringUp : next.bringUp = reception.bringUp) : next.Parked index buffer ahead := by
  have inWindow : oldest ∈ reception.ring.window := by
    rw [Ring.window_retire sound.ring retired]
    exact List.mem_cons_self
  have apart : oldest ≠ index := by
    rintro rfl
    exact parked.notMem_window sound.ring inWindow
  have held : ring.buffer? index = some buffer :=
    (congrFun (Ring.buffer?_retire retired) index).trans parked.held
  have gap := Ring.gap_retire sound.ring retired
  refine parked.keep ⟨[oldest], ?_⟩ (fun _ member => bringUp ▸ member) ?_
  · rcases same with same | same <;> rw [same] <;> exact gap.symm
  · rcases same with same | same
    · rw [same, held]
    · rw [same, Ring.buffer?_vacate, if_neg apart, held]

/-- A transfer that is filed brings the window one slot closer. -/
theorem file (parked : reception.Parked index buffer ahead) (sound : reception.Sound)
    (balances : reception.Balances ledger) {transfer : Transfer Buffer}
    (expected : reception.ring.Expects transfer.handle) (returned : transfer.handle ∈ ledger.held)
    (ring : next.ring = reception.ring.file transfer)
    (bringUp : next.bringUp = reception.bringUp) :
    ∃ rest, next.Parked index buffer rest ∧ rest + 1 = ahead := by
  have named := expected.handles_stop
  have apart : reception.ring.stop ≠ index := by
    rintro rfl
    have vacant := (balances.vacant named returned).1
    rw [parked.held] at vacant
    contradiction
  have turn := parked.turn
  rw [Ring.gap_file sound.ring transfer expected.2.1] at turn
  cases ahead with
  | zero => exact absurd (Option.some.inj turn) apart
  | succ rest =>
      refine ⟨rest, ⟨?_, ?_, ?_⟩, rfl⟩
      · rw [ring]
        exact turn
      · rw [bringUp]
        exact parked.posted
      · rw [ring, Ring.buffer?_file (Ring.lt_of_handles named), if_neg apart]
        exact parked.held

/-- A parked slot stays parked, and its turn comes closer with every transfer that is
filed, and only so. -/
theorem step (parked : reception.Parked index buffer ahead) (sound : reception.Sound)
    (balances : reception.Balances ledger) (step : Step reception event next)
    (alive : next.stage ≠ .dead)
    (returned : ∀ handle, event.returned? = some handle → handle ∈ ledger.held) :
    ∃ rest, next.Parked index buffer rest ∧ rest + event.filed?.toList.length = ahead := by
  cases step with
  | acquisitionFailed | slotMissing | postRefused | closed => exact absurd rfl alive
  | drained begun => exact absurd (sound.begun begun) alive
  | acquired created =>
      have held := parked.held
      rw [sound.untouched created] at held
      simp [Ring.buffer?, Reception.untouched, Ring.empty] at held
  | @posted first slot own posting below found holds =>
      have unposted : reception.bringUp.unposted =
          first :: (BringUp.submitting ⟨first, slot.handle, own⟩).unposted := by
        rw [posting, BringUp.unposted_posting below]
        rfl
      have apart : first ≠ index := by
        rintro rfl
        exact parked.posted (unposted ▸ List.mem_cons_self)
      refine ⟨ahead, parked.keep List.prefix_rfl ?_ ?_, rfl⟩
      · intro other member
        rw [unposted]
        exact List.mem_cons_of_mem _ member
      · rw [Ring.buffer?_vacate, if_neg apart]
        exact parked.held
  | passedOver posting below =>
      refine ⟨ahead, parked.keep List.prefix_rfl ?_ parked.held, rfl⟩
      intro other member
      rw [posting, BringUp.unposted_posting below]
      exact List.mem_cons_of_mem _ member
  | cameUp =>
      refine ⟨ahead, parked.keep List.prefix_rfl ?_ parked.held, rfl⟩
      intro other member
      cases member
  | postTaken submitting =>
      refine ⟨ahead, parked.keep List.prefix_rfl ?_ parked.held, rfl⟩
      intro other member
      rw [submitting]
      exact member
  | filed expected => exact parked.file sound balances expected (returned _ rfl) rfl rfl
  | dismissedTo | kept | refused => exact ⟨ahead, parked.putBack rfl rfl, rfl⟩
  | slotLost _ retired | slotSkipped _ retired =>
      exact ⟨ahead, parked.retire sound retired (Or.inl rfl) rfl, rfl⟩
  | opened _ retired | setAside _ retired =>
      exact ⟨ahead, parked.retire sound retired (Or.inr rfl) rfl, rfl⟩
  | unchanged | dismissed | passStarted | nothingLeft | walked | rejected | dropped | handedUp
  | judged | givenBack | taken =>
      exact ⟨ahead, parked.keep List.prefix_rfl (fun _ member => member) parked.held, rfl⟩

end Parked

/-- A transfer that ends out of turn parks its buffer. -/
theorem Balances.parked_of_dismissed (balances : reception.Balances ledger)
    (placed : reception.Placed) (sound : reception.Sound) {transfer : Transfer Buffer}
    (step : Step reception (.dismissed transfer) next) (living : reception.stage ≠ .dead)
    (held : transfer.handle ∈ ledger.held) :
    ∃ own rest, reception.ring.handles[own]? = some transfer.handle ∧
      next.Parked own transfer.content rest := by
  cases step with
  | dismissed unexpected ownerless =>
      obtain ⟨complete, owner⟩ := balances.owner_ne_none sound living held
      exact absurd (ownerless complete) owner
  | @dismissedTo _ own unexpected complete owner =>
      have named := Ring.handles_of_position? owner
      have below := Ring.lt_of_handles named
      obtain ⟨vacant, -⟩ := balances.vacant named held
      obtain ⟨rest, place⟩ := Ring.exists_place_of_notMem_window sound.ring
        (below.trans_le sound.ring.slots_le) fun inWindow => placed.filled own inWindow vacant
      refine ⟨own, rest, named, place, fun unposted => (placed.unposted own unposted).2 vacant, ?_⟩
      rw [Ring.buffer?_putBack below vacant, if_pos rfl]

/-- Only a transfer whose turn it is not, is dismissed. -/
theorem Step.not_expects_of_dismissed {transfer : Transfer Buffer}
    (step : Step reception (.dismissed transfer) next) :
    ¬ reception.ring.Expects transfer.handle := by
  cases step with
  | dismissed unexpected | dismissedTo unexpected => exact unexpected

end Reception

/-! ## Moments -/

namespace Moment

variable {moment : Moment}

/-- A transfer that is filed is no anomaly. -/
theorem anomaly?_of_expects {transfer : Transfer Buffer} (ended : moment.ended? = some transfer)
    (expected : moment.before.receive.Expects transfer.handle) : moment.anomaly? = none := by
  obtain ⟨engine, input⟩ := moment
  cases input with
  | completeReceive transfer =>
      cases ended
      exact Engine.anomaly?_of_expects expected
  | _ => contradiction

/-- Unless a transfer ends, no anomaly of reception is met. -/
theorem family_ne_receive_of_not_ended (unended : moment.ended? = none) :
    moment.anomaly?.map Anomaly.family ≠ some .receive := by
  intro met
  obtain ⟨anomaly, met, family⟩ := Option.map_eq_some_iff.mp met
  obtain ⟨transfer, input, -⟩ := Engine.not_expects_of_anomaly? met family
  rw [ended?, input] at unended
  contradiction

/-- What a moment does about parked slots.  Every transfer that ends is filed or
counted as a mismatch.  Parked slots stay parked, and a transfer that is filed brings
the window one slot closer to them.  A transfer that is not filed parks its buffer. -/
structure Parks (moment : Moment) : Prop where
  counted : moment.after.counters.rxMismatches + moment.filed?.toList.length =
    moment.before.counters.rxMismatches + moment.ended?.toList.length
  kept : ∀ index buffer ahead, moment.before.reception.Parked index buffer ahead →
    ∃ rest, moment.after.reception.Parked index buffer rest ∧
      rest + moment.filed?.toList.length = ahead
  shelved : ∀ transfer, moment.ended? = some transfer → moment.filed? = none →
    ∃ own rest, moment.before.receive.handles[own]? = some transfer.handle ∧
      moment.after.reception.Parked own transfer.content rest

end Moment

namespace History

variable {losses : Nat → List Handle}

/-- An engine whose buffers are accounted for parks those that are out of turn. -/
theorem Conserves.parks {history : History} {moment : Moment}
    (conserves : Conserves losses moment.before history) (sound : moment.before.Sound)
    (honest : moment.Honest losses history) (preserves : moment.Preserves)
    (alive : moment.after.device.stage ≠ .dead) : moment.Parks := by
  obtain ⟨event, step, tells⟩ := moment.reception_step
  have received := sound.reception
  have living := step.alive alive
  have returned := honest.returned_of_tells tells
  refine ⟨?_, ?_, ?_⟩
  · have met : moment.after.counters.rxMismatches = moment.before.counters.rxMismatches +
        if moment.anomaly?.map Anomaly.family = some .receive then 1 else 0 :=
      moment.records.met .receive
    rw [met, tells.filed, tells.ended]
    cases event with
    | filed transfer =>
        rw [Moment.anomaly?_of_expects tells.ended step.expects_of_filed]
        rfl
    | dismissed transfer =>
        have held := returned _ rfl
        have complete := (conserves.balances.owner_ne_none received living held).1
        have room := (preserves.ended transfer tells.ended).1
        have mismatch := Moment.anomaly?_of_unexpected tells.ended complete room fun turn =>
          step.not_expects_of_dismissed ⟨complete, room, turn⟩
        rw [mismatch]
        rfl
    | _ => rw [if_neg (Moment.family_ne_receive_of_not_ended tells.ended)]; rfl
  · intro index buffer ahead parked
    rw [tells.filed]
    exact parked.step received conserves.balances step alive returned
  · intro transfer ended unfiled
    rw [tells.ended] at ended
    rw [tells.filed] at unfiled
    cases event with
    | dismissed transfer =>
        cases ended
        exact conserves.balances.parked_of_dismissed conserves.placed received step living
          (returned _ rfl)
    | filed => contradiction
    | _ => contradiction

/-- Every moment of a device that lives parks what is out of turn. -/
theorem parks (config : Config) (inputs : List Input)
    (distinct : ∀ moment ∈ (Engine.fresh config).history inputs, moment.issuesDistinct = true)
    (honest : Throughout (Moment.Honest losses) ((Engine.fresh config).history inputs))
    (alive : ((Engine.fresh config).run inputs).1.device.stage ≠ .dead) :
    ∀ moment ∈ (Engine.fresh config).history inputs, moment.Parks := by
  induction inputs using List.reverseRecOn with
  | nil => simp
  | append_singleton inputs input hypothesis =>
      have preserved := (conserves config _ distinct honest alive).preserved
      rw [Engine.history_concat] at distinct honest preserved ⊢
      rw [Throughout.concat_iff] at honest
      rw [Engine.run_concat] at alive
      obtain ⟨event, step, -⟩ :=
        (Moment.mk ((Engine.fresh config).run inputs).1 input).reception_step
      have early : ∀ moment ∈ (Engine.fresh config).history inputs,
          moment.issuesDistinct = true := fun moment member => distinct moment (by simp [member])
      have living := step.alive alive
      rw [List.forall_mem_append, List.forall_mem_singleton]
      refine ⟨hypothesis early honest.1 living, ?_⟩
      exact (conserves config inputs early honest.1 living).parks (Engine.sound_run config inputs)
        honest.2 (preserved _ (by simp)) alive

/-- The transfers that ended, in order. -/
def ended (history : History) : List (Transfer Buffer) :=
  history.filterMap Moment.ended?

theorem length_ended_cons (moment : Moment) (later : History) :
    (ended (moment :: later)).length = moment.ended?.toList.length + later.ended.length := by
  rw [ended, ended, List.filterMap_eq_flatMap_toList, List.filterMap_eq_flatMap_toList,
    List.flatMap_cons, List.length_append]

theorem length_filed_cons (moment : Moment) (later : History) :
    (filed (moment :: later)).length = moment.filed?.toList.length + later.filed.length := by
  rw [filed, filed, List.filterMap_eq_flatMap_toList, List.filterMap_eq_flatMap_toList,
    List.flatMap_cons, List.length_append]

end History

namespace Engine

variable {engine : Engine} {more : List Input}

/-- A transfer that ends is filed or counted as a mismatch, over a whole run. -/
theorem counted_run (parks : ∀ moment ∈ engine.history more, moment.Parks) :
    (engine.run more).1.counters.rxMismatches + (engine.history more).filed.length =
      engine.counters.rxMismatches + (engine.history more).ended.length := by
  induction more generalizing engine with
  | nil => rfl
  | cons input more hypothesis =>
      rw [history, List.forall_mem_cons] at parks
      have first : (engine.step input).1.counters.rxMismatches +
            (Moment.mk engine input).filed?.toList.length =
          engine.counters.rxMismatches + (Moment.mk engine input).ended?.toList.length :=
        parks.1.counted
      have later := hypothesis parks.2
      rw [history, History.length_filed_cons, History.length_ended_cons, run_cons]
      dsimp only
      omega

/-- A parked slot stays parked over a whole run, and its turn comes closer with every
transfer that is filed, and only so. -/
theorem parked_run {index ahead : Nat} {buffer : Buffer}
    (parks : ∀ moment ∈ engine.history more, moment.Parks)
    (parked : engine.reception.Parked index buffer ahead) :
    ∃ rest, (engine.run more).1.reception.Parked index buffer rest ∧
      rest + (engine.history more).filed.length = ahead := by
  induction more generalizing engine ahead with
  | nil => exact ⟨ahead, parked, rfl⟩
  | cons input more hypothesis =>
      rw [history, List.forall_mem_cons] at parks
      obtain ⟨between, still, first⟩ := parks.1.kept index buffer ahead parked
      obtain ⟨rest, behind, later⟩ := hypothesis parks.2 still
      refine ⟨rest, behind, ?_⟩
      rw [history, History.length_filed_cons]
      omega

/-- A slot that is parked after some moment of a run is parked at its end. -/
theorem parked_of_mem {index ahead : Nat} {buffer : Buffer} {moment : Moment}
    (parks : ∀ moment ∈ engine.history more, moment.Parks) (member : moment ∈ engine.history more)
    (parked : moment.after.reception.Parked index buffer ahead) :
    ∃ rest, (engine.run more).1.reception.Parked index buffer rest := by
  obtain ⟨past, later, split⟩ := List.append_of_mem member
  obtain ⟨before, input, after, rfl, -, same, rfl⟩ := history_eq_append_cons split
  rw [split, List.forall_mem_append, List.forall_mem_cons] at parks
  obtain ⟨rest, still, -⟩ := parked_run parks.2.2 parked
  refine ⟨rest, ?_⟩
  rw [run_append]
  rw [same] at still
  exact still

/-- A receive slot outside the window that holds a buffer bounds all further reception
until the device is torn down.  (Slots that a bringing up has still to post are no such
slots; once it has ended there are none of them.)  The transport may return the buffers
that it holds in any order, refuse them and lose them, and it may take every buffer
again afterwards.  Over every continuation of the run the window accepts at most as many
transfers as there are slots between its end and that slot, so that its end never passes
the slot, which stays as it is.  Every other transfer that ends is counted as a mismatch,
and its buffer is parked in its own slot, where it stays too. -/
theorem parked_slot_bounds_reception (config : Config) (before more : List Input)
    (losses : Nat → List Handle)
    (distinct : ∀ moment ∈ (fresh config).history (before ++ more), moment.issuesDistinct = true)
    (honest : Throughout (Moment.Honest losses) ((fresh config).history (before ++ more)))
    (alive : ((fresh config).run (before ++ more)).1.device.stage ≠ .dead)
    {index : Nat} {buffer : Buffer}
    (outside : index ∉ ((fresh config).run before).1.receive.window)
    (held : ((fresh config).run before).1.receive.buffer? index = some buffer)
    (posted : index ∉ ((fresh config).run before).1.bringUp.unposted) :
    let engine := ((fresh config).run before).1
    let later := engine.history more
    let final := (engine.run more).1
    later.filed.length ≤ (index + receiveSlots - engine.receive.stop) % receiveSlots ∧
      final.receive.stop = (engine.receive.stop + later.filed.length) % receiveSlots ∧
      index ∉ final.receive.window ∧ final.receive.buffer? index = some buffer ∧
      final.counters.rxMismatches + later.filed.length =
        engine.counters.rxMismatches + later.ended.length ∧
      ∀ moment ∈ later, ∀ transfer, moment.ended? = some transfer → moment.filed? = none →
        moment.after.counters.rxMismatches = moment.before.counters.rxMismatches + 1 ∧
        ∃ own, moment.before.receive.handles[own]? = some transfer.handle ∧
          own ∉ final.receive.window ∧ final.receive.buffer? own = some transfer.content := by
  intro engine later final
  have whole := History.parks config (before ++ more) distinct honest alive
  rw [history_append, List.forall_mem_append] at whole
  have parks : ∀ moment ∈ later, moment.Parks := whole.2
  have received := (sound_run config before).reception
  have behind : final.Sound := by
    have sound := sound_run config (before ++ more)
    rwa [run_append] at sound
  have below : index < engine.receive.capacity := by
    obtain ⟨slot, found, -⟩ := Ring.buffer?_eq_some_iff.mp held
    exact (List.getElem?_eq_some_iff.mp found).1.trans_le received.ring.slots_le
  obtain ⟨ahead, turn⟩ := Ring.exists_place_of_notMem_window received.ring below outside
  have parked : engine.reception.Parked index buffer ahead := ⟨turn, posted, held⟩
  obtain ⟨rest, still, closer⟩ := parked_run parks parked
  have distance := Ring.place_eq received.ring turn
  refine ⟨?_, ?_, still.notMem_window behind.reception.ring, still.held, counted_run parks, ?_⟩
  · rw [received.capacity] at distance
    exact (Nat.le.intro ((Nat.add_comm _ _).trans closer)).trans_eq distance
  · have moved : (engine.receive.stop + later.filed.length) + rest ≡ final.receive.stop + rest
        [MOD receiveSlots] := by
      have first := (Ring.eq_of_place turn).2
      have last := (Ring.eq_of_place still.turn).2
      rw [received.capacity, ← closer, Nat.add_comm rest, ← Nat.add_assoc] at first
      rw [behind.reception.capacity] at last
      exact first.trans last.symm
    have stop := behind.reception.ring.stop_lt
    rw [behind.reception.capacity] at stop
    exact (Nat.mod_eq_of_lt stop).symm.trans (Nat.ModEq.add_right_cancel' rest moved).symm
  · intro moment member transfer ended unfiled
    obtain ⟨own, place, named, shelved⟩ := (parks moment member).shelved transfer ended unfiled
    obtain ⟨_, stays⟩ := parked_of_mem parks member shelved
    have counted := (parks moment member).counted
    rw [ended, unfiled] at counted
    exact ⟨counted, own, named, stays.notMem_window behind.reception.ring, stays.held⟩

/-- The inputs of a run in which fourteen transfers end, and the transport refuses the
first buffer that the pass gives back. -/
def refusedOnceInputs : List Input :=
  let all : Memory := fun _ => true
  let ends (number : Nat) : Input := .completeReceive ⟨UInt32.ofNat number, ⟨[1]⟩, .io 5, 0⟩
  bringUpInputs ++ (List.range' 384 14).map ends ++
    [.startPass, .proceedPass all, .proceedPass all, .answerRepost (some ⟨.io 5, false⟩)]

/-- Then the other two transfers end.  The transport takes the second buffer, and the
transfer on it ends. -/
def takenAgainInputs : List Input :=
  let all : Memory := fun _ => true
  let ends (handle : Handle) : Input := .completeReceive ⟨handle, ⟨[2]⟩, .io 5, 0⟩
  [ends 398, ends 399, .proceedPass all, .proceedPass all, .answerRepost none, ends 385]

/-- In that run the transport refuses a single buffer, once.  Two more transfers are
accepted, and the next one is a mismatch. -/
theorem parked_slot_bounds_reception_refused_once :
    let engine := ((fresh .small).run refusedOnceInputs).1
    let later := engine.history takenAgainInputs
    let final := (engine.run takenAgainInputs).1
    0 ∉ engine.receive.window ∧ engine.receive.buffer? 0 = some ⟨[1]⟩ ∧
      (0 + receiveSlots - engine.receive.stop) % receiveSlots = 2 ∧
      later.filed.length = 2 ∧ final.receive.stop = 0 ∧ 0 ∉ final.receive.window ∧
      final.receive.buffer? 0 = some ⟨[1]⟩ ∧ final.counters.rxMismatches = 1 := by
  have facts :
      let engine := ((fresh .small).run refusedOnceInputs).1
      let later := engine.history takenAgainInputs
      0 ∉ engine.receive.window ∧ engine.receive.buffer? 0 = some ⟨[1]⟩ ∧
        (0 + receiveSlots - engine.receive.stop) % receiveSlots = 2 ∧
        later.filed.length = 2 ∧ (engine.run takenAgainInputs).1.receive.stop = 0 ∧
        0 ∉ engine.bringUp.unposted ∧
        engine.counters.rxMismatches + later.ended.length = 1 + later.filed.length ∧
        ((fresh .small).run (refusedOnceInputs ++ takenAgainInputs)).1.device.stage ≠ .dead := by
    decide +kernel
  obtain ⟨outside, held, distance, filed, stop, posted, sum, alive⟩ := facts
  have honest : Throughout (Moment.Honest fun _ => [])
      ((fresh .small).history (refusedOnceInputs ++ takenAgainInputs)) := by
    decide +kernel
  have distinct : ∀ moment ∈ (fresh .small).history (refusedOnceInputs ++ takenAgainInputs),
      moment.issuesDistinct = true := by
    -- deciding that the handles supplied are distinct would compare each with each
    rw [refusedOnceInputs, bringUpInputs, List.cons_append, List.cons_append, List.cons_append,
      history, List.forall_mem_cons]
    constructor
    · simp only [Moment.issuesDistinct, Supply.nodup_ample, decide_true]
    · decide +kernel
  obtain ⟨-, -, stillOutside, stillHeld, counted, -⟩ :=
    parked_slot_bounds_reception .small refusedOnceInputs takenAgainInputs (fun _ => []) distinct
      honest alive outside held posted
  exact ⟨outside, held, distance, filed, stop, stillOutside, stillHeld,
    Nat.add_right_cancel (counted.trans sum)⟩

end Engine

end WlanDatapath
