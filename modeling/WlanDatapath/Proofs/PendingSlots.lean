import WlanDatapath.Proofs.Delivery

/-!
# What the window of the receive ring holds

A slot of the window holds exactly what the transfer left that was filed into it, until the
pass takes it out.  Transfers that end out of turn, buffers that come back refused and
teardowns touch the window nowhere: a buffer is put back only where there is none, and
behind a teardown the window is empty.  So the pass never finds a slot without a buffer, and
it takes what was filed first.

The window is described by the filings that wait in it (`Ring.Holds`), which are the latest
ones.  A step lets a filing join, takes the oldest one out, or releases the ring, and does
nothing else to them (`Reception.Filled.step`).  What follows holds of devices that are
dead, too.

Bringing up takes buffers out of slots, one slot after the other.  This is outside the
window as long as nothing is filed into a slot that is still to be posted, and so at any
rate if bringing up is one operation (`History.BringsUpAtOnce`).
-/

namespace WlanDatapath

/-! ## Filings -/

/-- The slot that a filed transfer leaves. -/
def Transfer.slot (transfer : Transfer Buffer) : ReceiveSlot where
  handle := transfer.handle
  buffer := some transfer.content
  status := transfer.status
  length := transfer.length

/-- A transfer that was filed, and where. -/
structure Filing where
  /-- The index of the slot. -/
  index : Nat
  /-- What was filed. -/
  transfer : Transfer Buffer
deriving DecidableEq, Repr

/-- What the pass takes out. -/
def Filing.work (filing : Filing) : Work :=
  ⟨filing.index, filing.transfer.handle, filing.transfer.content⟩

/-- What the pass does first with a filing, depending on whether the device accepts. -/
def Filing.pass (accepts : Bool) (filing : Filing) : Pass :=
  if filing.transfer.status.isOk && accepts then
    .walking filing.work (.start (filing.transfer.content.filled filing.transfer.length))
  else .returning filing.work

/-- The filing of a moment. -/
def Moment.filing? (moment : Moment) : Option Filing :=
  moment.filed?.map (Filing.mk moment.before.receive.stop)

/-- The transfers that the ring accepted with their slots, in order. -/
def History.filings (history : History) : List Filing :=
  history.filterMap Moment.filing?

@[simp]
theorem History.filings_concat (history : History) (moment : Moment) :
    History.filings (history ++ [moment]) = history.filings ++ moment.filing?.toList := by
  rw [filings, List.filterMap_append, List.filterMap_eq_flatMap_toList _ [moment],
    List.flatMap_singleton]
  rfl

/-! ## The window -/

namespace Ring

/-- The window holds what these filings left, oldest first. -/
structure Holds (ring : Ring ReceiveSlot) (waiting : List Filing) : Prop where
  window : ring.window = waiting.map Filing.index
  slots : ∀ filing ∈ waiting, ring.slots[filing.index]? = some filing.transfer.slot

namespace Holds

variable {ring next : Ring ReceiveSlot} {waiting : List Filing}

theorem of_window_eq_nil (empty : ring.window = []) : ring.Holds [] where
  window := empty
  slots := by simp

theorem length_eq (holds : ring.Holds waiting) : waiting.length = ring.used := by
  rw [← ring.length_window, holds.window, List.length_map]

/-- Every slot of the window is that of a filing. -/
theorem exists_filing (holds : ring.Holds waiting) {index : Nat} (member : index ∈ ring.window) :
    ∃ filing ∈ waiting, filing.index = index := by
  rw [holds.window] at member
  exact List.mem_map.mp member

/-- Changes outside the window do not matter. -/
theorem modify (holds : ring.Holds waiting) {index : Nat} (change : ReceiveSlot → ReceiveSlot)
    (outside : index ∉ ring.window) : (ring.modify index change).Holds waiting where
  window := holds.window
  slots := by
    intro filing member
    have apart : index ≠ filing.index := by
      rintro rfl
      exact outside (holds.window ▸ List.mem_map_of_mem member)
    rw [← holds.slots filing member]
    simp [Ring.modify, apart]

/-- A buffer is never put back into a slot of the window. -/
theorem putBack (holds : ring.Holds waiting) (index : Nat) (buffer : Buffer) :
    (ring.putBack index buffer).Holds waiting where
  window := holds.window
  slots := by
    intro filing member
    have kept : filing.transfer.slot.putBack buffer = filing.transfer.slot :=
      ReceiveSlot.putBack_of_buffer rfl
    simp only [Ring.putBack, Ring.modify, List.getElem?_modify, holds.slots filing member,
      Option.map_eq_map, Option.map_some]
    split
    · rw [kept]
    · rfl

/-- A transfer that is filed joins at the end. -/
theorem file (holds : ring.Holds waiting) (sound : ring.WellFormed) {transfer : Transfer Buffer}
    (expected : ring.Expects transfer.handle) :
    (ring.file transfer).Holds (waiting ++ [⟨ring.stop, transfer⟩]) := by
  obtain ⟨-, room, turn⟩ := expected
  obtain ⟨slot, found, named⟩ := Option.map_eq_some_iff.mp turn
  have others := holds.modify (ReceiveSlot.file transfer) (stop_notMem_window sound room)
  have window := window_publish (sound.modify ring.stop (ReceiveSlot.file transfer))
    (publish_file transfer room)
  constructor
  · rw [window, others.window, List.map_append]
    rfl
  · intro filing member
    rcases List.mem_append.mp member with early | last
    · exact others.slots filing early
    · obtain rfl := List.mem_singleton.mp last
      have same : ring.slots[ring.stop]? = some slot := found
      simp [Ring.file, Ring.modify, same, ReceiveSlot.file, Transfer.slot, named]

/-- The slot that is retired holds what the oldest filing left, and the others go on
waiting. -/
theorem retire (holds : ring.Holds waiting) (sound : ring.WellFormed) {index : Nat}
    (retired : ring.retire? = some (index, next)) :
    ∃ filing later, waiting = filing :: later ∧ filing.index = index ∧
      next.slots[index]? = some filing.transfer.slot ∧ next.Holds later := by
  have window := window_retire sound retired
  have slots : next.slots = ring.slots := by
    rw [(retire?_eq_some retired).2.2]
  rw [holds.window] at window
  cases waiting with
  | nil => contradiction
  | cons filing later =>
      rw [List.map_cons, List.cons.injEq] at window
      obtain ⟨rfl, rest⟩ := window
      refine ⟨filing, later, rfl, rfl, ?_, rest.symm, ?_⟩
      · rw [slots]
        exact holds.slots filing List.mem_cons_self
      · intro other member
        rw [slots]
        exact holds.slots other (List.mem_cons_of_mem _ member)

/-- The buffer of a retired slot is taken out. -/
theorem vacate (holds : next.Holds waiting) (sound : ring.WellFormed) {index : Nat}
    (retired : ring.retire? = some (index, next)) : (next.vacate index).Holds waiting :=
  holds.modify ReceiveSlot.vacate (notMem_window_of_retire sound retired)

end Holds

end Ring

/-! ## Steps -/

/-- What waits before and after a step, which may file a transfer. -/
inductive Succeeds : List Filing → Option Filing → List Filing → Prop where
  /-- A filing joins at the end, if there is one. -/
  | joined (waiting : List Filing) (filing? : Option Filing) :
      Succeeds waiting filing? (waiting ++ filing?.toList)
  /-- The oldest filing leaves. -/
  | left (oldest : Filing) (later : List Filing) : Succeeds (oldest :: later) none later
  /-- All filings leave at once. -/
  | released (waiting : List Filing) : Succeeds waiting none []

/-- What waits are the latest filings. -/
theorem Succeeds.suffix {waiting later all : List Filing} {filing? : Option Filing}
    (succeeds : Succeeds waiting filing? later) (latest : waiting <:+ all) :
    later <:+ all ++ filing?.toList := by
  cases succeeds with
  | joined =>
      obtain ⟨front, rfl⟩ := latest
      exact ⟨front, (List.append_assoc ..).symm⟩
  | left oldest =>
      rw [Option.toList_none, List.append_nil]
      exact (List.suffix_cons oldest later).trans latest
  | released => exact List.nil_suffix

/-- A slot that stays in the window does not change. -/
theorem Succeeds.slots_eq {waiting later : List Filing} {filing? : Option Filing}
    (succeeds : Succeeds waiting filing? later) {ring next : Ring ReceiveSlot}
    (before : ring.Holds waiting) (after : next.Holds later) {index : Nat}
    (inWindow : index ∈ ring.window) (stays : index ∈ next.window) :
    next.slots[index]? = ring.slots[index]? := by
  obtain ⟨filing, early, late, rfl⟩ :
      ∃ filing, filing ∈ waiting ∧ filing ∈ later ∧ filing.index = index := by
    cases succeeds with
    | joined =>
        obtain ⟨filing, member, rfl⟩ := before.exists_filing inWindow
        exact ⟨filing, member, List.mem_append_left _ member, rfl⟩
    | left oldest =>
        obtain ⟨filing, member, rfl⟩ := after.exists_filing stays
        exact ⟨filing, List.mem_cons_of_mem _ member, member, rfl⟩
    | released =>
        obtain ⟨filing, member, -⟩ := after.exists_filing stays
        contradiction
  rw [before.slots filing early, after.slots filing late]

namespace Reception

/-- The filing of an event. -/
def Event.filing? (event : Event) (reception : Reception) : Option Filing :=
  event.filed?.map (Filing.mk reception.ring.stop)

/-- The window holds what these filings left, and lies in slots that were posted. -/
structure Filled (reception : Reception) (waiting : List Filing) : Prop where
  holds : reception.ring.Holds waiting
  posted : ∀ index ∈ reception.ring.window, index < reception.bringUp.posted

variable {reception next : Reception} {event : Event} {waiting : List Filing}

namespace Filled

/-- Nothing waits in a window without slots. -/
theorem of_window_eq_nil (empty : reception.ring.window = []) : reception.Filled [] where
  holds := .of_window_eq_nil empty
  posted := by simp [empty]

/-- The ring is released, or it was never filed into. -/
theorem release (empty : next.ring.window = []) :
    ∃ later, next.Filled later ∧ Succeeds waiting none later :=
  ⟨[], .of_window_eq_nil empty, .released waiting⟩

/-- No filing joins or leaves. -/
theorem keep (filled : reception.Filled waiting) (holds : next.ring.Holds waiting)
    (posted : ∀ index ∈ reception.ring.window, index < reception.bringUp.posted →
      index < next.bringUp.posted) :
    ∃ later, next.Filled later ∧ Succeeds waiting none later := by
  refine ⟨waiting, ⟨holds, ?_⟩, ?_⟩
  · intro index member
    rw [holds.window, ← filled.holds.window] at member
    exact posted index member (filled.posted index member)
  · simpa using Succeeds.joined waiting none

/-- The oldest filing is taken out. -/
theorem take (filled : reception.Filled waiting) (sound : reception.Sound) {index : Nat}
    {ring : Ring ReceiveSlot} (retired : reception.ring.retire? = some (index, ring))
    (vacated : next.ring = ring.vacate index) (posted : next.bringUp = reception.bringUp) :
    ∃ later, next.Filled later ∧ Succeeds waiting none later := by
  obtain ⟨oldest, later, rfl, -, -, rest⟩ := filled.holds.retire sound.ring retired
  refine ⟨later, ⟨?_, ?_⟩, .left oldest later⟩
  · rw [vacated]
    exact rest.vacate sound.ring retired
  · intro other member
    rw [vacated] at member
    rw [posted]
    refine filled.posted other ?_
    rw [Ring.window_retire sound.ring retired]
    exact List.mem_cons_of_mem _ member

/-- A transfer is filed into a slot that was posted. -/
theorem file (filled : reception.Filled waiting) (sound : reception.Sound)
    {transfer : Transfer Buffer} (expected : reception.ring.Expects transfer.handle)
    (timely : reception.ring.stop < reception.bringUp.posted)
    (ring : next.ring = reception.ring.file transfer)
    (posted : next.bringUp = reception.bringUp) :
    next.Filled (waiting ++ [⟨reception.ring.stop, transfer⟩]) where
  holds := ring ▸ filled.holds.file sound.ring expected
  posted index member := by
    have window := Ring.window_publish
      (sound.ring.modify reception.ring.stop (ReceiveSlot.file transfer))
      (Ring.publish_file transfer expected.2.1)
    rw [ring, window, List.mem_append, List.mem_singleton] at member
    rw [posted]
    rcases member with early | rfl
    · exact filled.posted index early
    · exact timely

/-- Every step moves the filings that wait and changes nothing of what they left. -/
theorem step (filled : reception.Filled waiting) (sound : reception.Sound)
    (step : Step reception event next) (timely : event.IsTimely reception) :
    ∃ later, next.Filled later ∧ Succeeds waiting (event.filing? reception) later := by
  have still : ∀ index ∈ reception.ring.window, index < reception.bringUp.posted →
      index < reception.bringUp.posted := fun _ _ below => below
  have bounded : ∀ index ∈ reception.ring.window, index < receiveSlots := fun index member =>
    (Ring.lt_of_mem_window sound.ring member).trans_eq sound.capacity
  cases step with
  | acquired created | acquisitionFailed created =>
      obtain rfl := sound.untouched created
      exact release rfl
  | drained => exact release rfl
  | @posted index slot buffer posting =>
      -- Bringing up is ahead of the window, so it takes no buffer out of it.
      have outside : index ∉ reception.ring.window := by
        intro member
        have bound := filled.posted index member
        rw [posting] at bound
        exact absurd bound (Nat.lt_irrefl _)
      refine filled.keep (filled.holds.modify _ outside) fun other _ below => ?_
      rw [posting] at below
      exact Nat.lt_succ_of_lt below
  | passedOver posting =>
      refine filled.keep filled.holds fun other _ below => ?_
      rw [posting] at below
      exact Nat.lt_succ_of_lt below
  | postTaken submitting =>
      refine filled.keep filled.holds fun other _ below => ?_
      rw [submitting] at below
      exact below
  | slotMissing | cameUp =>
      exact filled.keep filled.holds fun index member _ => bounded index member
  | postRefused =>
      exact filled.keep (filled.holds.putBack _ _) fun index member _ => bounded index member
  | @filed transfer expected =>
      exact ⟨_, filled.file sound expected (timely transfer rfl) rfl rfl, .joined waiting _⟩
  | slotLost popping retired missing =>
      obtain ⟨filing, later, -, -, found, -⟩ := filled.holds.retire sound.ring retired
      rw [missing] at found
      contradiction
  | slotSkipped popping retired found vacant =>
      obtain ⟨filing, later, -, -, same, -⟩ := filled.holds.retire sound.ring retired
      obtain rfl := Option.some.inj (found.symm.trans same)
      contradiction
  | opened popping retired | setAside popping retired => exact filled.take sound retired rfl rfl
  | dismissedTo | kept | refused => exact filled.keep (filled.holds.putBack _ _) still
  | unchanged | dismissed | passStarted | nothingLeft | walked | rejected | dropped | handedUp
  | judged | givenBack | taken | closed => exact filled.keep filled.holds still

end Filled

end Reception

/-! ## Runs -/

namespace Moment

/-- The pass takes out what was filed first of what waits, and there always is something to
take out unless nothing waits. -/
def TakesOldest (past : History) (moment : Moment) : Prop :=
  ∀ memory, moment.input = .proceedPass memory → moment.before.pass = .popping →
    moment.before.receiveOccupancy ≠ 0 →
    ∃ oldest, past.filings[past.filings.length - moment.before.receiveOccupancy]? = some oldest ∧
      oldest.index = moment.before.receive.start ∧
      moment.after.pass = oldest.pass moment.before.device.accepts

/-- A slot that stays in the window does not change. -/
def KeepsWindow (moment : Moment) : Prop :=
  ∀ index ∈ moment.before.receive.window, index ∈ moment.after.receive.window →
    moment.after.receive.slots[index]? = moment.before.receive.slots[index]?

/-- What a moment files is timely in the slots that were posted. -/
theorem event_isTimely {moment : Moment} {event : Reception.Event} (tells : event.Tells moment)
    (sound : moment.before.Sound) (timely : moment.isTimely = true) :
    event.IsTimely moment.before.reception := by
  rintro transfer rfl
  show moment.before.receive.stop < moment.before.bringUp.posted
  cases posting : moment.before.bringUp.isPosting with
  | true => simpa [isTimely, tells.filed, Reception.Event.filed?, posting] using timely
  | false =>
      rw [BringUp.posted_eq posting]
      exact sound.reception.ring.stop_lt.trans_eq sound.reception.capacity

/-- A timely moment moves the filings that wait. -/
theorem filled_after {moment : Moment} {waiting : List Filing} (sound : moment.before.Sound)
    (filled : moment.before.reception.Filled waiting) (timely : moment.isTimely = true) :
    ∃ later, moment.after.reception.Filled later ∧ Succeeds waiting moment.filing? later := by
  obtain ⟨event, step, tells⟩ := moment.reception_step
  have same : moment.filing? = event.filing? moment.before.reception := by
    rw [filing?, tells.filed]
    rfl
  rw [same]
  exact filled.step sound.reception step (event_isTimely tells sound timely)

end Moment

namespace Engine

/-- As long as transfers are filed into slots that were posted, the window holds the latest
filings. -/
theorem filled_run (config : Config) (inputs : List Input)
    (timely : ∀ moment ∈ (fresh config).history inputs, moment.isTimely = true) :
    ∃ waiting, ((fresh config).run inputs).1.reception.Filled waiting ∧
      waiting <:+ ((fresh config).history inputs).filings := by
  refine (History.invariant
    (fun engine history => engine.Sound ∧ ((∀ moment ∈ history, moment.isTimely = true) →
      ∃ waiting, engine.reception.Filled waiting ∧ waiting <:+ History.filings history))
    ⟨sound_fresh config, fun _ => ⟨[], .of_window_eq_nil rfl, List.nil_suffix⟩⟩
    ?kept inputs).2 timely
  rintro history moment ⟨sound, early⟩
  refine ⟨sound.after, fun timely => ?_⟩
  rw [List.forall_mem_append, List.forall_mem_singleton] at timely
  obtain ⟨waiting, filled, latest⟩ := early timely.1
  obtain ⟨later, after, succeeds⟩ := Moment.filled_after sound filled timely.2
  refine ⟨later, after, ?_⟩
  rw [History.filings_concat]
  exact succeeds.suffix latest

/-- A pass that finds filings waiting takes out the oldest one. -/
theorem pass_popReceive {engine : Engine} {waiting : List Filing} (sound : engine.Sound)
    (filled : engine.reception.Filled waiting) (present : engine.receiveOccupancy ≠ 0) :
    ∃ oldest later, waiting = oldest :: later ∧ oldest.index = engine.receive.start ∧
      engine.popReceive.pass = oldest.pass engine.device.accepts := by
  have nonempty : engine.receive.isEmpty = false := by
    simpa [Ring.isEmpty, receiveOccupancy] using present
  obtain ⟨index, ring, retired⟩ := Ring.exists_retire? nonempty
  obtain ⟨oldest, later, rfl, same, found, -⟩ := filled.holds.retire sound.reception.ring retired
  obtain ⟨-, rfl, -⟩ := Ring.retire?_eq_some retired
  refine ⟨oldest, later, rfl, same, ?_⟩
  rw [popReceive, retired]
  simp only [found, Transfer.slot]
  rw [Filing.pass, Filing.work, same]

theorem takesOldest {past : History} {moment : Moment} {waiting : List Filing}
    (sound : moment.before.Sound) (filled : moment.before.reception.Filled waiting)
    (latest : waiting <:+ past.filings) : moment.TakesOldest past := by
  intro memory input popping present
  obtain ⟨oldest, later, rfl, index, pass⟩ := pass_popReceive sound filled present
  have used : (oldest :: later).length = moment.before.receiveOccupancy := filled.holds.length_eq
  refine ⟨oldest, ?_, index, ?_⟩
  · obtain ⟨front, all⟩ := latest
    rw [← all, ← used, List.length_append, Nat.add_sub_cancel,
      List.getElem?_append_right (Nat.le_refl _), Nat.sub_self]
    rfl
  · obtain ⟨before, input⟩ := moment
    subst input
    rw [Moment.after_proceedPass]
    simp only at popping
    simpa [proceedPass?, popping] using pass

/-- Wherever a run leads, the receive ring is a window of at most all slots, and each slot in
it holds what the transfer left that was filed into it: the window holds the latest filings,
oldest first.  The pass takes them out in that order and never finds a slot without a
buffer, and a slot does not change while it is in the window.  Transfers may end with any
handle and any buffer, at any time but while buffers are being posted, and buffers may be
refused. -/
theorem window_holds_filings (config : Config) (inputs : List Input)
    (whole : ((fresh config).history inputs).BringsUpAtOnce) :
    let history := (fresh config).history inputs
    let receive := ((fresh config).run inputs).1.receive
    (receive.used ≤ receiveSlots ∧
        receive.stop = (receive.start + receive.used) % receiveSlots) ∧
      receive.Holds (history.filings.drop (history.filings.length - receive.used)) ∧
      Throughout Moment.TakesOldest history ∧ ∀ moment ∈ history, moment.KeepsWindow := by
  intro history receive
  have timely : ∀ moment ∈ history, moment.isTimely = true := fun moment member =>
    Moment.isTimely_of_isOfBringUp (whole moment member)
  have sound := (sound_run config inputs).reception
  obtain ⟨waiting, filled, latest⟩ := filled_run config inputs timely
  -- What was said of the end of the run holds at the beginning of each of its moments.
  have early : ∀ past moment later, history = past ++ moment :: later →
      moment.before.Sound ∧ moment.isTimely = true ∧
        ∃ waiting, moment.before.reception.Filled waiting ∧ waiting <:+ History.filings past := by
    intro past moment later split
    rw [split] at timely
    obtain ⟨before, input, after, -, rfl, rfl, -⟩ := history_eq_append_cons split
    exact ⟨sound_run config before, timely _ (by simp),
      filled_run config before fun earlier member => timely earlier (by simp [member])⟩
  refine ⟨⟨?_, ?_⟩, ?_, ?_, ?_⟩
  · exact sound.ring.used_le.trans_eq sound.capacity
  · exact sound.capacity ▸ sound.ring.stop_eq
  · have used : waiting.length = receive.used := filled.holds.length_eq
    rw [← used, ← List.suffix_iff_eq_drop.mp latest]
    exact filled.holds
  · intro past moment later split
    obtain ⟨before, -, waiting, filled, latest⟩ := early past moment later split
    exact takesOldest before filled latest
  · intro moment member index inWindow stays
    obtain ⟨past, later, split⟩ := List.append_of_mem member
    obtain ⟨before, inTime, waiting, filled, -⟩ := early past moment later split
    obtain ⟨later, after, succeeds⟩ := Moment.filled_after before filled inTime
    exact succeeds.slots_eq filled.holds after.holds inWindow stays

/-- The inputs of a pass over a buffer whose transfer is reported twice, beside one that nobody
submitted.  While its frame is being judged another transfer fails, and a third one ends
when the transport refuses the buffer that is given back. -/
def strayInputs : List Input :=
  let segment : Segment := ⟨(0, 0), .blank, [8, 0, 0, 0], ⟨0⟩⟩
  let next : Input := .proceedPass fun _ => true
  bringUpInputs ++
    [.completeReceive ⟨384, ⟨segment.encode⟩, .ok, 36⟩, .completeReceive ⟨384, ⟨[1]⟩, .ok, 1⟩,
      .completeReceive ⟨7, ⟨[2]⟩, .ok, 1⟩, .startPass, next, next,
      .completeReceive ⟨385, ⟨[3]⟩, .io 5, 1⟩, .answerDelivery true, next, next,
      .answerRepost (some ⟨.io 5, false⟩), .completeReceive ⟨386, ⟨[4]⟩, .ok, 1⟩, next]

/-- Of the three transfers that were filed the last one waits. -/
theorem window_holds_filings_forged :
    let history := (fresh .small).history strayInputs
    let receive := ((fresh .small).run strayInputs).1.receive
    history.BringsUpAtOnce ∧ history.filings.map Filing.index = [0, 1, 2] ∧ receive.start = 2 ∧
      receive.stop = (receive.start + 1) % receiveSlots ∧
      receive.Holds [⟨2, ⟨386, ⟨[4]⟩, .ok, 1⟩⟩] ∧ Throughout Moment.TakesOldest history ∧
      ∀ moment ∈ history, moment.KeepsWindow := by
  intro history receive
  have facts : history.BringsUpAtOnce ∧ history.filings.map Filing.index = [0, 1, 2] ∧
      receive.start = 2 ∧ receive.used = 1 ∧
      history.filings.drop 2 = [⟨2, ⟨386, ⟨[4]⟩, .ok, 1⟩⟩] := by
    decide +kernel
  obtain ⟨whole, indices, start, used, last⟩ := facts
  obtain ⟨⟨-, stop⟩, holds, oldest, keeps⟩ := window_holds_filings .small strayInputs whole
  have three : history.filings.length = 3 := by
    simpa using congrArg List.length indices
  change receive.stop = (receive.start + receive.used) % receiveSlots at stop
  change receive.Holds (history.filings.drop (history.filings.length - receive.used)) at holds
  rw [used] at stop
  rw [three, used, last] at holds
  exact ⟨whole, indices, start, stop, holds, oldest, keeps⟩

end Engine

end WlanDatapath
