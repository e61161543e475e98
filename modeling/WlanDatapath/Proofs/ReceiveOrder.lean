import WlanDatapath.Proofs.Anomalies
import WlanDatapath.Proofs.Delivery

/-!
# The ring and the transport stay in step

A transport that takes every receive buffer and returns the oldest one first holds
the buffers of the slots outside the window, in slot order.  So every transfer
that ends is the one whose turn it is, and no mismatch is ever counted or
reported.

`Reception.Aligned` splits the gap of the ring into the slots whose buffers the
transport holds and those whose buffers are still to be submitted.  The latter are
the slots not posted yet while bringing up, and behind them at most one, whose
buffer the pass has.  It is kept as long as the pass gives no buffer back before all
slots are posted.  `Reception.InStep` adds that no pass goes on so early, so that it
cannot.
-/

namespace WlanDatapath

/-! ## What the transport holds -/

namespace History

/-- The handles on which the transport holds receive buffers after a moment. -/
def holdAfter (held : List Handle) (moment : Moment) : List Handle :=
  (if moment.ended?.isSome then held.tail else held) ++ moment.reposted

/-- The handles on which the transport holds receive buffers, oldest first, if it
takes every buffer and returns the oldest first. -/
def held (history : History) : List Handle :=
  history.foldl holdAfter []

@[simp]
theorem held_concat (history : History) (moment : Moment) :
    held (history ++ [moment]) = holdAfter (held history) moment := by
  simp [held]

end History

/-! ## Slots whose buffers are to be submitted -/

/-- The slots not posted yet, in slot order. -/
def BringUp.unposted : BringUp → List Nat
  | .posting index => List.range' index (receiveSlots - index)
  | .submitting work => List.range' (work.index + 1) (receiveSlots - (work.index + 1))
  | .idle | .failing _ => []

/-- The buffer that the pass has. -/
def Pass.work? : Pass → Option Work
  | .walking work _ | .delivering work _ | .returning work => some work
  | .idle | .popping | .submitting _ => none

theorem BringUp.unposted_eq_nil {bringUp : BringUp} (finished : bringUp.isPosting = false) :
    bringUp.unposted = [] := by
  cases bringUp with
  | idle | failing failure => rfl
  | posting index | submitting work => cases finished

/-- The slot that is posted next is the first one not posted yet. -/
theorem BringUp.unposted_posting {index : Nat} (below : index < receiveSlots) :
    (BringUp.posting index).unposted = index :: (BringUp.posting (index + 1)).unposted := by
  have size : receiveSlots - index = receiveSlots - (index + 1) + 1 := by omega
  rw [unposted, unposted, size, List.range'_succ]

/-- Filing takes the first slot of the gap. -/
theorem Ring.gap_file {ring : Ring ReceiveSlot} (sound : ring.WellFormed)
    (transfer : Transfer Buffer) (room : ring.isFull = false) :
    ring.gap = ring.stop :: (ring.file transfer).gap := by
  have gap := Ring.gap_publish (sound.modify ring.stop (ReceiveSlot.file transfer))
    (Ring.publish_file transfer room)
  exact gap

namespace Reception

/-- The slots outside the window whose buffers the transport does not hold, in the
order in which they will be submitted. -/
def unsent (reception : Reception) : List Nat :=
  reception.bringUp.unposted ++ (reception.pass.work?.map (·.index)).toList

/-- The pass gives a buffer back while slots are not posted yet. -/
def overtakes (reception next : Reception) : Bool :=
  match reception.pass, next.pass with
  | .returning _, .submitting _ => !reception.bringUp.unposted.isEmpty
  | _, _ => false

/-- The transport holds the buffers of the slots in the gap that were sent. -/
structure Aligned (reception : Reception) (held : List Handle) (sent : List Nat) : Prop where
  gap : reception.ring.gap = sent ++ reception.unsent
  held : held.map some = sent.map (reception.ring.handles[·]?)
  filled : ∀ outcome ∈ reception.ring.pending, outcome ≠ none
  unposted : ∀ index ∈ reception.bringUp.unposted, reception.ring.outcome? index ≠ none
  own : ∀ work, reception.pass.work? = some work →
    reception.ring.handles[work.index]? = some work.handle

/-- The transport holds the buffers of the slots in the gap that were sent, and no
pass goes on while slots are not posted yet. -/
structure InStep (reception : Reception) (held : List Handle) (sent : List Nat) : Prop where
  gap : reception.ring.gap = sent ++ reception.unsent
  held : held.map some = sent.map (reception.ring.handles[·]?)
  filled : ∀ outcome ∈ reception.ring.pending, outcome ≠ none
  unposted : ∀ index ∈ reception.bringUp.unposted, reception.ring.outcome? index ≠ none
  alone : reception.bringUp.isPosting = true → reception.pass = .idle
  own : ∀ work, reception.pass.work? = some work →
    reception.ring.handles[work.index]? = some work.handle

variable {reception next : Reception} {event : Event} {held : List Handle} {sent : List Nat}

/-- The slot at the front of the gap is the one whose turn it is. -/
theorem Sound.expects_front (sound : reception.Sound) (accepts : reception.stage.accepts = true)
    {index : Nat} {later : List Nat} (front : reception.ring.gap = index :: later) :
    index = reception.ring.stop ∧ reception.ring.isComplete = true ∧
      reception.ring.isFull = false ∧
      reception.ring.producer?.map (·.handle) = reception.ring.handles[index]? := by
  have room : reception.ring.isFull = false := by
    have size := congrArg List.length front
    simp only [Ring.gap, List.length_map, List.length_range, List.length_cons] at size
    simp only [Ring.isFull, decide_eq_false_iff_not, Nat.not_le]
    omega
  obtain ⟨published, publish⟩ := Ring.exists_publish room
  have first := Ring.gap_publish sound.ring publish
  rw [front, List.cons.injEq] at first
  obtain ⟨rfl, -⟩ := first
  refine ⟨rfl, ?_, room, List.getElem?_map.symm⟩
  simp [Ring.isComplete, sound.populated accepts, sound.capacity]

/-- A device that accepts has the slot that it retires. -/
theorem Sound.slot_ne_none_of_retire (sound : reception.Sound)
    (accepts : reception.stage.accepts = true) {index : Nat} {ring : Ring ReceiveSlot}
    (retired : reception.ring.retire? = some (index, ring)) : ring.slots[index]? ≠ none := by
  have size := sound.populated accepts
  obtain ⟨-, rfl, rfl⟩ := Ring.retire?_eq_some retired
  have inRange := sound.ring.start_lt
  rw [sound.capacity, ← size] at inRange
  rw [List.getElem?_eq_getElem inRange]
  exact Option.some_ne_none _

namespace Aligned

/-- The ring stays as it is, and nothing is submitted. -/
theorem keep (aligned : reception.Aligned held sent) (ring : next.ring = reception.ring)
    (unposted : next.bringUp.unposted = reception.bringUp.unposted)
    (work : next.pass.work? = reception.pass.work?) : next.Aligned held sent := by
  constructor
  · rw [ring, unsent, unposted, work]
    exact aligned.gap
  · rw [ring]
    exact aligned.held
  · rw [ring]
    exact aligned.filled
  · rw [ring, unposted]
    exact aligned.unposted
  · rw [ring, work]
    exact aligned.own

/-- The transfer on the handle held longest is the one whose turn it is. -/
theorem expects (aligned : reception.Aligned held sent) (sound : reception.Sound)
    (accepts : reception.stage.accepts = true) {handle : Handle}
    (oldest : held.head? = some handle) :
    reception.ring.Expects handle ∧ ∃ later, sent = reception.ring.stop :: later := by
  cases sent with
  | nil =>
      have none := aligned.held
      rw [List.map_nil, List.map_eq_nil_iff] at none
      rw [none] at oldest
      contradiction
  | cons first later =>
      obtain ⟨rfl, complete, room, turn⟩ := sound.expects_front accepts aligned.gap
      refine ⟨⟨complete, room, ?_⟩, later, rfl⟩
      have same := congrArg List.head? aligned.held
      rw [List.head?_map, oldest, List.map_cons, List.head?_cons, Option.map_some,
        Option.some.injEq] at same
      rw [turn, same]

/-- The transfer whose turn it is, is filed. -/
theorem file (aligned : reception.Aligned held (reception.ring.stop :: sent))
    (sound : reception.Sound) {transfer : Transfer Buffer}
    (expected : reception.ring.Expects transfer.handle)
    (ring : next.ring = reception.ring.file transfer) (bringUp : next.bringUp = reception.bringUp)
    (pass : next.pass = reception.pass) : next.Aligned held.tail sent := by
  have handles : next.ring.handles = reception.ring.handles := by
    rw [ring, Ring.handles_file]
  constructor
  · have before := Ring.gap_file sound.ring transfer expected.2.1
    rw [aligned.gap, List.cons_append, List.cons.injEq] at before
    rw [ring, unsent, bringUp, pass]
    exact before.2.symm
  · rw [List.map_tail, aligned.held, handles]
    rfl
  · intro outcome member
    rw [ring, Ring.pending_file sound.ring expected, List.mem_append, List.mem_singleton] at member
    rcases member with early | rfl
    · exact aligned.filled outcome early
    · simp
  · intro index member
    rw [bringUp] at member
    rw [ring]
    exact Ring.outcome?_file_ne_none transfer (aligned.unposted index member)
  · rw [handles, pass]
    exact aligned.own

/-- The first slot to be submitted is submitted. -/
theorem submit (aligned : reception.Aligned held sent) {index : Nat} {handle : Handle}
    (first : reception.unsent = index :: next.unsent)
    (named : reception.ring.handles[index]? = some handle)
    (gap : next.ring.gap = reception.ring.gap)
    (handles : next.ring.handles = reception.ring.handles)
    (pending : next.ring.pending = reception.ring.pending)
    (unposted : ∀ index ∈ next.bringUp.unposted, next.ring.outcome? index ≠ none)
    (work : ∀ work, next.pass.work? = some work → reception.pass.work? = some work) :
    next.Aligned (held ++ [handle]) (sent ++ [index]) := by
  refine ⟨?_, ?_, ?_, unposted, ?_⟩
  · rw [gap, aligned.gap, first, List.append_assoc]
    rfl
  · rw [List.map_append, List.map_append, aligned.held, handles, List.map_singleton,
      List.map_singleton, named]
  · rw [pending]
    exact aligned.filled
  · intro claimed has
    rw [handles]
    exact aligned.own claimed (work claimed has)

/-- The pass takes the oldest buffer. -/
theorem take (aligned : reception.Aligned held sent) (sound : reception.Sound) {index : Nat}
    {ring : Ring ReceiveSlot} {slot : ReceiveSlot} {buffer : Buffer}
    (popping : reception.pass = .popping)
    (retired : reception.ring.retire? = some (index, ring))
    (found : ring.slots[index]? = some slot) (vacated : next.ring = ring.vacate index)
    (bringUp : next.bringUp = reception.bringUp)
    (work : next.pass.work? = some ⟨index, slot.handle, buffer⟩) : next.Aligned held sent := by
  have gap := Ring.gap_retire sound.ring retired
  have pending := Ring.pending_retire sound.ring retired
  have outside := Ring.notMem_window_of_retire sound.ring retired
  have kept : ring.handles = reception.ring.handles := Ring.handles_retire retired
  have handles : next.ring.handles = reception.ring.handles := by
    rw [vacated, Ring.handles_vacate, kept]
  have before : reception.ring.gap = sent ++ reception.bringUp.unposted := by
    rw [aligned.gap, unsent, popping]
    simp [Pass.work?]
  constructor
  · rw [vacated, unsent, bringUp, work]
    show ring.gap = _
    rw [gap, before]
    simp
  · rw [handles]
    exact aligned.held
  · rw [vacated, Ring.vacate, Ring.pending_modify _ outside]
    intro outcome member
    exact aligned.filled outcome (by rw [pending]; exact List.mem_cons_of_mem _ member)
  · intro other member
    rw [bringUp] at member
    have apart : index ≠ other := by
      rintro rfl
      have distinct : ring.gap.Nodup := Ring.nodup_gap
      rw [gap, before, List.nodup_append'] at distinct
      exact distinct.2.2 (List.mem_append_right _ member) (List.mem_singleton_self _)
    rw [vacated, Ring.vacate, Ring.outcome?_modify_of_ne _ apart]
    obtain ⟨-, -, rfl⟩ := Ring.retire?_eq_some retired
    exact aligned.unposted other member
  · intro other same
    rw [work, Option.some.injEq] at same
    subst same
    rw [handles, ← kept, Ring.handles, List.getElem?_map, found]
    rfl

/-- The next slot is posted. -/
theorem post (aligned : reception.Aligned held sent) (sound : reception.Sound) {index : Nat}
    {slot : ReceiveSlot} {buffer : Buffer} (posting : reception.bringUp = .posting index)
    (below : index < receiveSlots) (found : reception.ring.slots[index]? = some slot) :
    Aligned { reception with
        ring := reception.ring.vacate index
        bringUp := .submitting ⟨index, slot.handle, buffer⟩ }
      (held ++ [slot.handle]) (sent ++ [index]) := by
  have unposted := BringUp.unposted_posting below
  have first : reception.unsent = index :: ((BringUp.posting (index + 1)).unposted ++
      (reception.pass.work?.map (·.index)).toList) := by
    rw [unsent, posting, unposted]
    rfl
  have inGap : index ∈ reception.ring.gap := by
    rw [aligned.gap, first]
    simp
  have outside := Ring.notMem_window_of_mem_gap sound.ring inGap
  refine aligned.submit first (Ring.handles_of_slot found) rfl (Ring.handles_vacate _ _)
    (Ring.pending_modify _ outside) ?_ fun _ => id
  intro other member
  have apart : index ≠ other := by
    rintro rfl
    simp only [BringUp.unposted, List.mem_range'_1] at member
    omega
  rw [Ring.vacate, Ring.outcome?_modify_of_ne _ apart]
  apply aligned.unposted
  rw [posting, unposted]
  exact List.mem_cons_of_mem _ member

/-- Every step of a device that accepts keeps the ring and the transport aligned, if
the oldest transfer ends first, no buffer is refused and the pass does not give one
back before all buffers are posted. -/
theorem step (aligned : reception.Aligned held sent) (sound : reception.Sound)
    (step : Step reception event next) (accepts : reception.stage.accepts = true)
    (alive : next.stage ≠ .dead)
    (oldest : ∀ transfer, event.ended? = some transfer → held.head? = some transfer.handle)
    (unrefused : event.refused? = none) (straight : reception.overtakes next = false) :
    ∃ sent, next.Aligned
      ((if event.ended?.isSome then held.tail else held) ++ event.submitted?.toList) sent := by
  have still : event.ended? = none → event.submitted? = none →
      (∃ sent, next.Aligned held sent) →
      ∃ sent, next.Aligned
        ((if event.ended?.isSome then held.tail else held) ++ event.submitted?.toList) sent := by
    intro noEnd noSubmission kept
    rw [noEnd, noSubmission]
    simpa using kept
  cases step with
  | acquisitionFailed | slotMissing | postRefused | closed => exact absurd rfl alive
  | drained begun => exact absurd (sound.begun begun) alive
  | refused => exact absurd unrefused (Option.some_ne_none _)
  | acquired created =>
      rw [created] at accepts
      contradiction
  | posted posting below found =>
      exact ⟨_, aligned.post sound posting below found⟩
  | @passedOver index slot posting below found vacant =>
      have present := aligned.unposted index (by
        rw [posting, BringUp.unposted_posting below]
        simp)
      simp [Ring.outcome?, found, ReceiveSlot.outcome?, vacant] at present
  | cameUp posting all =>
      have none : reception.bringUp.unposted = [] := by
        rw [posting, BringUp.unposted, Nat.sub_eq_zero_of_le all]
        rfl
      exact still rfl rfl ⟨sent, aligned.keep rfl none.symm rfl⟩
  | postTaken submitting =>
      refine still rfl rfl ⟨sent, aligned.keep rfl ?_ rfl⟩
      rw [submitting]
      rfl
  | @filed transfer expected =>
      obtain ⟨-, later, rfl⟩ := aligned.expects sound accepts (oldest transfer rfl)
      refine ⟨later, ?_⟩
      show Aligned _ (held.tail ++ []) _
      rw [List.append_nil]
      exact aligned.file sound expected rfl rfl rfl
  | @dismissed transfer unexpected | @dismissedTo transfer _ unexpected =>
      exact absurd (aligned.expects sound accepts (oldest transfer rfl)).1 unexpected
  | passStarted entered =>
      refine still rfl rfl ⟨sent, aligned.keep rfl rfl ?_⟩
      rw [sound.idle_of_enter? entered]
      rfl
  | nothingLeft popping =>
      refine still rfl rfl ⟨sent, aligned.keep rfl rfl ?_⟩
      rw [popping, leave]
      split <;> rfl
  | slotLost popping retired missing =>
      exact absurd missing (sound.slot_ne_none_of_retire accepts retired)
  | @slotSkipped index ring slot popping retired found vacant =>
      have front := aligned.filled (reception.ring.outcome? index)
      rw [Ring.pending_retire sound.ring retired] at front
      obtain ⟨-, -, rfl⟩ := Ring.retire?_eq_some retired
      have vacated : reception.ring.outcome? index = none := by
        rw [Ring.outcome?, found]
        simp [ReceiveSlot.outcome?, vacant]
      exact absurd vacated (front (List.mem_cons_self ..))
  | opened popping retired found | setAside popping retired found =>
      exact still rfl rfl ⟨sent, aligned.take sound popping retired found rfl rfl rfl⟩
  | givenBack returning =>
      have nothing : reception.bringUp.unposted = [] := by
        simpa [overtakes, returning] using straight
      refine ⟨_, aligned.submit ?_ (aligned.own _ ?_) rfl rfl rfl aligned.unposted ?_⟩
      · rw [unsent, unsent, nothing, returning]
        rfl
      · rw [returning]
        rfl
      · exact fun _ claimed => absurd claimed (Option.not_mem_none _)
  | kept _ shut =>
      rw [accepts] at shut
      contradiction
  | walked place | rejected place | dropped place | handedUp place | judged place
  | taken place =>
      refine still rfl rfl ⟨sent, aligned.keep rfl rfl ?_⟩
      rw [place]
      rfl
  | unchanged => exact still rfl rfl ⟨sent, aligned.keep rfl rfl rfl⟩

end Aligned

namespace InStep

theorem aligned (inStep : reception.InStep held sent) : reception.Aligned held sent :=
  ⟨inStep.gap, inStep.held, inStep.filled, inStep.unposted, inStep.own⟩

theorem of_aligned (aligned : reception.Aligned held sent)
    (alone : reception.bringUp.isPosting = true → reception.pass = .idle) :
    reception.InStep held sent :=
  ⟨aligned.gap, aligned.held, aligned.filled, aligned.unposted, alone, aligned.own⟩

/-- No pass goes on while slots are posted, if none starts then. -/
theorem alone_step (inStep : reception.InStep held sent) (step : Step reception event next)
    (accepts : reception.stage.accepts = true) (alive : next.stage ≠ .dead)
    (prompt : event = .passStarted → reception.bringUp.isPosting = false)
    (posting : next.bringUp.isPosting = true) : next.pass = .idle := by
  have active : ∀ place, reception.pass = place → place ≠ .idle →
      reception.bringUp.isPosting = false := by
    rintro place rfl going
    rw [← Bool.not_eq_true]
    exact fun before => going (inStep.alone before)
  cases step with
  | acquisitionFailed | slotMissing | postRefused | closed => exact absurd rfl alive
  | acquired created =>
      rw [created] at accepts
      contradiction
  | posted place | passedOver place | postTaken place => exact inStep.alone (by rw [place]; rfl)
  | cameUp => contradiction
  | passStarted =>
      rw [prompt rfl] at posting
      contradiction
  | nothingLeft place | slotLost place | slotSkipped place | opened place | setAside place
  | walked place | rejected place | dropped place | handedUp place | judged place
  | givenBack place | kept place | taken place | refused place =>
      have finished := active _ place (by simp)
      exact absurd (finished.symm.trans posting) Bool.false_ne_true
  | unchanged | filed | dismissed | dismissedTo => exact inStep.alone posting
  | drained _ _ waiting =>
      rcases waiting with rfl | ⟨-, rfl⟩
      · exact inStep.alone posting
      · contradiction

/-- Every step of a device that accepts keeps the ring and the transport in step,
if the oldest transfer ends first, no buffer is refused and no pass starts before
all buffers are posted. -/
theorem step (inStep : reception.InStep held sent) (sound : reception.Sound)
    (step : Step reception event next) (accepts : reception.stage.accepts = true)
    (alive : next.stage ≠ .dead)
    (oldest : ∀ transfer, event.ended? = some transfer → held.head? = some transfer.handle)
    (unrefused : event.refused? = none)
    (prompt : event = .passStarted → reception.bringUp.isPosting = false) :
    ∃ sent, next.InStep
      ((if event.ended?.isSome then held.tail else held) ++ event.submitted?.toList) sent := by
  have straight : reception.overtakes next = false := by
    unfold overtakes
    split
    next returning _ =>
      have finished : reception.bringUp.isPosting = false := by
        rw [← Bool.not_eq_true]
        intro posting
        rw [inStep.alone posting] at returning
        contradiction
      rw [BringUp.unposted_eq_nil finished]
      rfl
    next => rfl
  obtain ⟨sent, aligned⟩ :=
    inStep.aligned.step sound step accepts alive oldest unrefused straight
  exact ⟨sent, of_aligned aligned (inStep.alone_step step accepts alive prompt)⟩

end InStep

/-- Once everything is acquired, all buffers are to be submitted. -/
theorem inStep_acquired {slots : List ReceiveSlot} (count : slots.length = receiveSlots)
    (filled : ∀ slot ∈ slots, slot.buffer.isSome = true) :
    InStep { untouched with
      stage := .running
      ring := untouched.ring.extend slots
      bringUp := .posting 0 } [] [] where
  gap := by
    show untouched.ring.gap = [] ++ ((BringUp.posting 0).unposted ++ [])
    decide
  held := rfl
  filled := by
    intro outcome member
    simp [Ring.pending, Ring.window, Ring.extend, untouched, Ring.empty] at member
  unposted := by
    intro index member
    have below : index < slots.length := by
      simpa [BringUp.unposted, count] using member
    obtain ⟨buffer, held⟩ := Option.isSome_iff_exists.mp (filled _ (List.getElem_mem below))
    simp [Ring.outcome?, Ring.extend, untouched, Ring.empty, List.getElem?_eq_getElem below,
      ReceiveSlot.outcome?, held]
  alone _ := rfl
  own _ claimed := absurd claimed (Option.not_mem_none _)

/-- A step of a device that was only created submits nothing, and leaves the ring
and the transport in step once the device accepts. -/
theorem Step.inStep_of_untouched (step : Step untouched event next) (alive : next.stage ≠ .dead)
    (unended : event.ended? = none) :
    event.submitted? = none ∧ (next.stage.accepts = true → next.InStep [] []) := by
  cases step with
  | acquired created count filled => exact ⟨rfl, fun _ => inStep_acquired count filled⟩
  | unchanged follows =>
      refine ⟨rfl, fun accepts => ?_⟩
      have before : untouched.stage.accepts = true := follows.accepts_eq ▸ accepts
      contradiction
  | acquisitionFailed | slotMissing | postRefused | closed => exact absurd rfl alive
  | drained begun => exact absurd rfl begun
  | filed | dismissed | dismissedTo => contradiction
  | passStarted entered => exact absurd entered (by simp [untouched, DeferredWork.enter?])
  | posted place | passedOver place | cameUp place | postTaken place | nothingLeft place
  | slotLost place | slotSkipped place | opened place | setAside place | walked place
  | rejected place | dropped place | handedUp place | judged place | givenBack place
  | kept place | taken place | refused place => cases place

/-- Nothing ends and nothing is submitted at a device that was only created. -/
theorem Sound.inStep_of_created (sound : reception.Sound) (created : reception.stage = .created)
    (step : Step reception event next) (alive : next.stage ≠ .dead)
    (oldest : ∀ transfer, event.ended? = some transfer →
      ([] : List Handle).head? = some transfer.handle) :
    event.ended? = none ∧ event.submitted? = none ∧
      (next.stage.accepts = true → next.InStep [] []) := by
  have unended : event.ended? = none := by
    rw [Option.eq_none_iff_forall_ne_some]
    intro transfer ended
    exact absurd (oldest transfer ended) (by simp)
  rw [sound.untouched created] at step
  exact ⟨unended, step.inStep_of_untouched alive unended⟩

end Reception

/-! ## Runs -/

/-- The transport takes every receive buffer and returns the oldest one first, and
no pass starts before all buffers are posted. -/
structure Moment.InTurn (past : History) (moment : Moment) : Prop where
  taken : moment.refusesReceive = false
  oldest : ∀ transfer ∈ moment.ended?, past.held.head? = some transfer.handle
  prompt : moment.triesPass = true → moment.before.bringUp.isPosting = false

instance (past : History) (moment : Moment) : Decidable (moment.InTurn past) :=
  decidable_of_iff
    (moment.refusesReceive = false ∧
      (∀ transfer ∈ moment.ended?, past.held.head? = some transfer.handle) ∧
      (moment.triesPass = true → moment.before.bringUp.isPosting = false))
    ⟨fun ⟨taken, oldest, prompt⟩ => ⟨taken, oldest, prompt⟩,
      fun ⟨taken, oldest, prompt⟩ => ⟨taken, oldest, prompt⟩⟩

namespace History

/-- A history in which the transport kept step with the ring. -/
structure KeepsStep (engine : Engine) (history : History) : Prop where
  created : engine.device.stage = .created → history.held = []
  inStep : engine.device.stage.accepts = true → ∃ sent, engine.reception.InStep history.held sent
  expected : ∀ moment ∈ history, ∀ transfer ∈ moment.ended?,
    moment.before.receive.Expects transfer.handle

theorem KeepsStep.after {history : History} {moment : Moment}
    (keeps : KeepsStep moment.before history) (sound : moment.before.Sound)
    (inTurn : moment.InTurn history) (alive : moment.after.device.stage ≠ .dead) :
    KeepsStep moment.after (history ++ [moment]) := by
  obtain ⟨event, step, tells⟩ := moment.reception_step
  have received := sound.reception
  have oldest : ∀ transfer, event.ended? = some transfer →
      history.held.head? = some transfer.handle := by
    intro transfer ended
    exact inTurn.oldest transfer (tells.ended.trans ended)
  have unrefused : event.refused? = none :=
    tells.refused.symm.trans (Moment.refused?_eq_none inTurn.taken)
  have hold : held (history ++ [moment]) =
      (if event.ended?.isSome then history.held.tail else history.held) ++
        event.submitted?.toList := by
    rw [held_concat, holdAfter, tells.ended, tells.reposted]
  by_cases created : moment.before.device.stage = .created
  · have nothing := keeps.created created
    rw [nothing] at oldest
    obtain ⟨unended, unsubmitted, inStep⟩ :=
      received.inStep_of_created created step alive oldest
    rw [unended, unsubmitted, nothing] at hold
    refine ⟨fun _ => hold, fun accepts => ⟨[], ?_⟩, ?_⟩
    · rw [hold]
      exact inStep accepts
    · intro other member transfer ended
      rcases List.mem_append.mp member with early | last
      · exact keeps.expected other early transfer ended
      · rw [List.mem_singleton.mp last, Option.mem_def, tells.ended, unended] at ended
        contradiction
  · have accepts := Stage.accepts_of_ne created (step.alive alive)
    obtain ⟨sent, inStep⟩ := keeps.inStep accepts
    have next := inStep.step received step accepts alive oldest unrefused
      fun started => inTurn.prompt (tells.started started)
    refine ⟨?_, fun _ => hold ▸ next, ?_⟩
    · intro again
      exact absurd again (step.begun created)
    · intro other member transfer ended
      rcases List.mem_append.mp member with early | last
      · exact keeps.expected other early transfer ended
      · rw [List.mem_singleton.mp last] at ended ⊢
        exact (inStep.aligned.expects received accepts (inTurn.oldest transfer ended)).1

theorem keepsStep (config : Config) (inputs : List Input)
    (inTurn : Throughout Moment.InTurn ((Engine.fresh config).history inputs))
    (alive : ((Engine.fresh config).run inputs).1.device.stage ≠ .dead) :
    KeepsStep ((Engine.fresh config).run inputs).1 ((Engine.fresh config).history inputs) := by
  induction inputs using List.reverseRecOn with
  | nil =>
      refine ⟨fun _ => rfl, fun accepts => ?_, by simp⟩
      contradiction
  | append_singleton inputs input hypothesis =>
      rw [Engine.history_concat, Throughout.concat_iff] at inTurn
      rw [Engine.run_concat] at alive
      have advances := (Moment.mk ((Engine.fresh config).run inputs).1 input).reception_step
      obtain ⟨event, step, -⟩ := advances
      rw [Engine.run_concat, Engine.history_concat]
      exact (hypothesis inTurn.1 (step.alive alive)).after (Engine.sound_run config inputs)
        inTurn.2 alive

end History

namespace Engine

/-- The ring and the transport stay in step over whole runs of an engine that is
up, if the transport takes every buffer and returns the oldest one first.  Every
transfer that ends is the one whose turn it is, so that none is ever counted or
reported as out of turn or in excess.  While no pass is going on, the transport
holds the buffers of the slots outside the window, in slot order. -/
theorem receive_keeps_step (config : Config) (inputs : List Input)
    (up : History.IsUp ((fresh config).history inputs))
    (inTurn : Throughout Moment.InTurn ((fresh config).history inputs)) :
    let history := (fresh config).history inputs
    let engine := ((fresh config).run inputs).1
    (∀ moment ∈ history, ∀ transfer ∈ moment.ended?,
        moment.before.receive.Expects transfer.handle) ∧
      engine.counters.rxMismatches = 0 ∧
      (∀ anomaly, anomaly = .receiveMismatch ∨ anomaly = .receiveRingFull →
        engine.reported.has anomaly = false ∧
          ∀ effect ∈ ((fresh config).run inputs).2, effect.warned? ≠ some anomaly) ∧
      (engine.pass = .idle →
        history.held.map some =
          (List.range (receiveSlots - engine.receiveOccupancy)).map fun offset =>
            engine.receive.slots[(engine.receive.stop + offset) % receiveSlots]?.map
              (·.handle)) := by
  obtain ⟨accepts, posted⟩ := up.reception
  obtain ⟨-, inStep, expected⟩ := History.keepsStep config inputs inTurn up.alive
  obtain ⟨sent, inStep⟩ := inStep accepts
  have unmet : ∀ moment ∈ (fresh config).history inputs, ∀ anomaly ∈ moment.anomaly?,
      anomaly.family ≠ .receive := by
    intro moment member anomaly met family
    obtain ⟨transfer, ended, unexpected⟩ := not_expects_of_anomaly? met family
    refine unexpected (expected moment member transfer ?_)
    rw [Option.mem_def, Moment.ended?, ended]
  obtain ⟨counted, unreported⟩ := unmet_run config inputs unmet
  refine ⟨expected, counted, ?_, ?_⟩
  · rintro anomaly (rfl | rfl) <;> exact unreported _ rfl
  · intro idle
    have capacity := (sound_run config inputs).reception.capacity
    have gap := inStep.gap
    have pass : ((fresh config).run inputs).1.reception.pass = .idle := idle
    rw [Reception.unsent, posted, pass] at gap
    simp only [BringUp.unposted, Pass.work?, Option.map_none, Option.toList_none,
      List.append_nil] at gap
    rw [inStep.held, ← gap, Ring.gap, capacity, List.map_map]
    apply List.map_congr_left
    intro offset _
    exact List.getElem?_map

/-- After a pass over two transfers, the transport holds the buffers of all slots,
beginning with the third. -/
theorem receive_keeps_step_aggregate :
    let inputs := aggregateInputs ++ [.proceedPass fun _ => true]
    let history := (fresh .small).history inputs
    let engine := ((fresh .small).run inputs).1
    History.IsUp history ∧ Throughout Moment.InTurn history ∧ engine.pass = .idle ∧
      engine.receive.stop = 2 ∧
      history.held.map some =
        (List.range (receiveSlots - engine.receiveOccupancy)).map fun offset =>
          engine.receive.slots[(engine.receive.stop + offset) % receiveSlots]?.map (·.handle) := by
  have facts :
      let inputs := aggregateInputs ++ [.proceedPass fun _ => true]
      let history := (fresh .small).history inputs
      let engine := ((fresh .small).run inputs).1
      History.IsUp history ∧ Throughout Moment.InTurn history ∧ engine.pass = .idle ∧
        engine.receive.stop = 2 := by
    decide +kernel
  obtain ⟨up, inTurn, idle, stop⟩ := facts
  obtain ⟨-, -, -, held⟩ := receive_keeps_step .small _ up inTurn
  exact ⟨up, inTurn, idle, stop, held idle⟩

end Engine

end WlanDatapath
