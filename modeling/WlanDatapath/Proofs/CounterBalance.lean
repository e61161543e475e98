import WlanDatapath.Proofs.CutOff
import WlanDatapath.Proofs.FlowControl
import WlanDatapath.Proofs.ParkedSlots

/-!
# The counters balance

Each counter is counted up in one branch of one operation, and the operations call out
in between.  `Moment.Tallies` says what a moment adds to the counters, in terms of what
can be observed of it, and the balances of a whole run follow by adding up.

Segments are counted a buffer at a time, behind the events that they lead to, so the
balance of a buffer that is being decoded includes what its walk has passed
(`Pass.stepped`) and the frame whose verdict is awaited (`Pass.judging`).  Both are
nothing unless a buffer is being decoded.

Two balances are about rings, and hold until a teardown releases them.  The one of the
receive ring has a term that should not be there: the pass may retire a slot without a
buffer.  That takes a transfer which ends before its slot was posted and is filed
nevertheless, so that bringing up submits the buffer of a slot in the window
(`slot_retired_without_buffer`).
-/

namespace WlanDatapath

/-! ## Counting in lists -/

section

variable {Item Result : Type} (items : List Item) (item : Item)

theorem countP_concat (test : Item → Bool) :
    (items ++ [item]).countP test = items.countP test + (test item).toNat := by
  rw [List.countP_append, List.countP_singleton]
  cases test item <;> rfl

theorem length_filterMap_concat (read : Item → Option Result) :
    ((items ++ [item]).filterMap read).length =
      (items.filterMap read).length + (read item).toList.length := by
  rw [List.filterMap_append, List.length_append, List.filterMap_eq_flatMap_toList read [item],
    List.flatMap_singleton]

theorem length_flatMap_concat (read : Item → List Result) :
    ((items ++ [item]).flatMap read).length =
      (items.flatMap read).length + (read item).length := by
  rw [List.flatMap_append, List.length_append, List.flatMap_singleton]

end

/-! ## Observations -/

namespace Pass

/-- The segments of the buffer that is being decoded that are not counted yet. -/
def stepped (pass : Pass) : Nat :=
  (pass.reading?.map fun reading => reading.2.walked).getD 0

/-- The frames whose verdict is awaited. -/
def judging : Pass → Nat
  | .delivering _ _ => 1
  | .idle | .popping | .walking _ _ | .returning _ | .submitting _ => 0

section

variable (work : Work) (walker : Walker)

@[simp]
theorem stepped_walking : (walking work walker).stepped = walker.walked := rfl

@[simp]
theorem stepped_delivering : (delivering work walker).stepped = walker.walked := rfl

@[simp]
theorem stepped_returning : (returning work).stepped = 0 := rfl

@[simp]
theorem judging_walking : (walking work walker).judging = 0 := rfl

@[simp]
theorem judging_delivering : (delivering work walker).judging = 1 := rfl

@[simp]
theorem judging_returning : (returning work).judging = 0 := rfl

end

/-- A pass without a buffer has taken none. -/
theorem popped?_eq_none {before after : Pass} (free : after.work? = none) :
    before.popped? after = none := by
  cases before <;> simp [popped?, free]

/-- A pass that stays where it is takes no buffer. -/
@[simp]
theorem popped?_self (pass : Pass) : pass.popped? pass = none := by
  cases pass <;> rfl

end Pass

namespace Engine

/-- The segments that were stepped over. -/
def stepped (engine : Engine) : Nat :=
  engine.counters.rxSegments + engine.pass.stepped

/-- The frames that were handed up. -/
def judged (engine : Engine) : Nat :=
  engine.counters.rxFrames + engine.counters.rxRejected + engine.pass.judging

/-- The segments that were rejected or dropped, or whose frames were handed up. -/
def settled (engine : Engine) : Nat :=
  engine.counters.rxBadSegments + engine.counters.rxOutOfMemory + engine.judged

/-- The transfers in flight on all output endpoints. -/
def inFlight (engine : Engine) : Nat :=
  ∑ lane : Lane, (engine.transmit.get lane).used

end Engine

/-- The window of received buffers shrinks, and the pass takes no buffer. -/
def Reception.skips (reception next : Reception) : Bool :=
  reception.pass == .popping && decide (next.ring.used < reception.ring.used) &&
    (reception.pass.popped? next.pass).isNone

namespace Moment

/-- A receive transfer ends and finds the receive ring populated. -/
def findsReceiver (moment : Moment) : Bool :=
  moment.ended?.isSome && moment.before.receive.isComplete

/-- A frame is wrapped for an endpoint whose ring is populated, on a device that accepts. -/
def attempts (moment : Moment) : Bool :=
  match moment.input with
  | .enqueue memory _ frame key queue =>
      moment.before.device.accepts && (laneOfQueue queue).toOption.any fun lane : Lane =>
        (frame.wrap memory (selectorOfLane lane) (transmitFlags key)).isOk &&
          (moment.before.transmit.get lane).isComplete
  | _ => false

/-- The pass retires a slot and finds no buffer in it. -/
def skips (moment : Moment) : Bool :=
  moment.before.reception.skips moment.after.reception

/-- A transfer that is filed finds its slot posted. -/
def filesPosted (moment : Moment) : Bool :=
  moment.filed?.isNone || decide (moment.before.receive.stop ∉ moment.before.bringUp.unposted)

end Moment

namespace Walker

variable {walker next : Walker}

/-- A walk counts the segments that it steps over. -/
theorem walked_of_found {segment : Segment} (found : walker.next = (some (.ok segment), next)) :
    walker.walked + 1 = next.walked := by
  unfold Walker.next at found
  split at found
  · cases found
  · split at found <;> cases found
    rfl

/-- A walk that is over has stepped over nothing more. -/
theorem walked_of_over {item : Option (Except Defect Segment)}
    (ended : walker.next = (item, next)) (exhausted : ∀ segment, item ≠ some (.ok segment)) :
    walker.walked = next.walked := by
  unfold Walker.next at ended
  split at ended
  · cases ended
    rfl
  · split at ended <;> cases ended
    · rfl
    · rfl
    · exact absurd rfl (exhausted _)

end Walker

/-! ## What a moment adds to the counters -/

/-- The counters that the balances are about. -/
def Counters.balanced (counters : Counters) : Counters :=
  { counters with
    rxErrors := 0
    rxAggregates := 0
    rxBadLengths := 0
    rxRepostsFailed := 0
    txErrors := 0
    txMismatches := 0
    txStops := 0
    txWakes := 0 }

/-- What a moment adds to the counters. -/
structure Moment.Tallies (moment : Moment) : Prop where
  segments : moment.after.stepped + moment.before.settled =
    moment.before.stepped + moment.after.settled
  frames : moment.after.judged = moment.before.judged + moment.delivered.length
  filed : moment.after.counters.rxCompletions =
    moment.before.counters.rxCompletions + moment.filed?.toList.length
  found : moment.after.counters.rxCompletions + moment.after.counters.rxMismatches =
    moment.before.counters.rxCompletions + moment.before.counters.rxMismatches +
      moment.findsReceiver.toNat
  reported : moment.after.counters.txCompleted =
    moment.before.counters.txCompleted + moment.reportedSent.length
  accepted : moment.after.counters.txSubmitted =
    moment.before.counters.txSubmitted + moment.accepted?.toList.length
  attempted : moment.after.counters.txSubmitted + moment.after.counters.txQueueFull +
      moment.after.counters.txSubmitsFailed =
    moment.before.counters.txSubmitted + moment.before.counters.txQueueFull +
      moment.before.counters.txSubmitsFailed + moment.attempts.toNat

/-! ### Inputs that leave the counters alone -/

/-- An input that neither ends a transfer nor sends a frame nor goes on with a pass that
decodes. -/
def Input.isCalm : Input → Bool
  | .startBringUp _ | .proceedBringUp | .answerPost _ | .startPass | .answerRepost _
  | .finishStatistics | .beginTeardown | .finishTeardown => true
  | .completeReceive _ | .proceedPass _ | .answerDelivery _ | .enqueue _ _ _ _ _
  | .completeTransmit _ _ => false

/-- Neither the counters nor the place of the walk differ. -/
def Engine.SameTally (before after : Engine) : Prop :=
  after.counters.balanced = before.counters.balanced ∧
    after.pass.stepped = before.pass.stepped ∧ after.pass.judging = before.pass.judging

namespace Engine.SameTally

theorem of_eq {before after : Engine} (counters : after.counters = before.counters)
    (pass : after.pass = before.pass) : before.SameTally after := by
  rw [SameTally, counters, pass]
  exact ⟨rfl, rfl, rfl⟩

theorem of_keepsRecords {before after : Engine} (keeps : before.KeepsRecords after) :
    before.SameTally after :=
  of_eq keeps.counters keeps.pass

variable (engine : Engine)

/-- A pass starts only where none is going on. -/
theorem startPass (sound : engine.Sound) : engine.SameTally engine.startPass.2 := by
  unfold Engine.startPass
  split
  · exact of_eq rfl rfl
  next deferred entered =>
    have idle : engine.pass = .idle := sound.reception.idle_of_enter? entered
    rw [SameTally, idle]
    exact ⟨rfl, rfl, rfl⟩

theorem answerRepost (refusal : Option Refusal) :
    engine.SameTally (engine.answerRepost refusal).1 := by
  unfold Engine.answerRepost
  split
  next work submitting =>
    rw [SameTally, submitting]
    split <;> exact ⟨rfl, rfl, rfl⟩
  · exact of_eq rfl rfl

theorem finishStatistics : engine.SameTally engine.finishStatistics.1 := by
  unfold Engine.finishStatistics
  simp only
  split <;> exact of_eq rfl rfl

end Engine.SameTally

namespace Moment

variable {moment : Moment}

theorem sameTally_of_isCalm (calm : moment.input.isCalm = true) (sound : moment.before.Sound) :
    moment.before.SameTally moment.after := by
  obtain ⟨engine, input⟩ := moment
  cases input with
  | startBringUp | proceedBringUp | answerPost | beginTeardown | finishTeardown =>
      exact .of_keepsRecords (keepsRecords rfl)
  | startPass => exact .startPass engine sound
  | answerRepost refusal => exact .answerRepost engine refusal
  | finishStatistics => exact .finishStatistics engine
  | completeReceive | proceedPass | answerDelivery | enqueue | completeTransmit =>
      simp [Input.isCalm] at calm

/-- A transfer is filed only where one ends. -/
theorem filed?_eq_none (unended : moment.ended? = none) : moment.filed? = none := by
  unfold filed?
  split
  · exact unended
  · rfl

/-- A moment that shows nothing and leaves the counters alone adds nothing. -/
theorem Tallies.of_sameTally (same : moment.before.SameTally moment.after)
    (unended : moment.ended? = none) (delivered : moment.delivered = [])
    (reportedSent : moment.reportedSent = []) (accepted : moment.accepted? = none)
    (attempts : moment.attempts = false) : moment.Tallies := by
  obtain ⟨counters, stepped, judging⟩ := same
  have unfiled := filed?_eq_none unended
  simp only [Counters.balanced, Counters.mk.injEq, true_and, and_true] at counters
  obtain ⟨completions, mismatches, segments, bad, dropped, frames, rejected, submitted, completed,
    full, failed⟩ := counters
  constructor <;>
    simp only [Engine.stepped, Engine.settled, Engine.judged, findsReceiver, unended, unfiled,
      delivered, reportedSent, accepted, attempts, completions, mismatches, segments, bad, dropped,
      frames, rejected, submitted, completed, full, failed, stepped, judging, Option.toList_none,
      Option.isSome_none, Bool.false_and, Bool.toNat_false, List.length_nil, Nat.add_zero]

theorem tallies_of_isCalm (calm : moment.input.isCalm = true) (sound : moment.before.Sound) :
    moment.Tallies := by
  have same := sameTally_of_isCalm calm sound
  obtain ⟨engine, input⟩ := moment
  have quiet : Effect.Kind.deliver ∉ input.kinds ∧ Effect.Kind.reportSent ∉ input.kinds := by
    cases input <;> simp_all [Input.isCalm, Input.kinds]
  have delivered := delivered_eq_nil ⟨engine, input⟩ quiet.1
  have reportedSent := reportedSent_eq_nil ⟨engine, input⟩ quiet.2
  cases input with
  | completeReceive | proceedPass | answerDelivery | enqueue | completeTransmit =>
      simp [Input.isCalm] at calm
  | _ => exact .of_sameTally same rfl delivered reportedSent rfl rfl

end Moment

/-! ### Reception -/

namespace Engine

variable (engine : Engine)

theorem counters_dismissReceive (transfer : Transfer Buffer) (anomaly : Anomaly) (line : LogLine) :
    (engine.dismissReceive transfer anomaly line).1.counters =
      { engine.counters with rxMismatches := engine.counters.rxMismatches + 1 } := by
  simp only [dismissReceive, putBackByHandle]
  split <;> rfl

/-- A transfer that ends is filed, or it is a mismatch, if the ring is populated. -/
theorem counters_completeReceive (transfer : Transfer Buffer) :
    (engine.completeReceive transfer).1.counters =
      if engine.receive.isComplete then
        if engine.receive.isFull = false ∧
            engine.receive.producer?.map (·.handle) = some transfer.handle then
          { engine.counters with
            rxCompletions := engine.counters.rxCompletions + 1
            rxErrors := engine.counters.rxErrors + if transfer.status.isOk then 0 else 1 }
        else { engine.counters with rxMismatches := engine.counters.rxMismatches + 1 }
      else engine.counters := by
  unfold completeReceive
  cases engine.receive.isComplete with
  | false => rfl
  | true =>
      cases engine.receive.isFull with
      | true =>
          simp [counters_dismissReceive]
      | false =>
          by_cases turn : engine.receive.producer?.map (·.handle) = some transfer.handle
          · simp [turn, fileReceive]
          · simp [turn, counters_dismissReceive]

/-- A transfer is filed if it is its turn, and only then. -/
theorem filed?_completeReceive (transfer : Transfer Buffer) :
    let filed? := (Moment.mk engine (.completeReceive transfer)).filed?
    engine.receive.Expects transfer.handle ∧ filed? = some transfer ∨
      ¬ engine.receive.Expects transfer.handle ∧ filed? = none := by
  intro filed?
  obtain ⟨event, step, tells⟩ := (Moment.mk engine (.completeReceive transfer)).reception_step
  have ended := tells.ended
  have filed : filed? = _ := tells.filed
  rw [filed]
  cases event with
  | filed other =>
      cases ended
      exact Or.inl ⟨step.expects_of_filed, rfl⟩
  | dismissed other =>
      cases ended
      exact Or.inr ⟨step.not_expects_of_dismissed, rfl⟩
  | _ => cases ended

theorem tallies_completeReceive (transfer : Transfer Buffer) :
    Moment.Tallies ⟨engine, .completeReceive transfer⟩ := by
  have counters := engine.counters_completeReceive transfer
  have pass := engine.pass_completeReceive transfer
  have delivered := Moment.delivered_eq_nil ⟨engine, .completeReceive transfer⟩
    (by simp [Input.kinds])
  have reportedSent := Moment.reportedSent_eq_nil ⟨engine, .completeReceive transfer⟩
    (by simp [Input.kinds])
  have found : (Moment.mk engine (.completeReceive transfer)).findsReceiver =
      engine.receive.isComplete := rfl
  have accepted : (Moment.mk engine (.completeReceive transfer)).accepted? = none := rfl
  have attempts : (Moment.mk engine (.completeReceive transfer)).attempts = false := rfl
  rcases engine.filed?_completeReceive transfer with ⟨⟨complete, room, turn⟩, filed⟩ | ⟨out, filed⟩
  · rw [if_pos complete, if_pos ⟨room, turn⟩] at counters
    constructor <;>
      simp [stepped, settled, judged, counters, pass, delivered, reportedSent, found, complete,
        accepted, attempts, filed]
    omega
  · cases complete : engine.receive.isComplete with
    | false =>
        rw [complete, if_neg Bool.false_ne_true] at counters
        constructor <;>
          simp [stepped, settled, judged, counters, pass, delivered, reportedSent, found, complete,
            accepted, attempts, filed]
    | true =>
        rw [if_pos complete, if_neg fun turn => out ⟨complete, turn⟩] at counters
        constructor <;>
          simp [stepped, settled, judged, counters, pass, delivered, reportedSent, found, complete,
            accepted, attempts, filed]
        omega

end Engine

/-- The counters of transfers that end or are submitted. -/
def Counters.transfers (counters : Counters) : Nat × Nat × Nat × Nat × Nat × Nat :=
  (counters.rxCompletions, counters.rxMismatches, counters.txSubmitted, counters.txCompleted,
    counters.txQueueFull, counters.txSubmitsFailed)

namespace Moment

variable {moment : Moment}

/-- A moment of a pass adds to the counters of segments and frames only. -/
theorem Tallies.of_pass (transfers : moment.after.counters.transfers =
      moment.before.counters.transfers)
    (segments : moment.after.stepped + moment.before.settled =
      moment.before.stepped + moment.after.settled)
    (frames : moment.after.judged = moment.before.judged + moment.delivered.length)
    (unended : moment.ended? = none) (reportedSent : moment.reportedSent = [])
    (accepted : moment.accepted? = none) (attempts : moment.attempts = false) :
    moment.Tallies := by
  have unfiled := filed?_eq_none unended
  simp only [Counters.transfers, Prod.mk.injEq] at transfers
  obtain ⟨completions, mismatches, submitted, completed, full, failed⟩ := transfers
  refine ⟨segments, frames, ?_, ?_, ?_, ?_, ?_⟩ <;>
    simp only [findsReceiver, unended, unfiled, reportedSent, accepted, attempts, completions,
      mismatches, submitted, completed, full, failed, Option.toList_none, Option.isSome_none,
      Bool.false_and, Bool.toNat_false, List.length_nil, Nat.add_zero]

end Moment

namespace Engine

variable (engine : Engine)

/-- What a step of a pass adds: as many segments are settled as were stepped over, and
every frame that is handed up is to be judged. -/
structure Decodes (engine : Engine) (step : Engine × List Effect) : Prop where
  transfers : step.1.counters.transfers = engine.counters.transfers
  segments : step.1.stepped + engine.settled = engine.stepped + step.1.settled
  frames : step.1.judged = engine.judged + (step.2.filterMap Effect.delivered?).length

theorem decodes_popReceive (popping : engine.pass = .popping) :
    engine.Decodes (engine.popReceive, []) := by
  have same : engine.popReceive.counters = engine.counters ∧
      engine.popReceive.pass.stepped = 0 ∧ engine.popReceive.pass.judging = 0 := by
    have left : engine.endPass.pass.stepped = 0 ∧ engine.endPass.pass.judging = 0 := by
      unfold endPass
      simp only
      split <;> exact ⟨rfl, rfl⟩
    unfold popReceive
    split
    · exact ⟨rfl, left⟩
    · split
      · exact ⟨rfl, left⟩
      · split
        · simp only [popping]
          exact ⟨trivial, rfl, rfl⟩
        · refine ⟨rfl, ?_⟩
          simp only
          split <;> exact ⟨rfl, rfl⟩
  obtain ⟨counters, still, unjudged⟩ := same
  have before : engine.pass.stepped = 0 ∧ engine.pass.judging = 0 := by
    rw [popping]
    exact ⟨rfl, rfl⟩
  constructor <;>
    simp [stepped, settled, judged, counters, still, unjudged, before]

theorem decodes_endWalk (work : Work) (walker : Walker)
    (still : engine.pass.stepped = walker.walked) (unjudged : engine.pass.judging = 0) :
    engine.Decodes (engine.endWalk work walker) := by
  have silent : (engine.endWalk work walker).2.filterMap Effect.delivered? = [] :=
    Effect.watches_delivered?.filterMap_logs (by decide) (engine.kind_endWalk work walker)
  refine ⟨rfl, ?_, ?_⟩
  · simp only [stepped, settled, judged, still, unjudged]
    simp [endWalk]
  · rw [silent]
    simp only [judged, unjudged]
    simp [endWalk]

/-- A segment is rejected, dropped or handed up. -/
theorem decodes_takeSegment (memory : Memory) (segment : Segment) (work : Work)
    (walker : Walker) (still : engine.pass.stepped + 1 = walker.walked)
    (unjudged : engine.pass.judging = 0) :
    engine.Decodes (engine.takeSegment memory segment work walker) := by
  unfold takeSegment
  split
  next rejection rejected =>
    have silent : ∀ other : Engine, (other.reportOnce rejection.anomaly
        (.segmentRejected rejection)).2.filterMap Effect.delivered? = [] := fun other =>
      Effect.watches_delivered?.filterMap_logs (by decide) (other.kind_reportOnce _ _)
    refine ⟨rfl, ?_, ?_⟩
    · simp only [stepped, settled, judged, unjudged]
      simp [reportOnce, ← still]
      omega
    · simp only [silent, judged, unjudged]
      simp [reportOnce]
  · split
    · refine ⟨rfl, ?_, ?_⟩
      · simp [stepped, settled, judged, unjudged, ← still]
        omega
      · simp [judged, unjudged, Effect.delivered?]
    · refine ⟨rfl, ?_, ?_⟩
      · simp [stepped, settled, judged, unjudged, ← still]
        omega
      · simp [judged, unjudged, Effect.delivered?]

theorem decodes_walkReceive (memory : Memory) {work : Work} {walker : Walker}
    (walking : engine.pass = .walking work walker) :
    engine.Decodes (engine.walkReceive memory work walker) := by
  have still : engine.pass.stepped = walker.walked := by rw [walking]; rfl
  have unjudged : engine.pass.judging = 0 := by rw [walking]; rfl
  unfold walkReceive
  split
  next next ended =>
    exact engine.decodes_endWalk work next
      (still.trans (Walker.walked_of_over ended (by simp))) unjudged
  next defect next ended =>
    let counted : Engine := { engine with
      counters := { engine.counters with rxBadLengths := engine.counters.rxBadLengths + 1 } }
    let warned := counted.reportOnce defect.anomaly (.badLength defect)
    have silent : warned.2.filterMap Effect.delivered? = [] :=
      Effect.watches_delivered?.filterMap_logs (by decide) (counted.kind_reportOnce _ _)
    obtain ⟨transfers, segments, frames⟩ := warned.1.decodes_endWalk work next
      (still.trans (Walker.walked_of_over ended (by simp))) unjudged
    refine ⟨transfers, segments, ?_⟩
    show _ = _ + ((warned.2 ++ (warned.1.endWalk work next).2).filterMap
      Effect.delivered?).length
    rw [List.filterMap_append, silent]
    exact frames
  next segment next found =>
    exact engine.decodes_takeSegment memory segment work next
      (still ▸ Walker.walked_of_found found) unjudged

theorem decodes_returnReceive {work : Work} (returning : engine.pass = .returning work) :
    engine.Decodes (engine.returnReceive work) := by
  unfold returnReceive
  split <;>
  · constructor <;> simp [stepped, settled, judged, returning, putBackAt, Effect.delivered?] <;> rfl

theorem decodes_proceedPass? {memory : Memory} {step : Engine × List Effect}
    (proceeds : engine.proceedPass? memory = some step) : engine.Decodes step := by
  unfold proceedPass? at proceeds
  split at proceeds
  · contradiction
  · contradiction
  · contradiction
  next popping =>
    cases proceeds
    exact engine.decodes_popReceive popping
  next work walker walking =>
    cases proceeds
    exact engine.decodes_walkReceive memory walking
  next work returning =>
    cases proceeds
    exact engine.decodes_returnReceive returning

theorem tallies_proceedPass (memory : Memory) :
    Moment.Tallies ⟨engine, .proceedPass memory⟩ := by
  have decodes : engine.Decodes ((engine.proceedPass? memory).getD (engine, [])) := by
    cases proceeds : engine.proceedPass? memory with
    | none => exact ⟨rfl, rfl, rfl⟩
    | some step => exact engine.decodes_proceedPass? proceeds
  obtain ⟨transfers, segments, frames⟩ := decodes
  rw [← Moment.after_proceedPass] at transfers segments frames
  refine .of_pass transfers segments ?_ rfl
    (Moment.reportedSent_eq_nil _ (by simp [Input.kinds])) rfl rfl
  rw [Moment.delivered, Moment.effects_proceedPass]
  exact frames

theorem tallies_answerDelivery (accepted : Bool) :
    Moment.Tallies ⟨engine, .answerDelivery accepted⟩ := by
  have judges : engine.Decodes (engine.answerDelivery accepted, []) := by
    unfold answerDelivery
    split
    next work walker delivering =>
      cases accepted <;> constructor <;>
        simp [stepped, settled, judged, delivering, Counters.transfers] <;> omega
    next => exact ⟨rfl, rfl, rfl⟩
  exact .of_pass judges.transfers judges.segments judges.frames rfl
    (Moment.reportedSent_eq_nil _ (by simp [Input.kinds])) rfl rfl

end Engine

/-! ### Transmission -/

/-- The counters of reception. -/
def Counters.reception (counters : Counters) : Nat × Nat × Nat × Nat × Nat × Nat × Nat :=
  (counters.rxCompletions, counters.rxMismatches, counters.rxSegments, counters.rxBadSegments,
    counters.rxOutOfMemory, counters.rxFrames, counters.rxRejected)

namespace Moment

variable {moment : Moment}

/-- A moment that is about transmission adds to the counters of transmission only. -/
theorem Tallies.of_transmission (reception : moment.after.counters.reception =
      moment.before.counters.reception)
    (pass : moment.after.pass = moment.before.pass) (unended : moment.ended? = none)
    (delivered : moment.delivered = [])
    (reported : moment.after.counters.txCompleted =
      moment.before.counters.txCompleted + moment.reportedSent.length)
    (accepted : moment.after.counters.txSubmitted =
      moment.before.counters.txSubmitted + moment.accepted?.toList.length)
    (attempted : moment.after.counters.txSubmitted + moment.after.counters.txQueueFull +
        moment.after.counters.txSubmitsFailed =
      moment.before.counters.txSubmitted + moment.before.counters.txQueueFull +
        moment.before.counters.txSubmitsFailed + moment.attempts.toNat) :
    moment.Tallies := by
  have unfiled := filed?_eq_none unended
  simp only [Counters.reception, Prod.mk.injEq] at reception
  obtain ⟨completions, mismatches, segments, bad, dropped, frames, rejected⟩ := reception
  refine ⟨?_, ?_, ?_, ?_, reported, accepted, attempted⟩ <;>
    simp only [Engine.stepped, Engine.settled, Engine.judged, findsReceiver, unended, unfiled,
      delivered, completions, mismatches, segments, bad, dropped, frames, rejected, pass,
      Option.toList_none, Option.isSome_none, Bool.false_and, Bool.toNat_false, List.length_nil,
      Nat.add_zero]

end Moment

namespace Engine

variable (engine : Engine)

/-- What enqueueing a frame adds: an attempt is a frame that is taken, a refusal or a full
ring. -/
structure Attempts (engine : Engine) (attempt : Bool) (step : EnqueueStep) : Prop where
  reception : step.1.counters.reception = engine.counters.reception
  pass : step.1.pass = engine.pass
  completed : step.1.counters.txCompleted = engine.counters.txCompleted
  submitted : step.1.counters.txSubmitted = engine.counters.txSubmitted + step.2.2.isOk.toNat
  attempted : step.1.counters.txSubmitted + step.1.counters.txQueueFull +
      step.1.counters.txSubmitsFailed =
    engine.counters.txSubmitted + engine.counters.txQueueFull + engine.counters.txSubmitsFailed +
      attempt.toNat

/-- A frame that is turned down before its ring is asked is no attempt. -/
theorem Attempts.of_error (fault : Fault) : engine.Attempts false (engine, [], .error fault) :=
  ⟨rfl, rfl, rfl, rfl, rfl⟩

/-- A refusal is an attempt that is not taken. -/
theorem attempts_refuseTransmit (refusal : Refusal) :
    engine.Attempts true (engine.refuseTransmit refusal) := by
  unfold refuseTransmit
  simp only
  split <;>
  · refine ⟨rfl, rfl, rfl, rfl, ?_⟩
    simp only [Bool.toNat_true]
    omega

theorem attempts_enterTransmit {lane : Lane} {ring : Ring Handle} (queue : UInt8)
    (published : (engine.transmit.get lane).publish = .ok ring) :
    engine.Attempts true (engine.enterTransmit lane queue) := by
  unfold enterTransmit
  rw [published]
  refine ⟨rfl, rfl, rfl, rfl, ?_⟩
  simp only [Bool.toNat_true]
  omega

section

variable (memory : Memory) (answer : Transfer Outgoing → Option Refusal) (frame : Outgoing)
  (key queue : UInt8)

/-- Sending a frame is an attempt if and only if the frame gets as far as the ring. -/
theorem attempts_iff :
    (Moment.mk engine (.enqueue memory answer frame key queue)).attempts = true ↔
      ∃ lane wrapped, engine.CanSend memory frame key queue lane wrapped := by
  simp only [Moment.attempts, Bool.and_eq_true, Option.any_eq_true]
  constructor
  · rintro ⟨accepts, lane, mapped, wraps, complete⟩
    cases found : laneOfQueue queue with
    | error failure => simp [found, Except.toOption] at mapped
    | ok used =>
        obtain rfl : used = lane := by simpa [found, Except.toOption] using mapped
        cases wrap : frame.wrap memory (selectorOfLane used) (transmitFlags key) with
        | error fault => simp [wrap, Except.isOk, Except.toBool] at wraps
        | ok wrapped => exact ⟨used, wrapped, accepts, found, wrap, complete⟩
  · rintro ⟨lane, wrapped, ready⟩
    refine ⟨ready.accepts, lane, by rw [ready.mapped]; rfl, by rw [ready.wrap]; rfl,
      ready.complete⟩

theorem attempts_enqueue :
    engine.Attempts (Moment.mk engine (.enqueue memory answer frame key queue)).attempts
      (engine.enqueue memory answer frame key queue) := by
  have attempts := attempts_iff engine memory answer frame key queue
  have move := engine.sendMove_enqueue memory answer frame key queue
  generalize engine.enqueue memory answer frame key queue = step at move ⊢
  cases move with
  | turnedDown unready =>
      have unattempted : ¬ (Moment.mk engine (.enqueue memory answer frame key queue)).attempts :=
        fun attempt => by
          obtain ⟨lane, wrapped, ready⟩ := attempts.mp attempt
          exact unready lane wrapped ready
      rw [Bool.eq_false_iff.mpr unattempted]
      exact .of_error engine _
  | overflowed ready =>
      rw [attempts.mpr ⟨_, _, ready⟩]
      refine ⟨rfl, rfl, rfl, rfl, ?_⟩
      simp only [Bool.toNat_true]
      omega
  | refused ready =>
      rw [attempts.mpr ⟨_, _, ready⟩]
      exact { engine.attempts_refuseTransmit _ with }
  | taken ready reserved =>
      rw [attempts.mpr ⟨_, _, ready⟩]
      obtain ⟨ring, published⟩ :=
        Ring.exists_publish (Transmission.offers_of_reserve? reserved).2.1
      exact { engine.attempts_enterTransmit _ published with }

/-- The sender of a frame is told that it was accepted if and only if there is no error. -/
theorem length_accepted?_enqueue :
    (Moment.mk engine (.enqueue memory answer frame key queue)).accepted?.toList.length =
      (engine.enqueue memory answer frame key queue).2.2.isOk.toNat := by
  rw [Transmission.accepted?_enqueue]
  cases mapped : laneOfQueue queue with
  | ok lane =>
      cases (engine.enqueue memory answer frame key queue).2.2 <;> rfl
  | error failure =>
      cases accepts : engine.device.accepts <;>
        simp only [enqueue, accepts, mapped, if_true, if_false, Bool.false_eq_true] <;> rfl

theorem tallies_enqueue : Moment.Tallies ⟨engine, .enqueue memory answer frame key queue⟩ := by
  obtain ⟨reception, pass, completed, submitted, attempted⟩ :=
    engine.attempts_enqueue memory answer frame key queue
  refine .of_transmission reception pass rfl (Moment.delivered_eq_nil _ (by simp [Input.kinds]))
    ?_ ?_ attempted
  · rw [Moment.reportedSent_eq_nil _ (by simp [Input.kinds])]
    exact completed
  · rw [length_accepted?_enqueue]
    exact submitted

end

/-- What the end of a transmit transfer adds: a frame that is handed back. -/
structure HandsBack (engine : Engine) (count : Nat) (step : Engine × List Effect) : Prop where
  reception : step.1.counters.reception = engine.counters.reception
  pass : step.1.pass = engine.pass
  attempted : (step.1.counters.txSubmitted, step.1.counters.txQueueFull,
      step.1.counters.txSubmitsFailed) =
    (engine.counters.txSubmitted, engine.counters.txQueueFull, engine.counters.txSubmitsFailed)
  completed : step.1.counters.txCompleted = engine.counters.txCompleted + count
  reported : (step.2.filterMap Effect.reportedSent?).length = count

theorem handsBack_acceptTransmit (lane : Lane) (transfer : Transfer Outgoing) :
    engine.HandsBack 1 (engine.acceptTransmit lane transfer) := by
  have reported : ((engine.acceptTransmit lane transfer).2.filterMap
      Effect.reportedSent?).length = 1 := by
    rw [snd_acceptTransmit]
    split <;> split <;> rfl
  refine ⟨?_, ?_, ?_, ?_, reported⟩
  all_goals
    unfold acceptTransmit
    simp only
    split <;> rfl

/-- The end of a transmit transfer hands a frame back, or nothing. -/
theorem handsBack_completeTransmit (address : UInt8) (transfer : Transfer Outgoing) :
    ∃ count, engine.HandsBack count (engine.completeTransmit address transfer) := by
  have complaint := Effect.watches_reportedSent?.filterMap_logs (by decide)
    (engine.kind_complaint transfer.status (.transmitFailed transfer.handle transfer.status))
  obtain ⟨step, move, same⟩ := engine.exists_returnMove address transfer
  rw [same]
  cases move with
  | dismissed line =>
      refine ⟨0, rfl, rfl, rfl, rfl, ?_⟩
      rw [List.filterMap_append, complaint,
        Effect.watches_reportedSent?.filterMap_logs (by decide) (engine.kind_dismissTransmit line)]
      rfl
  | ignored => exact ⟨0, rfl, rfl, rfl, rfl, by rw [List.append_nil, complaint]; rfl⟩
  | @accepted lane =>
      obtain ⟨reception, pass, attempted, completed, reported⟩ :=
        engine.handsBack_acceptTransmit lane transfer
      refine ⟨1, reception, pass, attempted, completed, ?_⟩
      rw [List.filterMap_append, complaint]
      exact reported

theorem tallies_completeTransmit (address : UInt8) (transfer : Transfer Outgoing) :
    Moment.Tallies ⟨engine, .completeTransmit address transfer⟩ := by
  obtain ⟨count, reception, pass, attempted, completed, reported⟩ :=
    engine.handsBack_completeTransmit address transfer
  simp only [Prod.mk.injEq] at attempted
  obtain ⟨submitted, full, failed⟩ := attempted
  refine .of_transmission reception pass rfl (Moment.delivered_eq_nil _ (by simp [Input.kinds]))
    ?_ ?_ ?_
  · rw [Moment.reportedSent, Moment.effects_completeTransmit, reported]
    exact completed
  · exact submitted
  · rw [Moment.after_completeTransmit, submitted, full, failed]
    rfl

end Engine

/-- Every moment adds what can be observed of it. -/
theorem Moment.tallies {moment : Moment} (sound : moment.before.Sound) : moment.Tallies := by
  cases calm : moment.input.isCalm with
  | true => exact tallies_of_isCalm calm sound
  | false =>
      obtain ⟨engine, input⟩ := moment
      cases input with
      | completeReceive transfer => exact engine.tallies_completeReceive transfer
      | proceedPass memory => exact engine.tallies_proceedPass memory
      | answerDelivery accepted => exact engine.tallies_answerDelivery accepted
      | enqueue memory answer frame key queue =>
          exact engine.tallies_enqueue memory answer frame key queue
      | completeTransmit address transfer =>
          exact engine.tallies_completeTransmit address transfer
      | startBringUp | proceedBringUp | answerPost | startPass | answerRepost | finishStatistics
      | beginTeardown | finishTeardown => contradiction

/-! ## What a moment does to the windows -/

namespace Reception

variable {reception next : Reception} {event : Event}

/-- What a step does to the window of received buffers. -/
inductive Shifts (reception next : Reception) (event : Event) : Prop where
  | rests (same : next.ring.used = reception.ring.used) (unfiled : event.filed? = none)
      (unpopped : reception.pass.popped? next.pass = none)
  | files {transfer : Transfer Buffer} (filed : event.filed? = some transfer)
      (more : next.ring.used = reception.ring.used + 1)
      (unpopped : reception.pass.popped? next.pass = none)
  | pops {work : Work} (popped : reception.pass.popped? next.pass = some work)
      (fewer : next.ring.used + 1 = reception.ring.used) (unfiled : event.filed? = none)
  | passesBy {index : Nat} {ring : Ring ReceiveSlot}
      (retired : reception.ring.retire? = some (index, ring))
      (vacant : ring.buffer? index = none) (popping : reception.pass = .popping)
      (unpopped : reception.pass.popped? next.pass = none)
      (fewer : next.ring.used + 1 = reception.ring.used) (unfiled : event.filed? = none)

theorem Step.shifts (step : Step reception event next)
    (undrained : event ≠ .drained) : Shifts reception next event := by
  cases step with
  | drained => exact absurd rfl undrained
  | filed => exact .files rfl rfl (Pass.popped?_self _)
  | nothingLeft =>
      refine .rests rfl rfl (Pass.popped?_eq_none ?_)
      rw [leave]
      simp only
      split <;> rfl
  | @slotLost index ring popping retired missing =>
      have vacant : ring.buffer? index = none := by rw [Ring.buffer?, missing, Option.bind_none]
      have fewer := Ring.used_of_retire? retired
      refine .passesBy retired vacant popping (Pass.popped?_eq_none ?_) fewer rfl
      rw [leave]
      simp only
      split <;> rfl
  | @slotSkipped index ring slot popping retired found absent =>
      have vacant : ring.buffer? index = none := by
        rw [Ring.buffer?, found, Option.bind_some, absent]
      have fewer := Ring.used_of_retire? retired
      exact .passesBy retired vacant popping (Pass.popped?_self _) fewer rfl
  | @opened index ring slot buffer popping retired
  | @setAside index ring slot buffer popping retired =>
      have fewer := Ring.used_of_retire? retired
      refine @Shifts.pops _ _ _ ⟨index, slot.handle, buffer⟩ ?_ fewer rfl
      rw [popping]
      rfl
  | walked place | rejected place | dropped place | handedUp place | judged place
  | givenBack place =>
      refine .rests rfl rfl ?_
      rw [place]
      rfl
  | passStarted | kept | taken | refused => exact .rests rfl rfl (Pass.popped?_eq_none rfl)
  | acquired | acquisitionFailed | posted | passedOver | slotMissing | cameUp | postTaken
  | postRefused | dismissedTo | unchanged | dismissed | closed =>
      exact .rests rfl rfl (Pass.popped?_self _)

/-- The window grows by the transfer that is filed, and shrinks by the buffer that is
taken or by the slot that has none. -/
theorem Shifts.used_eq (shifts : Shifts reception next event) :
    next.ring.used + (reception.pass.popped? next.pass).toList.length +
        (reception.skips next).toNat =
      reception.ring.used + event.filed?.toList.length := by
  cases shifts with
  | rests same unfiled unpopped => simp [skips, same, unfiled, unpopped]
  | files filed more unpopped => simp [skips, filed, more, unpopped]
  | pops popped fewer unfiled => simp [skips, ← fewer, unfiled, popped]
  | passesBy _ _ popping unpopped fewer unfiled =>
      rw [popping] at unpopped
      simp [skips, popping, ← fewer, unfiled, unpopped]

theorem Step.teardowns_lt_of_drained (step : Step reception .drained next) :
    next.teardowns < reception.teardowns := by
  cases step with
  | drained begun => exact Nat.pred_lt begun

/-- A slot of the window that holds its buffer is not passed by. -/
theorem Placed.skips_eq_false (placed : reception.Placed) (sound : reception.Sound)
    (shifts : Shifts reception next event) : reception.skips next = false := by
  cases shifts with
  | rests same => simp [skips, same]
  | files _ more => simp [skips, more]
  | pops popped => simp [skips, popped]
  | passesBy retired vacant => exact absurd vacant (placed.retired_ne_none sound retired)

end Reception

namespace Transmission

variable {transmission next : Transmission} {event : Event}

/-- A change of one ring changes the number of transfers in flight by as much. -/
theorem sum_used_set (lanes : Vector (Ring Handle) laneCount) (lane : Lane) (ring : Ring Handle) :
    (∑ other : Lane, ((lanes.set lane ring lane.isLt).get other).used) + (lanes.get lane).used =
      (∑ other : Lane, (lanes.get other).used) + ring.used := by
  have split := fun used : Lane → Nat =>
    Finset.add_sum_erase (Finset.univ : Finset Lane) used (Finset.mem_univ lane)
  have others : ∀ other ∈ (Finset.univ : Finset Lane).erase lane,
      ((lanes.set lane ring lane.isLt).get other).used = (lanes.get other).used := by
    intro other member
    rw [Lane.get_set, if_neg (Finset.ne_of_mem_erase member).symm]
  rw [← split, ← split fun other => (lanes.get other).used, Finset.sum_congr rfl others,
    Lane.get_set, if_pos rfl]
  omega

/-- A transfer is in flight from its submission to its end. -/
theorem Step.sum_used_eq (step : Step transmission event next) (undrained : event ≠ .drained) :
    (∑ lane : Lane, (next.lanes.get lane).used) + event.reportedSent.length =
      (∑ lane : Lane, (transmission.lanes.get lane).used) + event.taken?.toList.length := by
  cases step with
  | drained => exact absurd rfl undrained
  | acquired _ _ extended | acquisitionFailed _ _ extended =>
      simp [extended, Ring.extend, Event.reportedSent, Event.taken?]
  | @taken lane transfer ring _ _ offers published =>
      have sum := sum_used_set transmission.lanes lane ring
      have used : ring.used = (transmission.lanes.get lane).used + 1 := by
        rw [(Ring.publish_eq_ok published).2]
      simp only [Event.reportedSent, Event.taken?, List.length_nil, Option.toList_some,
        List.length_singleton]
      omega
  | @retired lane address transfer index ring _ awaits retired =>
      have sum := sum_used_set transmission.lanes lane ring
      have used : ring.used + 1 = (transmission.lanes.get lane).used := Ring.used_of_retire? retired
      simp only [Event.reportedSent, Event.taken?, List.length_nil, Option.toList_none,
        List.length_singleton]
      omega
  | unchanged | refused | dismissed | ignored | closed =>
      simp [Event.reportedSent, Event.taken?]

end Transmission

namespace Moment

variable {moment : Moment}

/-- What a moment that releases no ring does to the windows. -/
structure Windows (moment : Moment) : Prop where
  received : moment.after.receive.used + moment.popped?.toList.length + moment.skips.toNat =
    moment.before.receive.used + moment.filed?.toList.length
  inFlight : moment.after.inFlight + moment.reportedSent.length =
    moment.before.inFlight + moment.accepted?.toList.length
  placed : moment.before.reception.Placed → moment.filesPosted = true →
    moment.after.reception.Placed ∧ moment.skips = false

theorem windows (sound : moment.before.Sound) (unreleased : moment.isReleased = false) :
    moment.Windows := by
  obtain ⟨received, reception, tells⟩ := moment.reception_step
  obtain ⟨sent, transmission, told⟩ := moment.transmission_step
  have resting : ¬ moment.after.teardowns < moment.before.teardowns := fun fewer => by
    simp [isReleased_of_teardowns_lt fewer] at unreleased
  have undrained : received ≠ .drained := by
    rintro rfl
    exact resting reception.teardowns_lt_of_drained
  have shifts := reception.shifts undrained
  refine ⟨?_, ?_, ?_⟩
  · rw [tells.filed]
    exact shifts.used_eq
  · rw [told.reportedSent, told.length_accepted?]
    exact transmission.sum_used_eq fun drained =>
      resting (drained ▸ transmission).teardowns_lt_of_drained
  · intro placed posted
    refine ⟨placed.step sound.reception reception undrained ?_,
      placed.skips_eq_false sound.reception shifts⟩
    rintro transfer rfl
    rw [filesPosted, tells.filed] at posted
    exact of_decide_eq_true posted

end Moment

/-! ## Whole runs -/

namespace History

/-- The counters after a history are what can be observed of it. -/
structure Counted (engine : Engine) (history : History) : Prop where
  segments : engine.stepped = engine.settled
  frames : engine.judged = history.delivered.length
  filed : engine.counters.rxCompletions = history.filed.length
  found : engine.counters.rxCompletions + engine.counters.rxMismatches =
    history.countP Moment.findsReceiver
  reported : engine.counters.txCompleted = (history.flatMap Moment.reportedSent).length
  accepted : engine.counters.txSubmitted = (history.filterMap Moment.accepted?).length
  attempted : engine.counters.txSubmitted + engine.counters.txQueueFull +
    engine.counters.txSubmitsFailed = history.countP Moment.attempts

/-- Until the rings are released, what is in the windows is what went in and did not come
out. -/
structure Windowed (engine : Engine) (history : History) : Prop where
  received : engine.receive.used + history.popped.length + history.countP Moment.skips =
    history.filed.length
  inFlight : engine.inFlight + (history.flatMap Moment.reportedSent).length =
    (history.filterMap Moment.accepted?).length
  placed : (∀ moment ∈ history, moment.filesPosted = true) →
    engine.reception.Placed ∧ history.countP Moment.skips = 0

theorem Counted.after {history : History} {moment : Moment}
    (counted : Counted moment.before history) (tallies : moment.Tallies) :
    Counted moment.after (history ++ [moment]) := by
  obtain ⟨segments, frames, filed, found, reported, accepted, attempted⟩ := counted
  refine ⟨?_, ?_, ?_, ?_, ?_, ?_, ?_⟩
  · have added := tallies.segments
    omega
  · rw [delivered, length_flatMap_concat, ← delivered, ← frames]
    exact tallies.frames
  · rw [History.filed, length_filterMap_concat, ← History.filed, ← filed]
    exact tallies.filed
  · rw [countP_concat, ← found]
    exact tallies.found
  · rw [length_flatMap_concat, ← reported]
    exact tallies.reported
  · rw [length_filterMap_concat, ← accepted]
    exact tallies.accepted
  · rw [countP_concat, ← attempted]
    exact tallies.attempted

theorem Windowed.after {history : History} {moment : Moment}
    (windowed : Windowed moment.before history) (windows : moment.Windows) :
    Windowed moment.after (history ++ [moment]) := by
  refine ⟨?_, ?_, ?_⟩
  · have before := windowed.received
    have change := windows.received
    rw [History.filed] at before ⊢
    rw [popped, length_filterMap_concat, ← popped, countP_concat, length_filterMap_concat]
    omega
  · have before := windowed.inFlight
    have change := windows.inFlight
    rw [length_flatMap_concat, length_filterMap_concat]
    omega
  · intro posted
    rw [List.forall_mem_append, List.forall_mem_singleton] at posted
    obtain ⟨placed, unskipped⟩ := windowed.placed posted.1
    obtain ⟨still, skipped⟩ := windows.placed placed posted.2
    refine ⟨still, ?_⟩
    rw [countP_concat, unskipped, skipped]
    rfl

theorem counted_run (config : Config) (inputs : List Input) :
    Counted ((Engine.fresh config).run inputs).1 ((Engine.fresh config).history inputs) := by
  refine (History.invariant (fun engine history => engine.Sound ∧ Counted engine history)
    ⟨Engine.sound_fresh config, ⟨rfl, rfl, rfl, rfl, rfl, rfl, rfl⟩⟩ ?_ inputs).2
  rintro history moment ⟨sound, counted⟩
  exact ⟨sound.after, counted.after (moment.tallies sound)⟩

theorem inFlight_fresh (config : Config) : (Engine.fresh config).inFlight = 0 := by
  simp [Engine.inFlight, Engine.lane_fresh, Ring.empty]

theorem windowed_run (config : Config) (inputs : List Input)
    (unreleased : ∀ moment ∈ (Engine.fresh config).history inputs, moment.isReleased = false) :
    Windowed ((Engine.fresh config).run inputs).1 ((Engine.fresh config).history inputs) := by
  refine (History.invariant (fun engine history => engine.Sound ∧
    ((∀ moment ∈ history, moment.isReleased = false) → Windowed engine history))
    ⟨Engine.sound_fresh config, fun _ => ⟨rfl, inFlight_fresh config, fun _ =>
      ⟨Reception.placed_untouched, rfl⟩⟩⟩ ?_ inputs).2 unreleased
  rintro history moment ⟨sound, windowed⟩
  refine ⟨sound.after, fun unreleased => ?_⟩
  rw [List.forall_mem_append, List.forall_mem_singleton] at unreleased
  exact (windowed unreleased.1).after (moment.windows sound unreleased.2)

end History

namespace Engine

/-- The counters balance after every run.  The segments that were stepped over are those
that were rejected or dropped and those whose frames were handed up, every frame that was
handed up is accepted, turned down or awaits its verdict, and the counters of transfers
count the transfers that ended and the attempts to send.  Until the rings are released,
a transfer that was taken is completed or in flight, and a received buffer was taken by
the pass, passed by or waits.  No buffer is passed by unless a transfer was filed in a
slot that was not posted yet. -/
theorem counters_balance (config : Config) (inputs : List Input) :
    let history := (fresh config).history inputs
    let engine := ((fresh config).run inputs).1
    let counters := engine.counters
    counters.rxSegments + engine.pass.stepped =
      counters.rxBadSegments + counters.rxOutOfMemory + counters.rxFrames + counters.rxRejected +
        engine.pass.judging ∧
    counters.rxFrames + counters.rxRejected + engine.pass.judging = history.delivered.length ∧
    counters.rxCompletions + counters.rxMismatches = history.countP Moment.findsReceiver ∧
    counters.txCompleted = (history.flatMap Moment.reportedSent).length ∧
    history.countP Moment.attempts =
      counters.txSubmitted + counters.txQueueFull + counters.txSubmitsFailed ∧
    ((∀ moment ∈ history, moment.isReleased = false) →
      counters.txSubmitted = counters.txCompleted + engine.inFlight ∧
      counters.rxCompletions =
        history.popped.length + history.countP Moment.skips + engine.receiveOccupancy ∧
      ((∀ moment ∈ history, moment.filesPosted = true) → history.countP Moment.skips = 0)) := by
  obtain ⟨segments, frames, filed, found, reported, accepted, attempted⟩ :=
    History.counted_run config inputs
  refine ⟨?_, frames, found, reported, attempted.symm, ?_⟩
  · simp only [stepped, settled, judged] at segments
    omega
  · intro unreleased
    have windowed := History.windowed_run config inputs unreleased
    refine ⟨?_, ?_, fun posted => (windowed.placed posted).2⟩
    · rw [accepted, reported, ← windowed.inFlight]
      omega
    · rw [filed, ← windowed.received, receiveOccupancy]
      omega

/-- A run with two frames of one buffer, of which one is turned down, with a receive and a
transmit transfer that nobody expects, and with a frame in flight. -/
def balanceInputs : List Input :=
  let next : Input := .proceedPass fun _ => true
  cutInputs ++
    [.completeReceive ⟨390, ⟨[]⟩, .ok, 0⟩, .answerDelivery true, next, .answerDelivery false, next,
      next, .answerRepost none, sending 1, sending 1, ending 1 64, ending 1 99]

/-- At the end of that run a buffer waits and a frame is in flight. -/
theorem counters_balance_in_flight :
    let history := (fresh .small).history balanceInputs
    let engine := ((fresh .small).run balanceInputs).1
    history.delivered.length = 2 ∧ engine.counters.rxRejected = 1 ∧
      engine.counters.txCompleted = 1 ∧ engine.counters.txSubmitted = 1 + engine.inFlight ∧
      engine.inFlight = 1 ∧ engine.counters.rxCompletions = 1 + engine.receiveOccupancy ∧
      engine.receiveOccupancy = 1 := by
  intro history engine
  have facts : history.delivered.length = 2 ∧ engine.counters.rxRejected = 1 ∧
      engine.counters.txCompleted = 1 ∧ engine.inFlight = 1 ∧ engine.receiveOccupancy = 1 ∧
      history.popped.length = 1 ∧ (∀ moment ∈ history, moment.isReleased = false) ∧
      ∀ moment ∈ history, moment.filesPosted = true := by
    decide +kernel
  obtain ⟨delivered, rejected, completed, inFlight, occupancy, popped, unreleased, posted⟩ := facts
  obtain ⟨-, -, -, -, -, windows⟩ := counters_balance .small balanceInputs
  obtain ⟨submitted, received, unskipped⟩ := windows unreleased
  rw [completed] at submitted
  rw [popped, unskipped posted] at received
  exact ⟨delivered, rejected, completed, submitted, inFlight, received, occupancy⟩

/-- The balance of received buffers can fail.  The transfer of the first slot ends before
the second slot is posted, and with it one of the second slot, which nobody submitted.
Bringing up goes on to submit the buffer of the second slot out of the window, and the
pass finds the slot without it. -/
theorem slot_retired_without_buffer :
    let next : Input := .proceedPass fun _ => true
    let inputs : List Input :=
      [.startBringUp .ample, .proceedBringUp, .completeReceive ⟨384, ⟨[]⟩, .ok, 0⟩,
        .completeReceive ⟨385, ⟨[]⟩, .ok, 0⟩, .answerPost none] ++
        (List.replicate 15 [Input.proceedBringUp, .answerPost none]).flatten ++
        [.proceedBringUp, .startPass, next, next, next, .answerRepost none, next, next]
    let history := (fresh .small).history inputs
    let engine := ((fresh .small).run inputs).1
    engine.bringUp = .idle ∧ engine.pass = .idle ∧
      (∀ moment ∈ history, moment.isReleased = false) ∧
      engine.counters.rxCompletions = 2 ∧ history.popped.length = 1 ∧
      engine.receiveOccupancy = 0 := by
  decide +kernel

end Engine

end WlanDatapath
