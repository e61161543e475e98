import WlanDatapath.Proofs.Acquisition

/-!
# What an input leaves alone

Bringing up and tearing down count nothing, report nothing and leave the pass where it is.
Reception leaves the device and everything about sending alone.  Each of these facts is
settled here operation by operation and then for the inputs (`Moment.keepsRecords`,
`Moment.receives`), so that a proof that follows one part of an engine through a run does
not open the operations that have nothing to do with that part.
-/

namespace WlanDatapath

/-! ## Bringing up and tearing down -/

/-- An input that is part of neither bringing up nor tearing down. -/
def Input.isRoutine : Input → Bool
  | .startBringUp _ | .proceedBringUp | .answerPost _ | .beginTeardown | .finishTeardown => false
  | .completeReceive _ | .startPass | .proceedPass _ | .answerDelivery _ | .answerRepost _
  | .enqueue _ _ _ _ _ | .completeTransmit _ _ | .finishStatistics => true

namespace Engine

/-- Nothing more is counted or reported, and the pass has not moved. -/
structure KeepsRecords (before after : Engine) : Prop where
  counters : after.counters = before.counters
  reported : after.reported = before.reported
  pass : after.pass = before.pass

variable (engine : Engine)

theorem keepsRecords_startBringUp (supply : Supply) :
    engine.KeepsRecords (engine.startBringUp supply).1 := by
  obtain ⟨slots, handles, accounted⟩ := engine.acquire_accounted supply acquisitions
  have others := accounted.acquired.others
  rw [startBringUp]
  split
  · exact ⟨rfl, rfl, rfl⟩
  · split
    next acquired effects failure result =>
      rw [result] at others
      simp only at others
      simp only [abandon, beginTeardown]
      rw [others]
      exact ⟨rfl, rfl, rfl⟩
    next acquired effects result =>
      rw [result] at others
      simp only at others
      rw [others]
      exact ⟨rfl, rfl, rfl⟩

variable {engine}

theorem keepsRecords_finishTeardown? {finished : Engine × List Effect}
    (finish : engine.finishTeardown? = some finished) : engine.KeepsRecords finished.1 := by
  obtain ⟨-, -, rfl⟩ := finishTeardown?_eq_some finish
  exact ⟨rfl, rfl, rfl⟩

theorem keepsRecords_proceedBringUp? {step : BringUpStep}
    (proceeds : engine.proceedBringUp? = some step) : engine.KeepsRecords step.1 := by
  cases bringUpMove_of_proceeds proceeds with
  | posts | passes | abandons | comesUp => exact ⟨rfl, rfl, rfl⟩
  | fails _ finish =>
      obtain ⟨counters, reported, pass⟩ := keepsRecords_finishTeardown? finish
      exact ⟨counters, reported, pass⟩

theorem keepsRecords_answerPost (refusal : Option Refusal) :
    engine.KeepsRecords (engine.answerPost refusal).1 := by
  unfold answerPost
  split
  · split <;> exact ⟨rfl, rfl, rfl⟩
  all_goals exact ⟨rfl, rfl, rfl⟩

end Engine

/-- Bringing up and tearing down count nothing and report nothing. -/
theorem Moment.keepsRecords {moment : Moment} (other : moment.input.isRoutine = false) :
    moment.before.KeepsRecords moment.after := by
  obtain ⟨engine, input⟩ := moment
  cases input with
  | startBringUp supply => exact engine.keepsRecords_startBringUp supply
  | proceedBringUp =>
      rw [after_proceedBringUp]
      cases proceeds : engine.proceedBringUp? with
      | none => exact ⟨rfl, rfl, rfl⟩
      | some step => exact Engine.keepsRecords_proceedBringUp? proceeds
  | answerPost refusal => exact Engine.keepsRecords_answerPost refusal
  | beginTeardown => exact ⟨rfl, rfl, rfl⟩
  | finishTeardown =>
      rw [after_finishTeardown]
      cases finish : engine.finishTeardown? with
      | none => exact ⟨rfl, rfl, rfl⟩
      | some finished => exact Engine.keepsRecords_finishTeardown? finish
  | completeReceive | startPass | proceedPass | answerDelivery | answerRepost | enqueue
  | completeTransmit | finishStatistics => cases other

/-! ## Reception -/

/-- An input of reception that cannot be news of the device. -/
def Input.isReception : Input → Bool
  | .completeReceive _ | .startPass | .proceedPass _ | .answerDelivery _ => true
  | _ => false

/-- Of the counters, those about sending. -/
def Counters.sending (counters : Counters) : Counters :=
  { counters with
    rxCompletions := 0
    rxErrors := 0
    rxMismatches := 0
    rxSegments := 0
    rxAggregates := 0
    rxBadLengths := 0
    rxBadSegments := 0
    rxOutOfMemory := 0
    rxFrames := 0
    rxRejected := 0
    rxRepostsFailed := 0 }

namespace Engine

/-- Only the receive ring, the pass with its request, the counters of reception and the
reports may differ. -/
structure Receives (before after : Engine) : Prop where
  others : after = { before with
    receive := after.receive
    deferred := after.deferred
    counters := after.counters
    reported := after.reported
    pass := after.pass }
  sending : after.counters.sending = before.counters.sending

namespace Receives

variable {before after : Engine}

theorem device (receives : before.Receives after) : after.device = before.device := by
  rw [receives.others]

theorem transmit (receives : before.Receives after) : after.transmit = before.transmit := by
  rw [receives.others]

theorem bringUp (receives : before.Receives after) : after.bringUp = before.bringUp := by
  rw [receives.others]

theorem teardowns (receives : before.Receives after) : after.teardowns = before.teardowns := by
  rw [receives.others]

end Receives

variable (engine : Engine)

theorem receives_dismissReceive (transfer : Transfer Buffer) (anomaly : Anomaly)
    (line : LogLine) : engine.Receives (engine.dismissReceive transfer anomaly line).1 := by
  simp only [dismissReceive, putBackByHandle]
  split <;> exact ⟨rfl, rfl⟩

theorem receives_completeReceive (transfer : Transfer Buffer) :
    engine.Receives (engine.completeReceive transfer).1 := by
  unfold completeReceive
  simp only
  split
  · exact ⟨rfl, rfl⟩
  · split
    · exact engine.receives_dismissReceive transfer _ _
    · split
      · exact ⟨rfl, rfl⟩
      · exact engine.receives_dismissReceive transfer _ _

/-- The end of a transfer leaves the pass where it is. -/
theorem pass_completeReceive (transfer : Transfer Buffer) :
    (engine.completeReceive transfer).1.pass = engine.pass := by
  have dismissed : ∀ anomaly line,
      (engine.dismissReceive transfer anomaly line).1.pass = engine.pass := by
    intro anomaly line
    simp only [dismissReceive, putBackByHandle]
    split <;> rfl
  unfold completeReceive
  simp only
  split
  · rfl
  · split
    · exact dismissed _ _
    · split
      · rfl
      · exact dismissed _ _

theorem receives_startPass : engine.Receives engine.startPass.2 := by
  unfold startPass
  split <;> exact ⟨rfl, rfl⟩

theorem receives_popReceive : engine.Receives engine.popReceive := by
  unfold popReceive
  split
  · exact ⟨rfl, rfl⟩
  · split
    · exact ⟨rfl, rfl⟩
    · split <;> exact ⟨rfl, rfl⟩

theorem receives_takeSegment (memory : Memory) (segment : Segment) (work : Work)
    (walker : Walker) :
    engine.Receives (engine.takeSegment memory segment work walker).1 := by
  unfold takeSegment
  split
  · exact ⟨rfl, rfl⟩
  · split <;> exact ⟨rfl, rfl⟩

theorem receives_walkReceive (memory : Memory) (work : Work) (walker : Walker) :
    engine.Receives (engine.walkReceive memory work walker).1 := by
  unfold walkReceive
  split
  · exact ⟨rfl, rfl⟩
  · exact ⟨rfl, rfl⟩
  · exact engine.receives_takeSegment memory _ work _

theorem receives_returnReceive (work : Work) :
    engine.Receives (engine.returnReceive work).1 := by
  unfold returnReceive
  split <;> exact ⟨rfl, rfl⟩

theorem receives_proceedPass? {memory : Memory} {step : Engine × List Effect}
    (proceeds : engine.proceedPass? memory = some step) : engine.Receives step.1 := by
  unfold proceedPass? at proceeds
  split at proceeds
  · contradiction
  · contradiction
  · contradiction
  next popping =>
    cases proceeds
    exact engine.receives_popReceive
  next work walker walking =>
    cases proceeds
    exact engine.receives_walkReceive memory work walker
  next work returning =>
    cases proceeds
    exact engine.receives_returnReceive work

theorem receives_answerDelivery (accepted : Bool) :
    engine.Receives (engine.answerDelivery accepted) := by
  unfold answerDelivery
  split
  · cases accepted <;> exact ⟨rfl, rfl⟩
  · exact ⟨rfl, rfl⟩

/-- A refusal may be news of the device; nothing else about sending changes. -/
theorem receives_answerRepost (refusal : Option Refusal) :
    let after := (engine.answerRepost refusal).1
    { engine with device := after.device }.Receives after := by
  intro after
  simp only [after]
  unfold answerRepost
  split
  · split <;> exact ⟨rfl, rfl⟩
  · exact ⟨rfl, rfl⟩

end Engine

/-- Reception leaves the device and everything about sending alone. -/
theorem Moment.receives {moment : Moment} (reception : moment.input.isReception = true) :
    moment.before.Receives moment.after := by
  obtain ⟨engine, input⟩ := moment
  cases input with
  | completeReceive transfer => exact engine.receives_completeReceive transfer
  | startPass => exact engine.receives_startPass
  | proceedPass memory =>
      rw [after_proceedPass]
      cases proceeds : engine.proceedPass? memory with
      | none => exact ⟨rfl, rfl⟩
      | some step => exact engine.receives_proceedPass? proceeds
  | answerDelivery accepted => exact engine.receives_answerDelivery accepted
  | startBringUp | proceedBringUp | answerPost | answerRepost | enqueue | completeTransmit
  | finishStatistics | beginTeardown | finishTeardown => cases reception

end WlanDatapath
