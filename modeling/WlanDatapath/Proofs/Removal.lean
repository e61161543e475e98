import WlanDatapath.Proofs.Lifecycle

/-!
# What the removal of a device changes

A device that was found removed goes on as before: frames are submitted, buffers
are decoded and given back, and a teardown takes the same course.  The removal is
seen in the log only, where the lines that complain about a status are left out.

The reason is that finding the device removed commutes with every step.
`Engine.foundRemoved` is the engine after that, `hushed` leaves out the complaints,
and `Engine.step_foundRemoved` is the square of the two.  It needs a device that
was started, because removal is not noted on one that was only created.
-/

namespace WlanDatapath

/-! ## Complaints -/

/-- A line that complains about the status of a transfer or of a submission. -/
def LogLine.isComplaint : LogLine → Bool
  | .receiveFailed _ _ | .repostFailed _ _ | .submitFailed _ | .transmitFailed _ _ => true
  | .bringUpFailed _ | .up _ _ | .receiveRingFull _ | .receiveUnexpected _ _ | .badLength _
  | .segmentRejected _ | .aggregate _ | .transmitRingFull _ _ | .unknownEndpoint _
  | .transmitUnexpected _ _ _ | .inFlightAtTeardown _ _ => false

/-- An act that complains about a status. -/
def Effect.isComplaint : Effect → Bool
  | .log line => line.isComplaint
  | .allocate _ | .free _ | .poison _ | .submitReceive _ _ | .submitTransmit _ _ _ | .deliver _ _
  | .reportSent _ _ | .stopQueue _ | .wakeQueue _ | .scheduleStatistics _ | .raise => false

/-- Acts without complaints. -/
def hushed (effects : List Effect) : List Effect :=
  effects.filter fun effect => !effect.isComplaint

section

variable {effects : List Effect}

@[simp]
theorem hushed_nil : hushed [] = [] := rfl

@[simp]
theorem hushed_append (before after : List Effect) :
    hushed (before ++ after) = hushed before ++ hushed after :=
  List.filter_append before after

@[simp]
theorem hushed_cons_of_plain {effect : Effect} (plain : effect.isComplaint = false) :
    hushed (effect :: effects) = effect :: hushed effects :=
  List.filter_cons_of_pos (by rw [plain]; rfl)

/-- Acts among which there are no complaints stay. -/
theorem hushed_eq_self (plain : ∀ effect ∈ effects, effect.isComplaint = false) :
    hushed effects = effects :=
  List.filter_eq_self.mpr fun effect member => by rw [plain effect member]; rfl

/-- A line that complains is left out, whether it was written or not. -/
theorem hushed_of_complains (line : LogLine) (complains : line.isComplaint = true)
    (written : Prop) [Decidable written] :
    hushed (if written then [.log line] else []) = [] := by
  split
  · exact List.filter_cons_of_neg (by simp [Effect.isComplaint, complains])
  · rfl

/-- Only a line of the log complains. -/
theorem Effect.isComplaint_of_kind {effect : Effect} (other : effect.kind ≠ .log) :
    effect.isComplaint = false := by
  cases effect with
  | log => exact absurd rfl other
  | _ => rfl

end

/-! ## Devices that were found removed -/

namespace Device

variable {device : Device}

/-- The removal is news once. -/
theorem noteRemoval_noteRemoval (started : device.stage ≠ .created) :
    device.noteRemoval.2.noteRemoval = (false, device.noteRemoval.2) := by
  obtain ⟨stage, removed, more, reading⟩ := device
  cases stage
  case created => exact absurd rfl started
  all_goals rfl

/-- A refusal finds the device removed, or not, whether or not it was found so
before. -/
theorem noteRemoval_of_fatal (device : Device) (fatal : Bool) :
    (if fatal then device.noteRemoval.2.noteRemoval.2 else device.noteRemoval.2) =
      (if fatal then device.noteRemoval.2 else device).noteRemoval.2 := by
  cases fatal <;> rfl

/-- A refusal does not undo the start of a device. -/
theorem started_of_fatal (started : device.stage ≠ .created) (fatal : Bool) :
    (if fatal then device.noteRemoval.2 else device).stage ≠ .created := by
  split
  · exact mt device.follows_noteRemoval.created_iff.mp started
  · exact started

/-- Finding a device removed leaves its statistics flags alone. -/
theorem noteRemoval_eq_with (device : Device) :
    ∃ stage removed,
      device.noteRemoval.2 = { device with stage := stage, removed := removed } := by
  unfold noteRemoval
  split <;> exact ⟨_, _, rfl⟩

/-- It does not matter whether the device was found removed before it dies. -/
theorem kill_noteRemoval (started : device.stage ≠ .created) :
    device.noteRemoval.2.kill = device.kill.noteRemoval.2 := by
  obtain ⟨stage, removed, more, reading⟩ := device
  cases stage
  case created => exact absurd rfl started
  all_goals rfl

theorem noteCompletion_noteRemoval (device : Device) :
    device.noteRemoval.2.noteCompletion = device.noteCompletion.noteRemoval.2 := by
  obtain ⟨stage, removed, more, reading⟩ := device
  cases stage <;> rfl

theorem claimReading_noteRemoval (device : Device) :
    device.noteRemoval.2.claimReading =
      (device.claimReading.1, device.claimReading.2.noteRemoval.2) := by
  obtain ⟨stage, removed, more, reading⟩ := device
  cases stage <;> rfl

theorem takeCompletions_noteRemoval (device : Device) :
    device.noteRemoval.2.takeCompletions =
      (device.takeCompletions.1, device.takeCompletions.2.noteRemoval.2) := by
  obtain ⟨stage, removed, more, reading⟩ := device
  cases stage <;> rfl

theorem releaseReading_noteRemoval (device : Device) :
    device.noteRemoval.2.releaseReading = device.releaseReading.noteRemoval.2 := by
  obtain ⟨stage, removed, more, reading⟩ := device
  cases stage <;> rfl

end Device

namespace Engine

/-- The engine once its device was found removed. -/
def foundRemoved (engine : Engine) : Engine :=
  { engine with device := engine.device.noteRemoval.2 }

/-- What a step leads to once the device was found removed. -/
def muted (step : Engine × List Effect) : Engine × List Effect :=
  (step.1.foundRemoved, hushed step.2)

/-- What a step with an answer leads to once the device was found removed. -/
def mutedWith {Answer : Type} (step : Engine × List Effect × Answer) :
    Engine × List Effect × Answer :=
  (step.1.foundRemoved, hushed step.2.1, step.2.2)

variable {engine : Engine}

section

variable (engine : Engine)

@[simp]
theorem config_foundRemoved : engine.foundRemoved.config = engine.config := rfl

@[simp]
theorem receive_foundRemoved : engine.foundRemoved.receive = engine.receive := rfl

@[simp]
theorem transmit_foundRemoved : engine.foundRemoved.transmit = engine.transmit := rfl

@[simp]
theorem deferred_foundRemoved : engine.foundRemoved.deferred = engine.deferred := rfl

@[simp]
theorem bringUp_foundRemoved : engine.foundRemoved.bringUp = engine.bringUp := rfl

@[simp]
theorem pass_foundRemoved : engine.foundRemoved.pass = engine.pass := rfl

@[simp]
theorem accepts_foundRemoved : engine.foundRemoved.device.accepts = engine.device.accepts :=
  engine.device.accepts_noteRemoval

end

/-! ## Logging -/

/-- No status is worth a line once the device was found removed. -/
theorem isWorthLogging_of_removed (removed : engine.device.removed = true) (status : Status) :
    engine.isWorthLogging status = false := by
  simp [isWorthLogging, removed]

theorem complaint_of_removed (removed : engine.device.removed = true) (status : Status)
    (line : LogLine) : engine.complaint status line = [] := by
  rw [complaint, isWorthLogging_of_removed removed]
  rfl

theorem removed_foundRemoved (started : engine.device.stage ≠ .created) :
    engine.foundRemoved.device.removed = true :=
  Device.removed_noteRemoval started

/-- A complaint is left out. -/
theorem hushed_complaint (engine : Engine) (status : Status) (line : LogLine)
    (complains : line.isComplaint = true) : hushed (engine.complaint status line) = [] :=
  hushed_of_complains line complains _

/-- Complaints written before a step are left out of it. -/
theorem muted_behind (complaints : List Effect) (step : Engine × List Effect) :
    muted (step.1, complaints ++ step.2) =
      ((muted step).1, hushed complaints ++ (muted step).2) := by
  simp [muted]

/-- A step that writes no complaint, whichever device it is taken by. -/
theorem muted_of_plain {step other : Engine × List Effect}
    (same : other.1 = step.1.foundRemoved) (acts : other.2 = step.2)
    (plain : ∀ effect ∈ step.2, effect.isComplaint = false) : other = muted step := by
  rw [muted, hushed_eq_self plain, ← same, ← acts]

theorem isComplaint_reportOnce (engine : Engine) (anomaly : Anomaly) {line : LogLine}
    (plain : line.isComplaint = false) :
    ∀ effect ∈ (engine.reportOnce anomaly line).2, effect.isComplaint = false := by
  unfold reportOnce
  simp only
  split <;> simp [Effect.isComplaint, plain]

theorem reportOnce_foundRemoved (engine : Engine) (anomaly : Anomaly) {line : LogLine}
    (plain : line.isComplaint = false) :
    engine.foundRemoved.reportOnce anomaly line = muted (engine.reportOnce anomaly line) :=
  muted_of_plain rfl rfl (engine.isComplaint_reportOnce anomaly plain)

/-! ## Bringing up and tearing down -/

theorem beginTeardown_foundRemoved (started : engine.device.stage ≠ .created) :
    engine.foundRemoved.beginTeardown = muted engine.beginTeardown := by
  apply muted_of_plain
  · simp [beginTeardown, foundRemoved, Device.kill_noteRemoval started]
  · rfl
  · intro effect member
    exact Effect.isComplaint_of_kind (by simp [engine.kind_beginTeardown effect member])

theorem abandon_foundRemoved (started : engine.device.stage ≠ .created) (failure : Failure) :
    engine.foundRemoved.abandon failure = muted (engine.abandon failure) := by
  have begun := beginTeardown_foundRemoved started
  unfold abandon
  rw [begun]
  rfl

theorem finishTeardown?_foundRemoved (engine : Engine) :
    engine.foundRemoved.finishTeardown? = engine.finishTeardown?.map muted := by
  cases finish : engine.finishTeardown? with
  | none =>
      unfold finishTeardown? at finish ⊢
      split at finish
      next waits => exact if_pos waits
      next => contradiction
  | some finished =>
      have plain : ∀ effect ∈ finished.2, effect.isComplaint = false := by
        intro effect member
        rcases of_mem_finishTeardown? finish member with
          ⟨lane, count, rfl⟩ | ⟨handle, rfl⟩ | ⟨handle, rfl⟩ <;> rfl
      rw [Option.map_some, muted, hushed_eq_self plain]
      obtain ⟨begun, quiet, rfl⟩ := finishTeardown?_eq_some finish
      simp [finishTeardown?, begun, quiet, foundRemoved]

theorem proceedBringUp?_foundRemoved (started : engine.device.stage ≠ .created) :
    engine.foundRemoved.proceedBringUp? = engine.proceedBringUp?.map mutedWith := by
  unfold proceedBringUp?
  simp only [bringUp_foundRemoved, receive_foundRemoved, config_foundRemoved,
    finishTeardown?_foundRemoved, abandon_foundRemoved started]
  cases engine.bringUp with
  | idle | submitting => rfl
  | posting index =>
      by_cases all : receiveSlots ≤ index
      · simp only [all, if_true]
        rfl
      · simp only [all, if_false]
        cases engine.receive.slots[index]? with
        | none => rfl
        | some slot => cases held : slot.buffer <;> simp [held] <;> rfl
  | failing failure => cases engine.finishTeardown? <;> rfl

theorem answerPost_foundRemoved (started : engine.device.stage ≠ .created)
    (refusal : Option Refusal) :
    engine.foundRemoved.answerPost refusal = muted (engine.answerPost refusal) := by
  cases place : engine.bringUp with
  | idle | posting | failing => simp [answerPost, place, muted]
  | submitting work =>
      cases refusal with
      | none => simp [answerPost, place, muted, foundRemoved]
      | some refusal =>
          simp only [answerPost, bringUp_foundRemoved, place]
          rw [← abandon_foundRemoved (Device.started_of_fatal started refusal.fatal)]
          simp only [foundRemoved, Device.noteRemoval_of_fatal]
          rfl

/-! ## Reception -/

theorem putBackByHandle_foundRemoved (engine : Engine) (handle : Handle) (buffer : Buffer) :
    engine.foundRemoved.putBackByHandle handle buffer =
      (engine.putBackByHandle handle buffer).foundRemoved := by
  unfold putBackByHandle
  rw [receive_foundRemoved]
  split <;> rfl

theorem dismissReceive_foundRemoved (engine : Engine) (transfer : Transfer Buffer)
    (anomaly : Anomaly) {line : LogLine} (plain : line.isComplaint = false) :
    engine.foundRemoved.dismissReceive transfer anomaly line =
      muted (engine.dismissReceive transfer anomaly line) := by
  simp only [dismissReceive, muted, ← putBackByHandle_foundRemoved]
  rw [hushed_eq_self (isComplaint_reportOnce _ anomaly plain)]
  rfl

theorem fileReceive_foundRemoved (engine : Engine) (transfer : Transfer Buffer) :
    engine.foundRemoved.fileReceive transfer = muted (engine.fileReceive transfer) := by
  refine muted_of_plain ?_ ?_ ?_
  · rfl
  · rfl
  · intro effect member
    exact Effect.isComplaint_of_kind (by simp [engine.kind_fileReceive transfer effect member])

theorem completeReceive_foundRemoved (started : engine.device.stage ≠ .created)
    (transfer : Transfer Buffer) :
    engine.foundRemoved.completeReceive transfer = muted (engine.completeReceive transfer) := by
  simp only [completeReceive, receive_foundRemoved,
    complaint_of_removed (removed_foundRemoved started), muted_behind,
    hushed_complaint engine transfer.status (.receiveFailed _ _) rfl, apply_ite muted]
  rw [fileReceive_foundRemoved, dismissReceive_foundRemoved, dismissReceive_foundRemoved] <;> rfl

/-! ## The pass -/

theorem startPass_foundRemoved (engine : Engine) :
    engine.foundRemoved.startPass = (engine.startPass.1, engine.startPass.2.foundRemoved) := by
  unfold startPass
  rw [deferred_foundRemoved]
  split <;> rfl

theorem popReceive_foundRemoved (engine : Engine) :
    engine.foundRemoved.popReceive = engine.popReceive.foundRemoved := by
  unfold popReceive
  simp only [receive_foundRemoved, accepts_foundRemoved]
  split
  · rfl
  · split
    · rfl
    · split <;> rfl

theorem endWalk_foundRemoved (engine : Engine) (work : Work) (walker : Walker) :
    engine.foundRemoved.endWalk work walker = muted (engine.endWalk work walker) := by
  unfold endWalk
  simp only [muted]
  split <;> rfl

theorem takeSegment_foundRemoved (engine : Engine) (memory : Memory) (segment : Segment)
    (work : Work) (walker : Walker) :
    engine.foundRemoved.takeSegment memory segment work walker =
      muted (engine.takeSegment memory segment work walker) := by
  unfold takeSegment
  split
  · rw [← reportOnce_foundRemoved _ _ rfl]
    rfl
  · split <;> rfl

theorem walkReceive_foundRemoved (engine : Engine) (memory : Memory) (work : Work)
    (walker : Walker) :
    engine.foundRemoved.walkReceive memory work walker =
      muted (engine.walkReceive memory work walker) := by
  unfold walkReceive
  split
  · exact endWalk_foundRemoved engine work _
  next defect walker found =>
    simp only
    rw [muted_behind, ← endWalk_foundRemoved, hushed_eq_self (isComplaint_reportOnce _ _ rfl)]
    rfl
  · exact takeSegment_foundRemoved engine memory _ work _

theorem returnReceive_foundRemoved (engine : Engine) (work : Work) :
    engine.foundRemoved.returnReceive work = muted (engine.returnReceive work) := by
  unfold returnReceive
  rw [accepts_foundRemoved]
  split <;> rfl

theorem proceedPass?_foundRemoved (engine : Engine) (memory : Memory) :
    engine.foundRemoved.proceedPass? memory = (engine.proceedPass? memory).map muted := by
  unfold proceedPass?
  rw [pass_foundRemoved]
  split
  · rfl
  · rfl
  · rfl
  · rw [popReceive_foundRemoved]
    rfl
  · rw [walkReceive_foundRemoved]
    rfl
  · rw [returnReceive_foundRemoved]
    rfl

/-! ## Answers -/

theorem answerDelivery_foundRemoved (engine : Engine) (accepted : Bool) :
    engine.foundRemoved.answerDelivery accepted =
      (engine.answerDelivery accepted).foundRemoved := by
  unfold answerDelivery
  rw [pass_foundRemoved]
  split <;> rfl

/-- A refusal that finds the device removed is logged if this is news.  If it was
found removed before, the line is left out, as any other line about the refusal. -/
theorem answerRepost_foundRemoved (started : engine.device.stage ≠ .created)
    (refusal : Option Refusal) :
    engine.foundRemoved.answerRepost refusal = muted (engine.answerRepost refusal) := by
  cases place : engine.pass with
  | idle | popping | walking | delivering | returning => simp [answerRepost, place, muted]
  | submitting work =>
      cases refusal with
      | none => simp [answerRepost, place, muted, foundRemoved]
      | some refusal =>
          have stale :
              engine.foundRemoved.device.noteRemoval = (false, engine.foundRemoved.device) :=
            Device.noteRemoval_noteRemoval started
          have same : (if refusal.fatal then engine.device.noteRemoval.2
              else engine.device).noteRemoval.2 = engine.foundRemoved.device := by
            rw [← Device.noteRemoval_of_fatal, Device.noteRemoval_noteRemoval started]
            exact ite_self _
          simp only [answerRepost, pass_foundRemoved, place, stale, muted, ite_self]
          refine Prod.ext ?_ ?_
          · simp only [foundRemoved, putBackAt, same]
          · simp only [Bool.and_false, Bool.false_or]
            rw [hushed_of_complains _ rfl, isWorthLogging_of_removed]
            · rfl
            · exact removed_foundRemoved started

/-! ## Transmission -/

theorem enterTransmit_foundRemoved (engine : Engine) (lane : Lane) (queue : UInt8) :
    engine.foundRemoved.enterTransmit lane queue = mutedWith (engine.enterTransmit lane queue) := by
  unfold enterTransmit
  rw [transmit_foundRemoved]
  split
  · rfl
  · simp only [mutedWith]
    split <;> rfl

theorem refuseTransmit_foundRemoved (started : engine.device.stage ≠ .created)
    (refusal : Refusal) :
    engine.foundRemoved.refuseTransmit refusal = mutedWith (engine.refuseTransmit refusal) := by
  cases fatal : refusal.fatal
  · simp only [refuseTransmit, fatal, Bool.false_eq_true, if_false, mutedWith]
    rw [hushed_complaint _ _ _ rfl, complaint_of_removed]
    · rfl
    · exact removed_foundRemoved started
  · simp only [refuseTransmit, fatal, if_true, mutedWith]
    rfl

theorem submitTransmit_foundRemoved (started : engine.device.stage ≠ .created)
    (answer : Transfer Outgoing → Option Refusal) (lane : Lane) (outgoing : Outgoing) :
    engine.foundRemoved.submitTransmit answer lane outgoing =
      mutedWith (engine.submitTransmit answer lane outgoing) := by
  unfold submitTransmit
  simp only [transmit_foundRemoved, accepts_foundRemoved]
  split
  · rfl
  · split
    · rfl
    · simp only [mutedWith]
      split
      · rw [enterTransmit_foundRemoved]
        rfl
      · rw [refuseTransmit_foundRemoved started]
        rfl

theorem enqueue_foundRemoved (started : engine.device.stage ≠ .created) (memory : Memory)
    (answer : Transfer Outgoing → Option Refusal) (frame : Outgoing) (key queue : UInt8) :
    engine.foundRemoved.enqueue memory answer frame key queue =
      mutedWith (engine.enqueue memory answer frame key queue) := by
  unfold enqueue
  rw [accepts_foundRemoved]
  split
  · split
    · rfl
    · split
      · rfl
      · exact submitTransmit_foundRemoved started answer _ _
  · rfl

theorem acceptTransmit_foundRemoved (engine : Engine) (lane : Lane)
    (transfer : Transfer Outgoing) :
    engine.foundRemoved.acceptTransmit lane transfer =
      muted (engine.acceptTransmit lane transfer) := by
  have plain : ∀ effect ∈ (engine.acceptTransmit lane transfer).2,
      effect.isComplaint = false := by
    intro effect member
    have kind := engine.kind_acceptTransmit lane transfer effect member
    exact Effect.isComplaint_of_kind fun log => by simp [log] at kind
  rw [muted, hushed_eq_self plain]
  have claim := engine.device.noteCompletion.claimReading_noteRemoval
  cases well : transfer.status.isOk
  · simp only [acceptTransmit, well]
    rfl
  · simp only [acceptTransmit, well, requestStatistics, setLane, foundRemoved,
      Device.noteCompletion_noteRemoval, claim]
    rfl

theorem dismissTransmit_foundRemoved (engine : Engine) {line : LogLine}
    (plain : line.isComplaint = false) :
    engine.foundRemoved.dismissTransmit line = muted (engine.dismissTransmit line) := by
  unfold dismissTransmit
  rw [← reportOnce_foundRemoved _ _ plain]
  rfl

theorem completeTransmit_foundRemoved (started : engine.device.stage ≠ .created)
    (address : UInt8) (transfer : Transfer Outgoing) :
    engine.foundRemoved.completeTransmit address transfer =
      muted (engine.completeTransmit address transfer) := by
  simp only [completeTransmit, config_foundRemoved, transmit_foundRemoved,
    complaint_of_removed (removed_foundRemoved started), muted_behind,
    hushed_complaint engine transfer.status (.transmitFailed _ _) rfl]
  cases engine.config.lane? address with
  | none => rw [dismissTransmit_foundRemoved engine rfl]
  | some lane =>
      simp only [apply_ite muted, acceptTransmit_foundRemoved]
      rw [dismissTransmit_foundRemoved engine rfl]
      rfl

theorem finishStatistics_foundRemoved (engine : Engine) :
    engine.foundRemoved.finishStatistics = muted engine.finishStatistics := by
  have more := engine.device.takeCompletions_noteRemoval
  simp only [finishStatistics, accepts_foundRemoved]
  simp only [foundRemoved, more, muted, Device.releaseReading_noteRemoval]
  split <;> rfl

/-! ## Every step -/

theorem unlessStuck_muted (engine : Engine) (step : Option (Engine × List Effect)) :
    engine.foundRemoved.unlessStuck (step.map muted) = mutedWith (engine.unlessStuck step) := by
  cases step <;> rfl

/-- Finding a started device removed commutes with every step, up to complaints. -/
theorem step_foundRemoved (started : engine.device.stage ≠ .created) (input : Input) :
    engine.foundRemoved.step input = mutedWith (engine.step input) := by
  cases input with
  | startBringUp supply =>
      have before : engine.foundRemoved.device.stage ≠ .created :=
        mt engine.device.follows_noteRemoval.created_iff.mp started
      simp only [step, startBringUp, if_pos started, if_pos before]
      rfl
  | proceedBringUp =>
      simp only [step, proceedBringUp?_foundRemoved started]
      cases engine.proceedBringUp? <;> rfl
  | answerPost refusal =>
      simp only [step, answerPost_foundRemoved started]
      rfl
  | completeReceive transfer =>
      simp only [step, completeReceive_foundRemoved started]
      rfl
  | startPass =>
      simp only [step, startPass_foundRemoved]
      rfl
  | proceedPass memory =>
      simp only [step, proceedPass?_foundRemoved, unlessStuck_muted]
  | answerDelivery accepted =>
      simp only [step, answerDelivery_foundRemoved]
      rfl
  | answerRepost refusal =>
      simp only [step, answerRepost_foundRemoved started]
      rfl
  | enqueue memory answer frame key queue =>
      simp only [step, enqueue_foundRemoved started]
      rfl
  | completeTransmit address transfer =>
      simp only [step, completeTransmit_foundRemoved started]
      rfl
  | finishStatistics =>
      simp only [step, finishStatistics_foundRemoved]
      rfl
  | beginTeardown =>
      simp only [step, beginTeardown_foundRemoved started]
      rfl
  | finishTeardown =>
      simp only [step, finishTeardown?_foundRemoved, unlessStuck_muted]

/-! ## Every run -/

/-- Runs of an engine before and after its device was found removed go the same way. -/
theorem run_foundRemoved (started : engine.device.stage ≠ .created) (inputs : List Input) :
    engine.foundRemoved.run inputs = muted (engine.run inputs) := by
  induction inputs generalizing engine with
  | nil => rfl
  | cons input later hypothesis =>
      have next : (engine.step input).1.device.stage ≠ .created :=
        @started_after ⟨engine, input⟩ started
      rw [run_cons, run_cons, step_foundRemoved started input, mutedWith, hypothesis next]
      simp [muted]

/-- At every input the replies are the same, and the acts are but for complaints. -/
theorem answers_foundRemoved (started : engine.device.stage ≠ .created) (inputs : List Input) :
    (engine.foundRemoved.history inputs).map (fun moment => (moment.effects, moment.reply)) =
      (engine.history inputs).map fun moment => (hushed moment.effects, moment.reply) := by
  induction inputs generalizing engine with
  | nil => rfl
  | cons input later hypothesis =>
      have next : (engine.step input).1.device.stage ≠ .created :=
        @started_after ⟨engine, input⟩ started
      have same := step_foundRemoved started input
      simp only [history, List.map_cons, List.cons.injEq, Moment.effects, Moment.reply, same]
      exact ⟨rfl, hypothesis next⟩

end Engine

/-! ## What is seen of a run -/

/-- The calls among some acts, in order: all of them but the lines of the log. -/
def calls (effects : List Effect) : List Effect :=
  effects.filter fun effect => effect.kind ≠ .log

/-- The line that an act writes to the log. -/
def Effect.line? : Effect → Option LogLine
  | .log line => some line
  | _ => none

/-- The lines written to the log, in order. -/
def logged (effects : List Effect) : List LogLine :=
  effects.filterMap Effect.line?

/-- Complaints are no calls. -/
theorem calls_hushed (effects : List Effect) : calls (hushed effects) = calls effects := by
  rw [calls, calls, hushed, List.filter_filter]
  apply List.filter_congr
  intro effect member
  by_cases other : effect.kind = .log
  · simp [other]
  · simp [other, Effect.isComplaint_of_kind other]

/-- Of the log only complaints are left out. -/
theorem logged_hushed (effects : List Effect) :
    logged (hushed effects) = (logged effects).filter fun line => !line.isComplaint := by
  rw [logged, logged, hushed, List.filterMap_filter, List.filter_filterMap]
  apply List.filterMap_congr
  intro effect member
  cases effect with
  | log line =>
      cases complains : line.isComplaint <;>
        simp [Effect.isComplaint, Effect.line?, Option.filter, complains]
  | _ => rfl

namespace Engine

/-- **The removal of a device is only seen in the log.**

The device of one engine is running; another engine differs in that its device was
found removed.  At the same inputs, whatever they are, the two give the same replies
and make the same calls, and they end alike but for the stage of life and the
removal latch of the device; both accept or neither does.  The log of the second is
that of the first without the lines that complain about a status. -/
theorem removal_only_silences (first second : Engine) (running : first.device.stage = .running)
    (removal : second =
      { first with device := { first.device with stage := .removed, removed := true } })
    (inputs : List Input) :
    (second.history inputs).map Moment.reply = (first.history inputs).map Moment.reply ∧
      calls (second.run inputs).2 = calls (first.run inputs).2 ∧
      logged (second.run inputs).2 =
        (logged (first.run inputs).2).filter (fun line => !line.isComplaint) ∧
      (second.history inputs).map Moment.effects =
        (first.history inputs).map (fun moment => hushed moment.effects) ∧
      (second.run inputs).1.device.accepts = (first.run inputs).1.device.accepts ∧
      ∃ stage removed, (second.run inputs).1 =
        { (first.run inputs).1 with
          device := { (first.run inputs).1.device with stage := stage, removed := removed } } := by
  have started : first.device.stage ≠ .created := by
    rw [running]
    decide
  have found : second = first.foundRemoved := by
    rw [removal, foundRemoved, Device.noteRemoval, running]
  have answers := answers_foundRemoved started inputs
  rw [found, run_foundRemoved started inputs]
  refine ⟨?_, calls_hushed _, logged_hushed _, ?_, accepts_foundRemoved _, ?_⟩
  · simpa [Function.comp_def] using congrArg (List.map Prod.snd) answers
  · simpa [Function.comp_def] using congrArg (List.map Prod.fst) answers
  · obtain ⟨stage, removed, same⟩ := (first.run inputs).1.device.noteRemoval_eq_with
    exact ⟨stage, removed, congrArg (fun device => { (first.run inputs).1 with device }) same⟩

/-- Inputs at which a running device complains in every way there is, is found removed
and is torn down. -/
def removalInputs : List Input :=
  let all : Memory := fun _ => true
  let frame : Outgoing := ⟨[], 1, 0, false⟩
  [.completeReceive ⟨384, ⟨[]⟩, .io 5, 0⟩,
    .enqueue all (fun _ => some ⟨.io 5, false⟩) frame 0xff 0,
    .completeTransmit 8 ⟨0, frame, .io 5, 0⟩,
    .startPass, .proceedPass all, .proceedPass all, .answerRepost (some ⟨.noDevice, true⟩),
    .completeReceive ⟨385, ⟨[]⟩, .io 5, 0⟩,
    .beginTeardown, .proceedPass all, .proceedPass all, .proceedPass all, .finishTeardown]

/-- A device that is up and one that was found removed take those inputs alike.  The
first one complains four times, once in each way, and the other one never does. -/
theorem removal_only_silences_teardown :
    let first := ((fresh .small).run bringUpInputs).1
    let second := { first with device := { first.device with stage := .removed, removed := true } }
    first.device.stage = .running ∧ first.device.removed = false ∧
      (first.run removalInputs).1.device.removed = true ∧
      (logged (first.run removalInputs).2).filter LogLine.isComplaint =
        [.receiveFailed 384 (.io 5), .submitFailed (.io 5), .transmitFailed 0 (.io 5),
          .repostFailed 384 .noDevice] ∧
      (logged (second.run removalInputs).2).filter LogLine.isComplaint = [] ∧
      calls (second.run removalInputs).2 = calls (first.run removalInputs).2 ∧
      (calls (first.run removalInputs).2).length = 804 := by
  intro first second
  have facts : first.device.stage = .running ∧ first.device.removed = false ∧
      (first.run removalInputs).1.device.removed = true ∧
      (logged (first.run removalInputs).2).filter LogLine.isComplaint =
        [.receiveFailed 384 (.io 5), .submitFailed (.io 5), .transmitFailed 0 (.io 5),
          .repostFailed 384 .noDevice] ∧
      (calls (first.run removalInputs).2).length = 804 := by
    decide +kernel
  obtain ⟨running, unlatched, latched, complaints, number⟩ := facts
  obtain ⟨-, same, silent, -⟩ := removal_only_silences first second running rfl removalInputs
  refine ⟨running, unlatched, latched, complaints, ?_, same, number⟩
  rw [silent]
  simp

end Engine

end WlanDatapath
