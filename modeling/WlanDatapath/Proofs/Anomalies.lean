import WlanDatapath.Proofs.Reception
import WlanDatapath.Proofs.Separation

/-!
# What is reported once

An input meets at most one anomaly (`Engine.anomaly?`).  The anomaly counts in the
counter of its family, and its kind is remembered; a line about it is written only
if its kind was not remembered before.  Nothing else ever touches the remembered
kinds or these counters, and no other line is about an anomaly.
-/

namespace WlanDatapath

/-! ## Anomalies as they are written and counted -/

/-- The anomaly that a line reports. -/
def LogLine.anomaly? : LogLine → Option Anomaly
  | .receiveRingFull _ => some .receiveRingFull
  | .receiveUnexpected _ _ => some .receiveMismatch
  | .unknownEndpoint _ | .transmitUnexpected _ _ _ => some .transmitMismatch
  | .badLength .zeroLength => some .zeroLength
  | .badLength (.misaligned _) => some .misaligned
  | .badLength (.overrun _ _) => some .overrun
  | .badLength (.tooShort _) => some .tooShort
  | .segmentRejected .reservedNotZero => some .reservedNotZero
  | .segmentRejected (.notPacket _) => some .notPacket
  | .bringUpFailed _ | .up _ _ | .receiveFailed _ _ | .aggregate _ | .repostFailed _ _
  | .transmitRingFull _ _ | .submitFailed _ | .transmitFailed _ _
  | .inFlightAtTeardown _ _ => none

theorem LogLine.anomaly?_badLength (defect : Defect) :
    (LogLine.badLength defect).anomaly? = some defect.anomaly := by
  cases defect <;> rfl

theorem LogLine.anomaly?_segmentRejected (rejection : Rejection) :
    (LogLine.segmentRejected rejection).anomaly? = some rejection.anomaly := by
  cases rejection <;> rfl

/-- The anomaly that an act reports. -/
def Effect.warned? : Effect → Option Anomaly
  | .log line => line.anomaly?
  | _ => none

/-- Anomalies that count in the same counter. -/
inductive Anomaly.Family where
  | receive
  | transmit
  | segment
  | length
deriving DecidableEq, Repr

/-- The family of an anomaly. -/
def Anomaly.family : Anomaly → Anomaly.Family
  | .receiveMismatch | .receiveRingFull => .receive
  | .transmitMismatch => .transmit
  | .reservedNotZero | .notPacket => .segment
  | .zeroLength | .misaligned | .overrun | .tooShort => .length

/-- How many anomalies of a family were met. -/
def Counters.met (counters : Counters) : Anomaly.Family → Nat
  | .receive => counters.rxMismatches
  | .transmit => counters.txMismatches
  | .segment => counters.rxBadSegments
  | .length => counters.rxBadLengths

/-- The anomaly that a walker finds next. -/
def Walker.anomaly? (walker : Walker) : Option Anomaly :=
  match walker.next.1 with
  | some (.ok segment) => segment.rejection?.map Rejection.anomaly
  | some (.error defect) => some defect.anomaly
  | none => none

namespace Engine

/-- The anomaly that an engine meets at an input. -/
def anomaly? (engine : Engine) : Input → Option Anomaly
  | .completeReceive transfer =>
      if !engine.receive.isComplete then none
      else if engine.receive.isFull then some .receiveRingFull
      else if engine.receive.producer?.map (·.handle) = some transfer.handle then none
      else some .receiveMismatch
  | .proceedPass _ =>
      match engine.pass with
      | .walking _ walker => walker.anomaly?
      | _ => none
  | .completeTransmit address transfer =>
      match engine.config.lane? address with
      | none => some .transmitMismatch
      | some lane =>
          let ring := engine.transmit.get lane
          if !ring.isComplete then none
          else if !ring.isEmpty && ring.consumer? == some transfer.handle then none
          else some .transmitMismatch
  | _ => none

/-- A transfer whose turn it is, is no anomaly. -/
theorem anomaly?_of_expects {engine : Engine} {transfer : Transfer Buffer}
    (expected : engine.receive.Expects transfer.handle) :
    engine.anomaly? (.completeReceive transfer) = none := by
  obtain ⟨complete, room, turn⟩ := expected
  simp [anomaly?, complete, room, turn]

/-- How an engine and its acts account for an anomaly. -/
structure Records (engine : Engine) (anomaly? : Option Anomaly)
    (step : Engine × List Effect) : Prop where
  reported : step.1.reported =
    anomaly?.elim engine.reported fun anomaly => (engine.reported.report anomaly.word).2
  warned : step.2.filterMap Effect.warned? =
    (anomaly?.filter fun anomaly => (engine.reported.report anomaly.word).1).toList
  met : ∀ family, step.1.counters.met family =
    engine.counters.met family + if anomaly?.map Anomaly.family = some family then 1 else 0

variable {engine : Engine}

/-- A step that leaves the remembered kinds and the counters alone. -/
theorem Records.of_silent {step : Engine × List Effect}
    (reported : step.1.reported = engine.reported)
    (met : step.1.counters.met = engine.counters.met)
    (silent : ∀ effect ∈ step.2, effect.warned? = none) : engine.Records none step where
  reported := reported
  warned := List.filterMap_eq_nil_iff.mpr silent
  met family := by
    rw [met]
    rfl

/-- A step that reports an anomaly once, after acts that report none and before
others that report none. -/
theorem Records.of_reportOnce {counted after : Engine} {anomaly : Anomaly} {line : LogLine}
    {early late : List Effect} (same : counted.reported = engine.reported)
    (about : line.anomaly? = some anomaly)
    (reported : after.reported = (counted.reportOnce anomaly line).1.reported)
    (met : ∀ family, after.counters.met family =
      engine.counters.met family + if anomaly.family = family then 1 else 0)
    (before : ∀ effect ∈ early, effect.warned? = none)
    (behind : ∀ effect ∈ late, effect.warned? = none) :
    engine.Records (some anomaly)
      (after, early ++ (counted.reportOnce anomaly line).2 ++ late) where
  reported := by
    rw [reported, reportOnce, same]
    rfl
  warned := by
    rw [List.filterMap_append, List.filterMap_append, List.filterMap_eq_nil_iff.mpr before,
      List.filterMap_eq_nil_iff.mpr behind, List.nil_append, List.append_nil, reportOnce, same]
    cases news : (engine.reported.report anomaly.word).1 <;>
      simp [Option.filter, news, Effect.warned?, about]
  met family := by
    rw [met]
    simp

end Engine

/-! ## Acts that report no anomaly -/

/-- Only lines report anomalies. -/
theorem Effect.watches_warned? : Watches warned? .log := by
  intro effect other
  cases effect <;> simp_all [kind, warned?]

namespace Engine

variable (engine : Engine)

theorem warned?_complaint (status : Status) {line : LogLine} (plain : line.anomaly? = none) :
    ∀ effect ∈ engine.complaint status line, effect.warned? = none := by
  unfold complaint
  split <;> simp [Effect.warned?, plain]

theorem warned?_abandon (failure : Failure) :
    ∀ effect ∈ (engine.abandon failure).2, effect.warned? = none := by
  intro effect member
  rcases List.mem_cons.mp member with rfl | inTeardown
  · rfl
  · exact Effect.watches_warned? _ (by simp [engine.kind_beginTeardown effect inTeardown])

theorem warned?_endWalk (work : Work) (walker : Walker) :
    ∀ effect ∈ (engine.endWalk work walker).2, effect.warned? = none := by
  unfold endWalk
  simp only
  split <;> simp [Effect.warned?, LogLine.anomaly?]

/-- Releasing the rings reports no anomaly and counts none. -/
theorem records_finishTeardown? {finished : Engine × List Effect}
    (finish : engine.finishTeardown? = some finished) : engine.Records none finished := by
  have keeps := keepsRecords_finishTeardown? finish
  refine .of_silent keeps.reported (congrArg Counters.met keeps.counters) ?_
  intro effect member
  rcases of_mem_finishTeardown? finish member with
    ⟨lane, count, rfl⟩ | ⟨handle, rfl⟩ | ⟨handle, rfl⟩ <;> rfl

/-! ## Bringing up -/

theorem records_startBringUp (supply : Supply) :
    engine.Records none
      ((engine.startBringUp supply).1, (engine.startBringUp supply).2.1) := by
  have keeps := engine.keepsRecords_startBringUp supply
  refine .of_silent keeps.reported (congrArg Counters.met keeps.counters) ?_
  by_cases created : engine.device.stage = .created
  · rw [startBringUp, if_neg (by simp [created])]
    have calm : ∀ effect ∈ (engine.acquire supply acquisitions).2.1,
        effect.warned? = none := by
      intro effect member
      apply Effect.watches_warned? _
      rcases engine.kind_acquire supply acquisitions effect member with kind | kind <;> simp [kind]
    cases result : engine.acquire supply acquisitions with
    | mk acquired rest =>
        obtain ⟨effects, failure⟩ := rest
        rw [result] at calm
        cases failure with
        | none => exact calm
        | some failure =>
            exact List.forall_mem_append.mpr ⟨calm, acquired.warned?_abandon failure⟩
  · rw [startBringUp, if_pos created]
    simp

theorem records_proceedBringUp? {step : BringUpStep}
    (proceeds : engine.proceedBringUp? = some step) : engine.Records none (step.1, step.2.1) := by
  cases bringUpMove_of_proceeds proceeds with
  | posts => exact .of_silent rfl rfl (by simp [Effect.warned?])
  | passes => exact .of_silent rfl rfl (by simp)
  | abandons => exact .of_silent rfl rfl (engine.warned?_abandon _)
  | comesUp => exact .of_silent rfl rfl (by simp [Effect.warned?, LogLine.anomaly?])
  | fails _ finish =>
      obtain ⟨reported, warned, met⟩ := engine.records_finishTeardown? finish
      exact ⟨reported, warned, met⟩

theorem records_answerPost (refusal : Option Refusal) :
    engine.Records none (engine.answerPost refusal) := by
  unfold answerPost
  split
  · split
    · exact .of_silent rfl rfl (by simp)
    · exact .of_silent rfl rfl (warned?_abandon _ _)
  · exact .of_silent rfl rfl (by simp)
  · exact .of_silent rfl rfl (by simp)
  · exact .of_silent rfl rfl (by simp)

/-! ## Reception -/

/-- Putting a buffer back reports no anomaly and counts none. -/
theorem reported_putBackByHandle (handle : Handle) (buffer : Buffer) :
    (engine.putBackByHandle handle buffer).reported = engine.reported ∧
      (engine.putBackByHandle handle buffer).counters = engine.counters := by
  unfold putBackByHandle
  split <;> exact ⟨rfl, rfl⟩

theorem records_dismissReceive (transfer : Transfer Buffer) {anomaly : Anomaly} {line : LogLine}
    {early : List Effect} (family : anomaly.family = .receive)
    (about : line.anomaly? = some anomaly) (before : ∀ effect ∈ early, effect.warned? = none) :
    engine.Records (some anomaly)
      ((engine.dismissReceive transfer anomaly line).1,
        early ++ (engine.dismissReceive transfer anomaly line).2) := by
  let counted : Engine := { engine with
    counters := { engine.counters with rxMismatches := engine.counters.rxMismatches + 1 } }
  obtain ⟨reported, counters⟩ := reported_putBackByHandle (counted.reportOnce anomaly line).1
    transfer.handle transfer.content
  have whole : engine.Records (some anomaly)
      ((engine.dismissReceive transfer anomaly line).1,
        early ++ (counted.reportOnce anomaly line).2 ++ []) := by
    refine .of_reportOnce rfl about reported ?_ before (by simp)
    intro other
    show ((counted.reportOnce anomaly line).1.putBackByHandle _ _).counters.met other = _
    rw [counters, family]
    cases other <;> simp [Counters.met, reportOnce, counted]
  rwa [List.append_nil] at whole

theorem records_completeReceive (transfer : Transfer Buffer) :
    engine.Records (engine.anomaly? (.completeReceive transfer))
      (engine.completeReceive transfer) := by
  have calm : ∀ effect ∈ engine.complaint transfer.status
      (.receiveFailed transfer.handle transfer.status), effect.warned? = none :=
    engine.warned?_complaint _ rfl
  unfold completeReceive anomaly?
  simp only
  split
  · refine .of_silent rfl rfl ?_
    simpa using calm
  · split
    · exact engine.records_dismissReceive transfer rfl rfl calm
    · split
      · refine .of_silent rfl ?_ ?_
        · funext family
          cases family <;> rfl
        · intro effect member
          rcases List.mem_append.mp member with early | late
          · exact calm effect early
          · exact Effect.watches_warned? _ (by simp [engine.kind_fileReceive transfer effect late])
      · exact engine.records_dismissReceive transfer rfl rfl calm

theorem records_startPass : engine.Records none (engine.startPass.2, []) := by
  unfold startPass
  split <;> exact .of_silent rfl rfl (by simp)

theorem records_popReceive : engine.Records none (engine.popReceive, []) := by
  unfold popReceive
  split
  · exact .of_silent rfl rfl (by simp)
  · split
    · exact .of_silent rfl rfl (by simp)
    · split <;> exact .of_silent rfl rfl (by simp)

theorem anomaly_family_defect (defect : Defect) : defect.anomaly.family = .length := by
  cases defect <;> rfl

theorem anomaly_family_rejection (rejection : Rejection) :
    rejection.anomaly.family = .segment := by
  cases rejection <;> rfl

theorem records_takeSegment (memory : Memory) (segment : Segment) (work : Work)
    (walker : Walker) :
    engine.Records (segment.rejection?.map Rejection.anomaly)
      (engine.takeSegment memory segment work walker) := by
  unfold takeSegment
  split
  next rejection rejected =>
    rw [rejected, Option.map_some]
    let counted : Engine := { engine with
      counters := { engine.counters with rxBadSegments := engine.counters.rxBadSegments + 1 }
      pass := .walking work walker }
    have whole : engine.Records (some rejection.anomaly)
        ((counted.reportOnce rejection.anomaly (.segmentRejected rejection)).1,
          [] ++ (counted.reportOnce rejection.anomaly (.segmentRejected rejection)).2 ++ []) := by
      refine .of_reportOnce rfl (LogLine.anomaly?_segmentRejected rejection) rfl ?_ (by simp)
        (by simp)
      intro other
      rw [anomaly_family_rejection]
      cases other <;> simp [Counters.met, reportOnce, counted]
    rwa [List.append_nil, List.nil_append] at whole
  next sound =>
    rw [sound, Option.map_none]
    split
    · refine .of_silent rfl ?_ (by simp)
      funext family
      cases family <;> rfl
    · exact .of_silent rfl rfl (by simp [Effect.warned?])

theorem records_walkReceive (memory : Memory) (work : Work) (walker : Walker) :
    engine.Records walker.anomaly? (engine.walkReceive memory work walker) := by
  unfold walkReceive
  split
  next next found =>
    have nothing : walker.anomaly? = none := by
      simp [Walker.anomaly?, found]
    rw [nothing]
    refine .of_silent rfl ?_ (engine.warned?_endWalk _ _)
    funext family
    cases family <;> rfl
  next defect next found =>
    have same : walker.anomaly? = some defect.anomaly := by
      simp [Walker.anomaly?, found]
    rw [same]
    let counted : Engine := { engine with
      counters := { engine.counters with rxBadLengths := engine.counters.rxBadLengths + 1 } }
    let warned := counted.reportOnce defect.anomaly (.badLength defect)
    have whole : engine.Records (some defect.anomaly)
        ((warned.1.endWalk work next).1, [] ++ warned.2 ++ (warned.1.endWalk work next).2) := by
      refine .of_reportOnce rfl (LogLine.anomaly?_badLength defect) rfl ?_ (by simp)
        (warned?_endWalk _ _ _)
      intro other
      rw [anomaly_family_defect]
      cases other <;> simp [Counters.met, endWalk, reportOnce, counted, warned]
    rwa [List.nil_append] at whole
  next segment next found =>
    have same : walker.anomaly? = segment.rejection?.map Rejection.anomaly := by
      simp [Walker.anomaly?, found]
    rw [same]
    exact engine.records_takeSegment memory segment work next

theorem records_proceedPass? {memory : Memory} {step : Engine × List Effect}
    (proceeds : engine.proceedPass? memory = some step) :
    engine.Records (engine.anomaly? (.proceedPass memory)) step := by
  unfold proceedPass? at proceeds
  split at proceeds
  · contradiction
  · contradiction
  · contradiction
  next popping =>
    cases proceeds
    simp only [anomaly?, popping]
    exact engine.records_popReceive
  next work walker walking =>
    cases proceeds
    simp only [anomaly?, walking]
    exact engine.records_walkReceive memory work walker
  next work returning =>
    cases proceeds
    simp only [anomaly?, returning]
    unfold returnReceive
    split
    · exact .of_silent rfl rfl (by simp [Effect.warned?])
    · exact .of_silent rfl rfl (by simp)

theorem records_answerDelivery (accepted : Bool) :
    engine.Records none (engine.answerDelivery accepted, []) := by
  unfold answerDelivery
  split
  · refine .of_silent rfl ?_ (by simp)
    funext family
    cases accepted <;> cases family <;> rfl
  · exact .of_silent rfl rfl (by simp)

theorem records_answerRepost (refusal : Option Refusal) :
    engine.Records none (engine.answerRepost refusal) := by
  unfold answerRepost
  split
  · split
    · exact .of_silent rfl rfl (by simp)
    · refine .of_silent rfl ?_ ?_
      · funext family
        cases family <;> rfl
      · simp only
        split <;> simp [Effect.warned?, LogLine.anomaly?]
  · exact .of_silent rfl rfl (by simp)

/-! ## Transmission -/

theorem records_enterTransmit (lane : Lane) (queue : UInt8) :
    engine.Records none ((engine.enterTransmit lane queue).1,
      (engine.enterTransmit lane queue).2.1) := by
  unfold enterTransmit
  split
  · exact .of_silent rfl rfl (by simp)
  · refine .of_silent rfl ?_ ?_
    · funext family
      cases family <;> rfl
    · simp only
      split <;> simp [Effect.warned?]

theorem records_refuseTransmit (refusal : Refusal) :
    engine.Records none ((engine.refuseTransmit refusal).1,
      (engine.refuseTransmit refusal).2.1) := by
  unfold refuseTransmit
  simp only
  split
  · refine .of_silent rfl ?_ (by simp)
    funext family
    cases family <;> rfl
  · refine .of_silent rfl ?_ (warned?_complaint _ _ rfl)
    funext family
    cases family <;> rfl

/-- A further act that reports no anomaly. -/
theorem Records.cons {engine next : Engine} {effects : List Effect} {effect : Effect}
    (records : engine.Records none (next, effects)) (calm : effect.warned? = none) :
    engine.Records none (next, effect :: effects) where
  reported := records.reported
  warned := by
    rw [List.filterMap_cons, calm]
    exact records.warned
  met := records.met

theorem records_enqueue (memory : Memory) (answer : Transfer Outgoing → Option Refusal)
    (frame : Outgoing) (key queue : UInt8) :
    engine.Records none ((engine.enqueue memory answer frame key queue).1,
      (engine.enqueue memory answer frame key queue).2.1) := by
  have move := engine.sendMove_enqueue memory answer frame key queue
  generalize engine.enqueue memory answer frame key queue = step at move ⊢
  cases move with
  | turnedDown => exact .of_silent rfl rfl (by simp)
  | overflowed =>
      refine .of_silent rfl ?_ (by simp [Effect.warned?, LogLine.anomaly?])
      funext family
      cases family <;> rfl
  | refused => exact (engine.records_refuseTransmit _).cons rfl
  | taken => exact (engine.records_enterTransmit _ _).cons rfl

theorem records_dismissTransmit {line : LogLine} {early : List Effect}
    (about : line.anomaly? = some .transmitMismatch)
    (before : ∀ effect ∈ early, effect.warned? = none) :
    engine.Records (some .transmitMismatch)
      ((engine.dismissTransmit line).1, early ++ (engine.dismissTransmit line).2) := by
  let counted : Engine := { engine with
    counters := { engine.counters with txMismatches := engine.counters.txMismatches + 1 } }
  have whole : engine.Records (some .transmitMismatch)
      ((engine.dismissTransmit line).1,
        early ++ (counted.reportOnce .transmitMismatch line).2 ++ []) := by
    refine .of_reportOnce rfl about rfl ?_ before (by simp)
    intro other
    cases other <;> simp [Counters.met, dismissTransmit, reportOnce, Anomaly.family]
  rwa [List.append_nil] at whole

theorem records_acceptTransmit (lane : Lane) (transfer : Transfer Outgoing) {early : List Effect}
    (before : ∀ effect ∈ early, effect.warned? = none) :
    engine.Records none ((engine.acceptTransmit lane transfer).1,
      early ++ (engine.acceptTransmit lane transfer).2) := by
  refine .of_silent ?_ ?_ ?_
  · unfold acceptTransmit
    simp only
    split <;> rfl
  · funext family
    unfold acceptTransmit
    simp only
    split <;> cases family <;> rfl
  · intro effect member
    rcases List.mem_append.mp member with inEarly | late
    · exact before effect inEarly
    · have kind := engine.kind_acceptTransmit lane transfer effect late
      exact Effect.watches_warned? _ fun log => by simp [log] at kind

theorem records_completeTransmit (address : UInt8) (transfer : Transfer Outgoing) :
    engine.Records (engine.anomaly? (.completeTransmit address transfer))
      (engine.completeTransmit address transfer) := by
  have calm : ∀ effect ∈ engine.complaint transfer.status
      (.transmitFailed transfer.handle transfer.status), effect.warned? = none :=
    engine.warned?_complaint _ rfl
  simp only [completeTransmit, anomaly?]
  cases engine.config.lane? address with
  | none =>
      have about : (LogLine.unknownEndpoint address).anomaly? = some .transmitMismatch := rfl
      exact engine.records_dismissTransmit about calm
  | some lane =>
      have about : (LogLine.transmitUnexpected transfer.handle lane
          (engine.transmit.get lane).consumer?).anomaly? = some .transmitMismatch := rfl
      simp only
      by_cases empty : (!(engine.transmit.get lane).isComplete) = true
      · rw [if_pos empty, if_pos empty]
        refine .of_silent rfl rfl ?_
        simpa using calm
      · rw [if_neg empty, if_neg empty]
        split
        · exact engine.records_acceptTransmit lane transfer calm
        · exact engine.records_dismissTransmit about calm

theorem records_finishStatistics : engine.Records none engine.finishStatistics := by
  unfold finishStatistics
  simp only
  split <;> exact .of_silent rfl rfl (by simp [Effect.warned?])

end Engine

/-! ## Where anomalies of a family come from -/

/-- The families of anomalies that an input can meet. -/
def Input.families : Input → List Anomaly.Family
  | .completeReceive _ => [.receive]
  | .proceedPass _ => [.segment, .length]
  | .completeTransmit _ _ => [.transmit]
  | _ => []

namespace Engine

variable {engine : Engine} {input : Input} {anomaly : Anomaly}

theorem family_mem_families (met : engine.anomaly? input = some anomaly) :
    anomaly.family ∈ input.families := by
  cases input with
  | completeReceive transfer =>
      simp only [anomaly?] at met
      split at met
      · contradiction
      · split at met
        · cases met
          simp [Input.families, Anomaly.family]
        · split at met
          · contradiction
          · cases met
            simp [Input.families, Anomaly.family]
  | proceedPass memory =>
      cases place : engine.pass with
      | walking work walker =>
          simp only [anomaly?, place, Walker.anomaly?] at met
          split at met
          · obtain ⟨rejection, -, rfl⟩ := Option.map_eq_some_iff.mp met
            simp [Input.families, anomaly_family_rejection]
          · cases met
            simp [Input.families, anomaly_family_defect]
          · contradiction
      | idle | popping | delivering work walker | returning work | submitting work =>
          simp [anomaly?, place] at met
  | completeTransmit address transfer =>
      simp only [anomaly?] at met
      split at met
      · cases met
        simp [Input.families, Anomaly.family]
      · split at met
        · contradiction
        · split at met
          · contradiction
          · cases met
            simp [Input.families, Anomaly.family]
  | startBringUp | proceedBringUp | answerPost | startPass | answerDelivery | answerRepost
  | enqueue | finishStatistics | beginTeardown | finishTeardown => contradiction

/-- A receive anomaly is met only at a transfer whose turn it is not. -/
theorem not_expects_of_anomaly? (met : engine.anomaly? input = some anomaly)
    (family : anomaly.family = .receive) :
    ∃ transfer, input = .completeReceive transfer ∧
      ¬ engine.receive.Expects transfer.handle := by
  have possible := family_mem_families met
  rw [family] at possible
  cases input with
  | completeReceive transfer =>
      refine ⟨transfer, rfl, fun expected => ?_⟩
      rw [anomaly?_of_expects expected] at met
      contradiction
  | _ => simp [Input.families] at possible

end Engine

/-! ## Moments and runs -/

namespace Moment

/-- The anomaly that is met. -/
def anomaly? (moment : Moment) : Option Anomaly :=
  moment.before.anomaly? moment.input

/-- Every moment accounts for the anomaly that is met, and for no other. -/
theorem records (moment : Moment) :
    moment.before.Records moment.anomaly? (moment.after, moment.effects) := by
  obtain ⟨engine, input⟩ := moment
  have still : engine.Records none (engine, []) := .of_silent rfl rfl (by simp)
  cases input with
  | startBringUp supply => exact engine.records_startBringUp supply
  | proceedBringUp =>
      rw [after_proceedBringUp, effects_proceedBringUp]
      cases proceeds : engine.proceedBringUp? with
      | none => exact still
      | some step => exact engine.records_proceedBringUp? proceeds
  | answerPost refusal => exact engine.records_answerPost refusal
  | completeReceive transfer => exact engine.records_completeReceive transfer
  | startPass => exact engine.records_startPass
  | proceedPass memory =>
      rw [after_proceedPass, effects_proceedPass]
      cases proceeds : engine.proceedPass? memory with
      | some step => exact engine.records_proceedPass? proceeds
      | none =>
          have nothing : engine.anomaly? (.proceedPass memory) = none := by
            cases place : engine.pass <;> simp_all [Engine.proceedPass?, Engine.anomaly?]
          show engine.Records (engine.anomaly? (.proceedPass memory)) _
          rw [nothing]
          exact still
  | answerDelivery accepted => exact engine.records_answerDelivery accepted
  | answerRepost refusal => exact engine.records_answerRepost refusal
  | enqueue memory answer frame key queue =>
      exact engine.records_enqueue memory answer frame key queue
  | completeTransmit address transfer => exact engine.records_completeTransmit address transfer
  | finishStatistics => exact engine.records_finishStatistics
  | beginTeardown =>
      refine .of_silent rfl rfl ?_
      intro effect member
      exact Effect.watches_warned? _ (by simp [engine.kind_beginTeardown effect member])
  | finishTeardown =>
      rw [after_finishTeardown, effects_finishTeardown]
      cases finish : engine.finishTeardown? with
      | none => exact still
      | some finished => exact engine.records_finishTeardown? finish

end Moment

/-! ## What is remembered -/

namespace Reported

/-- The kind of an anomaly is remembered. -/
def has (reported : Reported) (anomaly : Anomaly) : Bool :=
  reported.word &&& anomaly.word != 0

/-- Reporting an anomaly makes its kind remembered, and no other one. -/
theorem has_report (reported : Reported) (anomaly other : Anomaly) :
    (reported.report anomaly.word).2.has other = (reported.has other || anomaly == other) := by
  have split : (reported.word ||| anomaly.word) &&& other.word =
      (reported.word &&& other.word) ||| (anomaly.word &&& other.word) := by
    apply UInt32.toBitVec_inj.mp
    apply BitVec.eq_of_getLsbD_eq
    intro place _
    simp [Bool.and_or_distrib_right]
  have own : (anomaly.word &&& other.word != 0) = (anomaly == other) := by
    cases anomaly <;> cases other <;> decide
  show ((reported.word ||| anomaly.word) &&& other.word != 0) = _
  rw [split, ← own]
  simp [has, bne, Bool.beq_eq_decide_eq]

end Reported

namespace Engine

variable (config : Config) (inputs : List Input)

/-- A run counts the anomalies that it meets, family by family. -/
theorem met_run (family : Anomaly.Family) :
    ((fresh config).run inputs).1.counters.met family =
      ((fresh config).history inputs).countP fun moment =>
        moment.anomaly?.map Anomaly.family = some family := by
  induction inputs using List.reverseRecOn with
  | nil => cases family <;> rfl
  | append_singleton inputs input hypothesis =>
      have records := (Moment.mk ((fresh config).run inputs).1 input).records.met family
      rw [run_concat, history_concat, List.countP_append, records, hypothesis]
      simp [List.countP_cons]

/-- A run remembers the kinds of the anomalies that it meets. -/
theorem has_run (anomaly : Anomaly) :
    ((fresh config).run inputs).1.reported.has anomaly = true ↔
      ∃ moment ∈ (fresh config).history inputs, moment.anomaly? = some anomaly := by
  induction inputs using List.reverseRecOn with
  | nil => simp [fresh, Reported.has]
  | append_singleton inputs input hypothesis =>
      have records := (Moment.mk ((fresh config).run inputs).1 input).records.reported
      rw [run_concat, history_concat, records]
      simp only [List.mem_append, List.mem_singleton, or_and_right, exists_or, exists_eq_left,
        ← hypothesis]
      cases (Moment.mk ((fresh config).run inputs).1 input).anomaly? with
      | none => simp
      | some met => simp [Reported.has_report]

/-- A run writes no line about an anomaly that it does not meet. -/
theorem exists_of_warned {anomaly : Anomaly} {effect : Effect}
    (member : effect ∈ ((fresh config).run inputs).2) (warned : effect.warned? = some anomaly) :
    ∃ moment ∈ (fresh config).history inputs, moment.anomaly? = some anomaly := by
  rw [run_effects] at member
  obtain ⟨moment, inHistory, inMoment⟩ := List.mem_flatMap.mp member
  refine ⟨moment, inHistory, ?_⟩
  have written : anomaly ∈ moment.effects.filterMap Effect.warned? :=
    List.mem_filterMap.mpr ⟨effect, inMoment, warned⟩
  rw [moment.records.warned, Option.mem_toList, Option.filter_eq_some_iff] at written
  exact written.1

/-- Nothing of a family that is never met is counted, remembered or written. -/
theorem unmet_run {family : Anomaly.Family}
    (unmet : ∀ moment ∈ (fresh config).history inputs, ∀ anomaly ∈ moment.anomaly?,
      anomaly.family ≠ family) :
    ((fresh config).run inputs).1.counters.met family = 0 ∧
      ∀ anomaly : Anomaly, anomaly.family = family →
        ((fresh config).run inputs).1.reported.has anomaly = false ∧
          ∀ effect ∈ ((fresh config).run inputs).2, effect.warned? ≠ some anomaly := by
  constructor
  · rw [met_run, List.countP_eq_zero]
    intro moment member
    rw [decide_eq_true_eq, Option.map_eq_some_iff]
    rintro ⟨anomaly, met, same⟩
    exact unmet moment member anomaly met same
  · intro anomaly same
    constructor
    · rw [← Bool.not_eq_true, has_run]
      rintro ⟨moment, member, met⟩
      exact unmet moment member anomaly met same
    · intro effect member warned
      obtain ⟨moment, inHistory, met⟩ := exists_of_warned config inputs member warned
      exact unmet moment inHistory anomaly met same

end Engine

end WlanDatapath
