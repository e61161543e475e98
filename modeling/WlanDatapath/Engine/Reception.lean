import WlanDatapath.Engine.Basic
import WlanDatapath.Receive.Padding

/-!
# Reception

A finished receive transfer is filed into the ring if it is the one whose turn it
is, and a pass over the ring is requested.  The pass takes the buffers oldest
first, hands up the frames of each in memory order and gives the buffer back to
the transport.  It stops at two places to wait: for the verdict on a frame and
for the answer to a submission.

A transfer that ends out of turn is only recorded; its buffer goes back to the
slot that owns the handle, if that slot is empty.
-/

namespace WlanDatapath

/-- The kind of anomaly that a defect is. -/
def Defect.anomaly : Defect → Anomaly
  | .zeroLength => .zeroLength
  | .overrun _ _ => .overrun
  | .misaligned _ => .misaligned
  | .tooShort _ => .tooShort

/-- The kind of anomaly that a rejection is. -/
def Rejection.anomaly : Rejection → Anomaly
  | .reservedNotZero => .reservedNotZero
  | .notPacket _ => .notPacket

namespace Engine

/-! ## Completions -/

/-- Record a receive transfer that no slot expected. -/
def dismissReceive (engine : Engine) (transfer : Transfer Buffer) (anomaly : Anomaly)
    (line : LogLine) : Engine × List Effect :=
  let counters := engine.counters
  let counted := { engine with
    counters := { counters with rxMismatches := counters.rxMismatches + 1 } }
  let warned := counted.reportOnce anomaly line
  (warned.1.putBackByHandle transfer.handle transfer.content, warned.2)

/-- File a receive transfer into the slot whose turn it is, and request a pass. -/
def fileReceive (engine : Engine) (transfer : Transfer Buffer) : Engine × List Effect :=
  let filed := engine.receive.modify engine.receive.stop (ReceiveSlot.file transfer)
  let counters := engine.counters
  let request := engine.deferred.schedule
  ({ engine with
      receive := match filed.publish with
        | .ok published => published
        | .error _ => filed
      counters := { counters with
        rxCompletions := counters.rxCompletions + 1
        rxErrors := counters.rxErrors + if transfer.status.isOk then 0 else 1 }
      deferred := request.2 },
    if request.1 then [.raise] else [])

/-- A receive transfer has ended. -/
def completeReceive (engine : Engine) (transfer : Transfer Buffer) : Engine × List Effect :=
  let complaint :=
    engine.complaint transfer.status (.receiveFailed transfer.handle transfer.status)
  let expected := engine.receive.producer?.map (·.handle)
  let outcome :=
    if !engine.receive.isComplete then (engine, [])
    else if engine.receive.isFull then
      engine.dismissReceive transfer .receiveRingFull (.receiveRingFull transfer.handle)
    else if expected = some transfer.handle then engine.fileReceive transfer
    else
      engine.dismissReceive transfer .receiveMismatch
        (.receiveUnexpected transfer.handle expected)
  (outcome.1, complaint ++ outcome.2)

/-! ## The pass -/

/-- Start a pass.  The answer is whether it started. -/
def startPass (engine : Engine) : Bool × Engine :=
  match engine.deferred.enter? with
  | none => (false, engine)
  | some deferred => (true, { engine with deferred := deferred, pass := .popping })

/-- End a pass, or go on with another one that was requested meanwhile. -/
def endPass (engine : Engine) : Engine :=
  let leave := engine.deferred.leave
  { engine with
    deferred := leave.2
    pass := if leave.1 then .popping else .idle }

/-- Take the oldest buffer, or end the pass if there is none. -/
def popReceive (engine : Engine) : Engine :=
  match engine.receive.retire? with
  | none => engine.endPass
  | some (index, ring) =>
      match ring.slots[index]? with
      | none => { engine with receive := ring }.endPass
      | some slot =>
          match slot.buffer with
          | none => { engine with receive := ring }
          | some buffer =>
              let work : Work := ⟨index, slot.handle, buffer⟩
              { engine with
                receive := ring.modify index ReceiveSlot.vacate
                pass :=
                  if slot.status.isOk && engine.device.accepts then
                    .walking work (.start (buffer.filled slot.length))
                  else .returning work }

/-- Count the segments of a buffer once its walk is over. -/
def endWalk (engine : Engine) (work : Work) (walker : Walker) : Engine × List Effect :=
  let counters := engine.counters
  ({ engine with
      counters := { counters with
        rxSegments := counters.rxSegments + walker.walked
        rxAggregates := counters.rxAggregates + if 1 < walker.walked then 1 else 0 }
      pass := .returning work },
    if 1 < walker.walked then [.log (.aggregate walker.walked)] else [])

/-- Look at a segment: reject it, drop it for lack of memory, or hand up its
frame. -/
def takeSegment (engine : Engine) (memory : Memory) (segment : Segment) (work : Work)
    (walker : Walker) : Engine × List Effect :=
  let counters := engine.counters
  match segment.rejection? with
  | some rejection =>
      let counted := { engine with
        counters := { counters with rxBadSegments := counters.rxBadSegments + 1 }
        pass := .walking work walker }
      counted.reportOnce rejection.anomaly (.segmentRejected rejection)
  | none =>
      match segment.extract memory with
      | .error _ =>
          ({ engine with
              counters := { counters with rxOutOfMemory := counters.rxOutOfMemory + 1 }
              pass := .walking work walker }, [])
      | .ok frame =>
          ({ engine with pass := .delivering work walker },
            [.deliver frame segment.descriptor])

/-- Look at what the walk over a buffer finds next. -/
def walkReceive (engine : Engine) (memory : Memory) (work : Work) (walker : Walker) :
    Engine × List Effect :=
  match walker.next with
  | (none, walker) => engine.endWalk work walker
  | (some (.error defect), walker) =>
      let counters := engine.counters
      let counted := { engine with
        counters := { counters with rxBadLengths := counters.rxBadLengths + 1 } }
      let warned := counted.reportOnce defect.anomaly (.badLength defect)
      let ended := warned.1.endWalk work walker
      (ended.1, warned.2 ++ ended.2)
  | (some (.ok segment), walker) => engine.takeSegment memory segment work walker

/-- Give a buffer back to the transport, or put it back into its slot once the
device is dead. -/
def returnReceive (engine : Engine) (work : Work) : Engine × List Effect :=
  if engine.device.accepts then
    ({ engine with pass := .submitting work },
      [.submitReceive engine.config.inEndpoint (.bind work.handle work.buffer)])
  else ({ engine with pass := .popping }.putBackAt work.index work.buffer, [])

/-- Go on with the pass by one step.  There is nothing to do without a pass or
while an answer is awaited. -/
def proceedPass? (engine : Engine) (memory : Memory) : Option (Engine × List Effect) :=
  match engine.pass with
  | .idle | .delivering _ _ | .submitting _ => none
  | .popping => some (engine.popReceive, [])
  | .walking work walker => some (engine.walkReceive memory work walker)
  | .returning work => some (engine.returnReceive work)

/-! ## Answers -/

/-- Take the verdict on a frame that was handed up. -/
def answerDelivery (engine : Engine) (accepted : Bool) : Engine :=
  match engine.pass with
  | .delivering work walker =>
      let counters := engine.counters
      { engine with
        counters :=
          if accepted then { counters with rxFrames := counters.rxFrames + 1 }
          else { counters with rxRejected := counters.rxRejected + 1 }
        pass := .walking work walker }
  | _ => engine

/-- Take the transport's answer to a buffer that was given back.  A refused buffer
goes back to its slot.  The refusal is logged if it is worth a line, or if it is
the first news that the device is gone. -/
def answerRepost (engine : Engine) (refusal : Option Refusal) : Engine × List Effect :=
  match engine.pass with
  | .submitting work =>
      match refusal with
      | none => ({ engine with pass := .popping }, [])
      | some refusal =>
          let counters := engine.counters
          let marked := engine.device.noteRemoval
          let next := { engine with
            device := if refusal.fatal then marked.2 else engine.device
            counters := { counters with rxRepostsFailed := counters.rxRepostsFailed + 1 }
            pass := .popping }
          let line := LogLine.repostFailed work.handle refusal.status
          (next.putBackAt work.index work.buffer,
            if (refusal.fatal && marked.1) || next.isWorthLogging refusal.status then [.log line]
            else [])
  | _ => (engine, [])

end Engine

end WlanDatapath
