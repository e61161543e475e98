import WlanDatapath.Engine.Basic

/-!
# Transmission

A frame is wrapped, submitted on the output endpoint of its hardware queue and
published in the ring of that endpoint once the transport has taken it.  The frame
that fills a ring stops its upper queue; the completion that brings the ring down
through the watermark wakes the upper queue of its own frame.

Completions are taken in the order of submission only.  Each one that ended well
asks for statistics, and at most one request for statistics is outstanding.
-/

namespace WlanDatapath

/-- The key index that stands for no hardware key. -/
def noHardwareKey : UInt8 := 0xff

/-- The flags of a frame sent with a hardware key, or without one. -/
def transmitFlags (key : UInt8) : UInt32 :=
  if key = noHardwareKey then HeaderWord.nativeFrame ||| HeaderWord.keyInFrame
  else HeaderWord.nativeFrame

namespace Engine

/-- Replace the ring of an output endpoint. -/
def setLane (engine : Engine) (lane : Lane) (ring : Ring Handle) : Engine :=
  { engine with transmit := engine.transmit.set lane ring lane.isLt }

/-! ## Submission -/

/-- What enqueueing a frame leads to. -/
abbrev EnqueueStep := Engine × List Effect × Except Fault Unit

/-- Enter a frame that the transport has taken into its ring. -/
def enterTransmit (engine : Engine) (lane : Lane) (queue : UInt8) : EnqueueStep :=
  match (engine.transmit.get lane).publish with
  | .error failure => (engine, [], .error (.failure failure))
  | .ok ring =>
      let counters := engine.counters
      ({ engine.setLane lane ring with
          counters := { counters with
            txSubmitted := counters.txSubmitted + 1
            txStops := counters.txStops + if ring.isFull then 1 else 0 } },
        if ring.isFull then [.stopQueue queue] else [], .ok ())

/-- Note that the transport refused a frame. -/
def refuseTransmit (engine : Engine) (refusal : Refusal) : EnqueueStep :=
  let counters := engine.counters
  let counted := { engine with
    counters := { counters with txSubmitsFailed := counters.txSubmitsFailed + 1 } }
  let failure := Fault.failure (.ofStatus refusal.status)
  if refusal.fatal then
    ({ counted with device := engine.device.noteRemoval.2 }, [], .error failure)
  else
    (counted, counted.complaint refusal.status (.submitFailed refusal.status), .error failure)

/-- Submit a wrapped frame on an output endpoint.  The transport's answer to the
transfer is given. -/
def submitTransmit (engine : Engine) (answer : Transfer Outgoing → Option Refusal)
    (lane : Lane) (outgoing : Outgoing) : EnqueueStep :=
  let ring := engine.transmit.get lane
  if !ring.isComplete || !engine.device.accepts then
    (engine, [], .error (.failure .notReady))
  else
    match ring.reserve? with
    | .error failure =>
        let counters := engine.counters
        ({ engine with counters := { counters with txQueueFull := counters.txQueueFull + 1 } },
          [.log (.transmitRingFull lane outgoing.queue)], .error (.failure failure))
    | .ok handle =>
        let transfer := Transfer.bind handle outgoing
        let refusal := answer transfer
        let step := match refusal with
          | none => engine.enterTransmit lane outgoing.queue
          | some refusal => engine.refuseTransmit refusal
        (step.1,
          .submitTransmit (engine.config.outEndpoints.get lane) transfer refusal :: step.2.1,
          step.2.2)

/-- Send a frame from a hardware queue. -/
def enqueue (engine : Engine) (memory : Memory) (answer : Transfer Outgoing → Option Refusal)
    (frame : Outgoing) (key queue : UInt8) : EnqueueStep :=
  if engine.device.accepts then
    match laneOfQueue queue with
    | .error failure => (engine, [], .error (.failure failure))
    | .ok lane =>
        match frame.wrap memory (selectorOfLane lane) (transmitFlags key) with
        | .error fault => (engine, [], .error fault)
        | .ok wrapped => engine.submitTransmit answer lane wrapped
  else (engine, [], .error (.failure .notReady))

/-- A frame is ready to go out on an output endpoint once it is wrapped. -/
structure CanSend (engine : Engine) (memory : Memory) (frame : Outgoing) (key queue : UInt8)
    (lane : Lane) (wrapped : Outgoing) : Prop where
  accepts : engine.device.accepts = true
  mapped : laneOfQueue queue = .ok lane
  wrap : frame.wrap memory (selectorOfLane lane) (transmitFlags key) = .ok wrapped
  complete : (engine.transmit.get lane).isComplete = true

/-- What sending a frame from a hardware queue leads to. -/
inductive SendMove (engine : Engine) (memory : Memory)
    (answer : Transfer Outgoing → Option Refusal) (frame : Outgoing) (key queue : UInt8) :
    EnqueueStep → Prop where
  | turnedDown {fault : Fault}
      (unready : ∀ lane wrapped, ¬ engine.CanSend memory frame key queue lane wrapped) :
      SendMove engine memory answer frame key queue (engine, [], .error fault)
  | overflowed {lane : Lane} {wrapped : Outgoing} {failure : Failure}
      (ready : engine.CanSend memory frame key queue lane wrapped)
      (full : (engine.transmit.get lane).reserve? = .error failure) :
      SendMove engine memory answer frame key queue
        ({ engine with
            counters := { engine.counters with
              txQueueFull := engine.counters.txQueueFull + 1 } },
          [.log (.transmitRingFull lane wrapped.queue)], .error (.failure failure))
  | refused {lane : Lane} {wrapped : Outgoing} {handle : Handle} {refusal : Refusal}
      (ready : engine.CanSend memory frame key queue lane wrapped)
      (reserved : (engine.transmit.get lane).reserve? = .ok handle)
      (verdict : answer (.bind handle wrapped) = some refusal) :
      SendMove engine memory answer frame key queue
        ((engine.refuseTransmit refusal).1,
          .submitTransmit (engine.config.outEndpoints.get lane) (.bind handle wrapped)
            (some refusal) :: (engine.refuseTransmit refusal).2.1,
          (engine.refuseTransmit refusal).2.2)
  | taken {lane : Lane} {wrapped : Outgoing} {handle : Handle}
      (ready : engine.CanSend memory frame key queue lane wrapped)
      (reserved : (engine.transmit.get lane).reserve? = .ok handle)
      (verdict : answer (.bind handle wrapped) = none) :
      SendMove engine memory answer frame key queue
        ((engine.enterTransmit lane wrapped.queue).1,
          .submitTransmit (engine.config.outEndpoints.get lane) (.bind handle wrapped) none ::
            (engine.enterTransmit lane wrapped.queue).2.1,
          (engine.enterTransmit lane wrapped.queue).2.2)

theorem sendMove_enqueue (engine : Engine) (memory : Memory)
    (answer : Transfer Outgoing → Option Refusal) (frame : Outgoing) (key queue : UInt8) :
    engine.SendMove memory answer frame key queue
      (engine.enqueue memory answer frame key queue) := by
  unfold enqueue
  split
  next accepts =>
    split
    next failure unmapped =>
      refine .turnedDown fun lane wrapped ready => ?_
      rw [ready.mapped] at unmapped
      contradiction
    next lane mapped =>
      split
      next fault unwrapped =>
        refine .turnedDown fun other wrapped ready => ?_
        obtain rfl : lane = other := Except.ok.inj (mapped.symm.trans ready.mapped)
        rw [ready.wrap] at unwrapped
        contradiction
      next wrapped wrap =>
        unfold submitTransmit
        simp only
        split
        next unready =>
          refine .turnedDown fun other another ready => ?_
          obtain rfl : lane = other := Except.ok.inj (mapped.symm.trans ready.mapped)
          simp [ready.complete, ready.accepts] at unready
        next unblocked =>
          have ready : engine.CanSend memory frame key queue lane wrapped :=
            ⟨accepts, mapped, wrap, by simpa [accepts] using unblocked⟩
          split
          next failure full => exact .overflowed ready full
          next handle reserved =>
            cases verdict : answer (.bind handle wrapped) with
            | none => exact .taken ready reserved verdict
            | some refusal => exact .refused ready reserved verdict
  next shut => exact .turnedDown fun lane wrapped ready => shut ready.accepts

/-! ## Completion -/

/-- Record a transmit transfer that no slot expected. -/
def dismissTransmit (engine : Engine) (line : LogLine) : Engine × List Effect :=
  let counters := engine.counters
  let counted := { engine with
    counters := { counters with txMismatches := counters.txMismatches + 1 } }
  counted.reportOnce .transmitMismatch line

/-- Ask for statistics after a frame that was sent well, unless they are being
read already. -/
def requestStatistics (engine : Engine) : Engine × List Effect :=
  let claim := engine.device.noteCompletion.claimReading
  ({ engine with device := claim.2 },
    if claim.1 then [] else [.scheduleStatistics engine.config.statisticsDelay])

/-- Take the completion of the oldest transfer of an output endpoint. -/
def acceptTransmit (engine : Engine) (lane : Lane) (transfer : Transfer Outgoing) :
    Engine × List Effect :=
  let ring := engine.transmit.get lane
  let wakes := ring.used = wakeLevel ring.capacity
  let counters := engine.counters
  let retired := match ring.retire? with
    | some (_, next) => next
    | none => ring
  let taken := { engine.setLane lane retired with
    counters := { counters with
      txWakes := counters.txWakes + if wakes then 1 else 0
      txCompleted := counters.txCompleted + 1
      txErrors := counters.txErrors + if transfer.status.isOk then 0 else 1 } }
  let statistics := if transfer.status.isOk then taken.requestStatistics else (taken, [])
  (statistics.1,
    (if wakes then [.wakeQueue transfer.content.queue] else []) ++ statistics.2 ++
      [.reportSent transfer.content transfer.status])

/-- A completion that is taken wakes the queue if it is time, asks for statistics if it is
to, and hands the frame back. -/
theorem snd_acceptTransmit (engine : Engine) (lane : Lane) (transfer : Transfer Outgoing) :
    (engine.acceptTransmit lane transfer).2 =
      (if (engine.transmit.get lane).used = wakeLevel (engine.transmit.get lane).capacity then
          [.wakeQueue transfer.content.queue]
        else []) ++
        (if transfer.status.isOk && !engine.device.readingStatistics then
          [.scheduleStatistics engine.config.statisticsDelay]
        else []) ++ [.reportSent transfer.content transfer.status] := by
  unfold acceptTransmit
  cases transfer.status.isOk with
  | false => rfl
  | true =>
      cases reading : engine.device.readingStatistics <;>
        simp [requestStatistics, setLane, Device.noteCompletion, Device.claimReading, reading]

/-- A transmit transfer has ended on the endpoint with an address. -/
def completeTransmit (engine : Engine) (address : UInt8) (transfer : Transfer Outgoing) :
    Engine × List Effect :=
  let complaint :=
    engine.complaint transfer.status (.transmitFailed transfer.handle transfer.status)
  let outcome :=
    match engine.config.lane? address with
    | none => engine.dismissTransmit (.unknownEndpoint address)
    | some lane =>
        let ring := engine.transmit.get lane
        let expected := ring.consumer?
        if !ring.isComplete then (engine, [])
        else if !ring.isEmpty && expected == some transfer.handle then
          engine.acceptTransmit lane transfer
        else engine.dismissTransmit (.transmitUnexpected transfer.handle lane expected)
  (outcome.1, complaint ++ outcome.2)

/-! ## Statistics -/

/-- A reading of statistics is over.  It is repeated if frames were completed in
the meantime. -/
def finishStatistics (engine : Engine) : Engine × List Effect :=
  let more := engine.device.takeCompletions
  if more.1 && engine.device.accepts then
    ({ engine with device := more.2 },
      [.scheduleStatistics engine.config.statisticsRequeueDelay])
  else ({ engine with device := more.2.releaseReading }, [])

end Engine

end WlanDatapath
