import WlanDatapath.Engine.Transmission

/-!
# Statistics flags shared by several callers

The note that frames were completed and the claim to read statistics are two flags
that are not changed together.  A completion sets the first and then claims the
second; the end of a reading takes the first, looks at the stage of the device, and
then schedules another reading or gives up the claim.  An access to one flag is the
only thing that happens at once, and between two accesses of a call any other call may
go on.

A `Call` says where a call stands, `Call.access` what its next access does to the
device.  A `Shared` device holds any number of calls, and a list of turns says who goes
on when.  Readings are over one by one, and only those that were scheduled.

A call that nobody interrupts does what `Engine.requestStatistics` and
`Engine.finishStatistics` say.
-/

namespace WlanDatapath.Statistics

/-! ## Calls -/

/-- Where a call stands. -/
inductive Call where
  /-- A frame was completed, which is not noted yet. -/
  | noting
  /-- It was noted, and the reading is about to be claimed. -/
  | claiming
  /-- The completion is through: a reading was scheduled, or not. -/
  | completed (asked : Bool)
  /-- A reading is over, and the note is about to be taken. -/
  | taking
  /-- There was a note, and the stage of the device is about to be looked at. -/
  | looking
  /-- The device accepts, and another reading is about to be scheduled. -/
  | asking
  /-- There was no note, or nobody to read for, and the claim is about to be given up. -/
  | releasing
  /-- The end of the reading is through: another one was scheduled, or not. -/
  | finished (again : Bool)
deriving DecidableEq, Repr

namespace Call

/-- The call has returned. -/
def isOver : Call → Bool
  | .completed _ | .finished _ => true
  | _ => false

/-- The call is about a reading that is over, for which the claim still stands. -/
def holds : Call → Bool
  | .taking | .looking | .asking | .releasing => true
  | _ => false

/-- What an access leads to: the call, the device, and the delay of a reading that is
scheduled. -/
abbrev Access := Call × Device × Option Nat

/-- The next access of a call. -/
def access (config : Config) (device : Device) : Call → Access
  | .noting => (.claiming, device.noteCompletion, none)
  | .claiming =>
      let claim := device.claimReading
      (.completed (!claim.1), claim.2, if claim.1 then none else some config.statisticsDelay)
  | .taking =>
      let more := device.takeCompletions
      (if more.1 then .looking else .releasing, more.2, none)
  | .looking => (if device.accepts then .asking else .releasing, device, none)
  | .asking => (.finished true, device, some config.statisticsRequeueDelay)
  | .releasing => (.finished false, device.releaseReading, none)
  | .completed asked => (.completed asked, device, none)
  | .finished again => (.finished again, device, none)

/-! ## Calls that nobody interrupts -/

/-- Several accesses of one call and of no other, with the delays of the readings that
they schedule. -/
def alone (config : Config) : Nat → Call → Device → Call × Device × List Nat
  | 0, call, device => (call, device, [])
  | accesses + 1, call, device =>
      let accessed := call.access config device
      let rest := accessed.1.alone config accesses accessed.2.1
      (rest.1, rest.2.1, accessed.2.2.toList ++ rest.2.2)

/-- A completion. -/
theorem alone_noting (engine : Engine) :
    let call := Call.noting.alone engine.config 2 engine.device
    call.1.isOver = true ∧ call.2.1 = engine.requestStatistics.1.device ∧
      call.2.2.map Effect.scheduleStatistics = engine.requestStatistics.2 := by
  obtain ⟨config, ⟨stage, removed, more, reading⟩⟩ := engine
  cases reading <;> exact ⟨rfl, rfl, rfl⟩

/-- The end of a reading. -/
theorem alone_taking (engine : Engine) :
    let call := Call.taking.alone engine.config 3 engine.device
    call.1.isOver = true ∧ call.2.1 = engine.finishStatistics.1.device ∧
      call.2.2.map Effect.scheduleStatistics = engine.finishStatistics.2 := by
  obtain ⟨config, ⟨stage, removed, more, reading⟩⟩ := engine
  cases more <;> cases stage <;> exact ⟨rfl, rfl, rfl⟩

end Call

/-! ## The device and its callers -/

/-- A device, the readings of statistics that are outstanding, and all calls that were
made, in the order in which they began. -/
structure Shared where
  config : Config
  device : Device
  /-- Readings that were scheduled and are not over. -/
  outstanding : Nat := 0
  /-- Where each call stands. -/
  calls : List Call := []
deriving DecidableEq, Repr

/-- What happens next. -/
inductive Turn where
  /-- A frame is completed. -/
  | complete
  /-- A reading is over. -/
  | finish
  /-- A call accesses the device. -/
  | access (index : Nat)
  /-- The life of the device ends. -/
  | kill
deriving DecidableEq, Repr

namespace Shared

/-- A running device for which no statistics were asked. -/
def fresh (config : Config) : Shared where
  config := config
  device := { stage := .running }

/-- One more call, a turn of one, or the end of the device.  No reading is over that
was not scheduled. -/
def step (shared : Shared) : Turn → Shared
  | .complete => { shared with calls := shared.calls ++ [.noting] }
  | .finish =>
      if shared.outstanding = 0 then shared
      else
        { shared with
          outstanding := shared.outstanding - 1
          calls := shared.calls ++ [.taking] }
  | .access index =>
      match shared.calls[index]? with
      | none => shared
      | some call =>
          let accessed := call.access shared.config shared.device
          { shared with
            device := accessed.2.1
            outstanding := shared.outstanding + accessed.2.2.toList.length
            calls := shared.calls.set index accessed.1 }
  | .kill => { shared with device := shared.device.kill }

/-- Take turns in order. -/
def run (shared : Shared) (turns : List Turn) : Shared :=
  turns.foldl step shared

/-- Every call has returned. -/
def isQuiet (shared : Shared) : Bool :=
  shared.calls.all Call.isOver

end Shared

/-! ## What happened -/

/-- A device with its callers and the turn that is taken. -/
structure Tick where
  /-- The device before the turn. -/
  before : Shared
  /-- The turn. -/
  turn : Turn

namespace Tick

/-- The device after the turn. -/
def after (tick : Tick) : Shared :=
  tick.before.step tick.turn

/-- The call that accesses the device. -/
def caller? (tick : Tick) : Option Call :=
  match tick.turn with
  | .access index => tick.before.calls[index]?
  | .complete | .finish | .kill => none

/-- A completed frame is noted. -/
def notes (tick : Tick) : Bool :=
  tick.caller? == some .noting

/-- A reading is scheduled. -/
def asks (tick : Tick) : Bool :=
  tick.caller?.any fun call =>
    (call.access tick.before.config tick.before.device).2.2.isSome

/-- A reading is over. -/
def ends (tick : Tick) : Bool :=
  tick.turn == .finish && tick.before.outstanding != 0

/-- The claim is given up although a frame was noted. -/
def overlooks (tick : Tick) : Bool :=
  tick.caller? == some .releasing && tick.before.device.moreStatistics

end Tick

namespace Shared

/-- The turns that are taken, each with the device before it. -/
def trace (shared : Shared) : List Turn → List Tick
  | [] => []
  | turn :: later => ⟨shared, turn⟩ :: (shared.step turn).trace later

end Shared

end WlanDatapath.Statistics
