import WlanDatapath.DeferredWork.Basic

/-!
# Deferred work shared by several callers

The three flags live in one word, and everybody may make a request, run the work or
disable it at any time.  Each of these calls is a sequence of accesses to the word,
and an access is the only thing that happens at once: a plain load, an exchange that
succeeds only if the word is still the one seen before, or the setting or clearing
of one flag.  Between two accesses of a call any other call may go on.

A `Call` says where a call stands, `Call.access` what its next access does.  A
`Shared` word holds any number of calls, and a list of turns says who goes on when.
The work itself, done while a call stands at `passing`, takes no turn of its own;
calls that are made by it are calls like all others.

A call that nobody interrupts does what `schedule`, `enter?`, `leave` and `kill` say.
-/

namespace WlanDatapath.DeferredWork

/-! ## Flags that are looked at before an exchange -/

/-- A request is taken. -/
def admitsRequest (work : DeferredWork) : Bool :=
  !work.scheduled && !work.disabled

/-- A runner is let in. -/
def admitsRunner (work : DeferredWork) : Bool :=
  !work.running && !work.disabled

/-- Flags under which a request is taken. -/
abbrev Requestable := { work : DeferredWork // work.admitsRequest = true }

/-- Flags under which a runner is let in. -/
abbrev Enterable := { work : DeferredWork // work.admitsRunner = true }

/-! ## Calls -/

/-- What somebody may want of the work. -/
inductive Operation where
  /-- Make a request. -/
  | schedule
  /-- Do the work as long as it is requested. -/
  | run
  /-- Disable the work and wait until it is no longer done. -/
  | kill
deriving DecidableEq, Repr

/-- Where a call stands.  Whoever runs the work remembers whether it was done at
least once. -/
inductive Call where
  /-- The word was not looked at yet. -/
  | requesting
  /-- The word was seen to take a request. -/
  | committing (seen : Requestable)
  /-- The request is answered: it is new, or not. -/
  | requested (fresh : Bool)
  /-- The word was not looked at yet for the coming pass. -/
  | entering (ran : Bool)
  /-- The word was seen to let a runner in. -/
  | claiming (ran : Bool) (seen : Enterable)
  /-- The runner was let in and is about to take the request. -/
  | taking (ran : Bool)
  /-- The runner was let in and found no request. -/
  | retreating (ran : Bool)
  /-- The work is being done. -/
  | passing
  /-- The runner is through: the work was done, or not. -/
  | finished (ran : Bool)
  /-- The work is not disabled yet. -/
  | disabling
  /-- The work is disabled and may still be done by a runner. -/
  | waiting
  /-- No runner was there; an open request is about to be dropped. -/
  | dropping
  /-- The work is disabled for good. -/
  | killed
deriving DecidableEq, Repr

/-- Where a call begins. -/
def Operation.start : Operation → Call
  | .schedule => .requesting
  | .run => .entering false
  | .kill => .disabling

namespace Call

/-- What the caller wants. -/
def operation : Call → Operation
  | .requesting | .committing _ | .requested _ => .schedule
  | .entering _ | .claiming _ _ | .taking _ | .retreating _ | .passing | .finished _ => .run
  | .disabling | .waiting | .dropping | .killed => .kill

/-- The call has returned. -/
def isOver : Call → Bool
  | .requested _ | .finished _ | .killed => true
  | _ => false

/-- The answer of a call that has returned one. -/
def answer? : Call → Option Bool
  | .requested fresh => some fresh
  | .finished ran => some ran
  | _ => none

/-- The runner was let in and has not left. -/
def holds : Call → Bool
  | .taking _ | .retreating _ | .passing => true
  | _ => false

/-- The runner has not returned. -/
def isRunner : Call → Bool
  | .entering _ | .claiming _ _ | .taking _ | .retreating _ | .passing => true
  | _ => false

/-- The flags were seen by a call that makes a request. -/
def request (work : DeferredWork) : Call :=
  if admits : work.admitsRequest then .committing ⟨work, admits⟩ else .requested false

/-- The flags were seen by a runner. -/
def enter (ran : Bool) (work : DeferredWork) : Call :=
  if admits : work.admitsRunner then .claiming ran ⟨work, admits⟩ else .finished ran

/-- The next access of a call.  An exchange may fail for no reason. -/
def access (spurious : Bool) (work : DeferredWork) : Call → Call × DeferredWork
  | .requesting => (request work, work)
  | .committing seen =>
      if work = seen ∧ spurious = false then (.requested true, { work with scheduled := true })
      else (request work, work)
  | .entering ran => (enter ran work, work)
  | .claiming ran seen =>
      if work = seen ∧ spurious = false then (.taking ran, { work with running := true })
      else (enter ran work, work)
  | .taking ran => (if work.scheduled then .passing else .retreating ran, work.dropRequest)
  | .retreating ran => (.finished ran, { work with running := false })
  | .passing =>
      (if work.scheduled && !work.disabled then .entering true else .finished true,
        { work with running := false })
  | .disabling => (.waiting, work.disable)
  | .waiting => (if work.running then .waiting else .dropping, work)
  | .dropping => (.killed, work.dropRequest)
  | .requested fresh => (.requested fresh, work)
  | .finished ran => (.finished ran, work)
  | .killed => (.killed, work)

/-! ## Calls that nobody interrupts -/

/-- Several accesses of one call and of no other. -/
def alone : Nat → Call → DeferredWork → Call × DeferredWork
  | 0, call, work => (call, work)
  | accesses + 1, call, work =>
      let accessed := call.access false work
      accessed.1.alone accesses accessed.2

/-- A request. -/
theorem alone_requesting (work : DeferredWork) :
    Call.requesting.alone 2 work = (.requested work.schedule.1, work.schedule.2) := by
  obtain ⟨scheduled, running, disabled⟩ := work
  cases scheduled <;> cases running <;> cases disabled <;> rfl

/-- A runner that finds a request starts a pass. -/
theorem alone_entering_of_some (ran : Bool) {work entered : DeferredWork}
    (start : work.enter? = some entered) :
    (Call.entering ran).alone 3 work = (.passing, entered) := by
  obtain ⟨scheduled, running, disabled⟩ := work
  cases scheduled <;> cases running <;> cases disabled <;> cases start
  rfl

/-- Any other runner leaves the flags as they are. -/
theorem alone_entering_of_none (ran : Bool) {work : DeferredWork} (start : work.enter? = none) :
    (Call.entering ran).alone 4 work = (.finished ran, work) := by
  obtain ⟨scheduled, running, disabled⟩ := work
  cases scheduled <;> cases running <;> cases disabled <;> cases start <;> rfl

/-- A runner that ends a pass starts another one for a request made meanwhile. -/
theorem alone_passing (work : DeferredWork) :
    Call.passing.alone 4 work =
      (if work.leave.1 then .passing else .finished true, work.leave.2) := by
  obtain ⟨scheduled, running, disabled⟩ := work
  cases scheduled <;> cases running <;> cases disabled <;> rfl

/-- The work is disabled while it is not done. -/
theorem alone_disabling {work : DeferredWork} (still : work.running = false) :
    Call.disabling.alone 3 work = (.killed, work.kill) := by
  obtain ⟨scheduled, running, disabled⟩ := work
  cases still
  rfl

end Call

/-! ## The word and its callers -/

/-- The flags and all calls that were made, in the order in which they began. -/
structure Shared where
  /-- The flags. -/
  work : DeferredWork := {}
  /-- Where each call stands. -/
  calls : List Call := []
deriving DecidableEq, Repr

/-- Who goes on. -/
inductive Turn where
  /-- Somebody makes a call. -/
  | call (operation : Operation)
  /-- A call accesses the flags. -/
  | access (index : Nat) (spurious : Bool)
deriving DecidableEq, Repr

namespace Shared

/-- A word that nobody has used. -/
def fresh : Shared := {}

/-- A turn of one call, or one more call. -/
def step (shared : Shared) : Turn → Shared
  | .call operation => { shared with calls := shared.calls ++ [operation.start] }
  | .access index spurious =>
      match shared.calls[index]? with
      | none => shared
      | some call =>
          let accessed := call.access spurious shared.work
          { work := accessed.2, calls := shared.calls.set index accessed.1 }

/-- Take turns in order. -/
def run (shared : Shared) (turns : List Turn) : Shared :=
  turns.foldl step shared

/-- Every call has returned. -/
def isQuiet (shared : Shared) : Bool :=
  shared.calls.all Call.isOver

end Shared

/-! ## What happened -/

/-- A word and the turn that is taken. -/
structure Tick where
  /-- The word before the turn. -/
  before : Shared
  /-- The turn. -/
  turn : Turn

namespace Tick

/-- The word after the turn. -/
def after (tick : Tick) : Shared :=
  tick.before.step tick.turn

/-- The call that accesses the flags. -/
def caller? (tick : Tick) : Option Call :=
  match tick.turn with
  | .call _ => none
  | .access index _ => tick.before.calls[index]?

/-- Where the call that accesses the flags stands afterwards. -/
def result? (tick : Tick) : Option Call :=
  match tick.turn with
  | .call _ => none
  | .access index _ => tick.after.calls[index]?

/-- Somebody begins to run the work. -/
def startsRun (tick : Tick) : Bool :=
  tick.turn == .call .run

/-- A request is answered to be new. -/
def requests (tick : Tick) : Bool :=
  tick.result? == some (.requested true) && tick.caller? != some (.requested true)

/-- A runner takes the open request and starts a pass. -/
def takes (tick : Tick) : Bool :=
  tick.result? == some .passing && tick.caller? != some .passing

/-- A runner that found no request leaves while one is open. -/
def abandons (tick : Tick) : Bool :=
  match tick.caller? with
  | some (.retreating _) => tick.before.work.scheduled
  | _ => false

end Tick

namespace Shared

/-- The turns that are taken, each with the word before it. -/
def trace (shared : Shared) : List Turn → List Tick
  | [] => []
  | turn :: later => ⟨shared, turn⟩ :: (shared.step turn).trace later

end Shared

end WlanDatapath.DeferredWork
