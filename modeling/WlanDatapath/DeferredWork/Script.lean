import WlanDatapath.DeferredWork.Basic

/-!
# Deferred work driven by a script

The work may itself request more work, try to run it, or be disabled by somebody
else while it is being done.  A script says what happens in each pass of a run;
running it shows the flags after every action.

Somebody who disables the work during a pass waits for the pass to end and then
drops a request that is still pending, so no request survives such a run.
-/

namespace WlanDatapath.DeferredWork

/-- What can happen during a pass. -/
inductive Action where
  /-- A request is made. -/
  | schedule
  /-- A second runner tries its luck. -/
  | run
  /-- Somebody disables the work and waits. -/
  | disable
  /-- Nothing happens. -/
  | observe
deriving DecidableEq, Repr

/-- The answer to an action. -/
inductive Reply where
  /-- The action has no answer. -/
  | done
  /-- A request was made, and whether it is new. -/
  | scheduled (fresh : Bool)
  /-- The work was run in as many passes, or refused if there are none. -/
  | ran (passes : Nat)
deriving DecidableEq, Repr

/-- An answer and the flags after the action. -/
abbrev Observation := Reply × DeferredWork

/-- Perform one action during a pass.  A second runner is always refused. -/
def perform (work : DeferredWork) : Action → Observation
  | .schedule => (.scheduled work.schedule.1, work.schedule.2)
  | .run => (.ran 0, work)
  | .disable => (.done, work.disable)
  | .observe => (.done, work)

/-- Perform the actions of one pass in order. -/
def performAll (work : DeferredWork) : List Action → List Observation × DeferredWork
  | [] => ([], work)
  | action :: actions =>
      let observation := work.perform action
      let later := observation.2.performAll actions
      (observation :: later.1, later.2)

/-- Do the passes of a run that has entered its first pass.  Passes beyond the
script do nothing. -/
def runPasses (work : DeferredWork) : List (List Action) → List (List Observation) × DeferredWork
  | [] => ([[]], work.leave.2)
  | actions :: script =>
      let pass := work.performAll actions
      match pass.2.leave with
      | (true, again) =>
          let later := again.runPasses script
          (pass.1 :: later.1, later.2)
      | (false, idle) => ([pass.1], idle)

/-- Run the work by a script.  The answer shows each pass; there is none if the
run was refused. -/
def runScript (work : DeferredWork) (script : List (List Action)) :
    List (List Observation) × DeferredWork :=
  match work.enter? with
  | none => ([], work)
  | some entered =>
      let run := entered.runPasses script
      (run.1, if run.2.disabled then run.2.dropRequest else run.2)

end WlanDatapath.DeferredWork
