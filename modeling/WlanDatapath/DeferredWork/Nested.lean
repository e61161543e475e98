import WlanDatapath.DeferredWork.Script
import WlanDatapath.DeferredWork.Shared

/-!
# Deferred work that calls on itself

The work may request and run itself while it is being done, to any depth, and somebody
else may disable it meanwhile.  Here every call is carried out access by access, a nested
runner like the outermost one: nothing says in advance that it is refused.

A script lists the tasks of each pass, and a nested runner brings a script of its own.
Somebody who disables the work waits for the pass to end and drops a pending request then.
-/

namespace WlanDatapath.DeferredWork

/-! ## Tasks -/

/-- What can happen during a pass. -/
inductive Task where
  /-- The work requests itself. -/
  | schedule
  /-- The work runs itself, by a script. -/
  | run (script : List (List Task))
  /-- Somebody else disables the work and waits. -/
  | kill

/-- What came of a task. -/
inductive Report where
  /-- A request was made, and whether it is new. -/
  | scheduled (fresh : Bool)
  /-- A runner did so many passes.  There is no answer if it has not returned. -/
  | ran (answer? : Option Bool) (passes : Nat)
  /-- The work is disabled. -/
  | killed
deriving DecidableEq, Repr

/-- The reports of a pass, and the flags at its end. -/
abbrev PassReport := List Report × DeferredWork

/-- What came of a runner. -/
structure RunReport where
  /-- The answer: whether there was a pass.  There is none if the runner has not returned. -/
  answer? : Option Bool
  /-- The passes, in order. -/
  passes : List PassReport
  /-- The flags afterwards. -/
  work : DeferredWork
deriving DecidableEq, Repr

/-! ## Calls -/

/-- The accesses of a call that nobody interrupts, until it has returned or the work is to
be done, but so many at most. -/
def Call.settle : Nat → Call → DeferredWork → Call × DeferredWork
  | 0, call, work => (call, work)
  | accesses + 1, call, work =>
      if call.isOver || call == .passing then (call, work)
      else
        let accessed := call.access false work
        accessed.1.settle accesses accessed.2

mutual

/-- Carry out one task. -/
def carryOut (work : DeferredWork) : Task → Report × DeferredWork
  | .schedule =>
      let call := Call.requesting.settle 2 work
      (.scheduled (call.1.answer? == some true), call.2)
  | .run script =>
      let report := goOn (.entering false) work script
      (.ran report.answer? report.passes.length, report.work)
  | .kill => (.killed, (Call.disabling.access false work).2)

/-- Carry out the tasks of a pass in order. -/
def carryOutAll (work : DeferredWork) : List Task → PassReport
  | [] => ([], work)
  | task :: later =>
      let first := carryOut work task
      let rest := carryOutAll first.2 later
      (first.1 :: rest.1, rest.2)

/-- Let a runner go on by a script.  A pass behind the script has no tasks. -/
def goOn (runner : Call) (work : DeferredWork) : List (List Task) → RunReport
  | [] =>
      match runner.settle 4 work with
      | (.passing, entered) =>
          let left := (Call.passing.access false entered)
          ⟨left.1.answer?, [([], entered)], left.2⟩
      | (settled, work) => ⟨settled.answer?, [], work⟩
  | tasks :: script =>
      match runner.settle 4 work with
      | (.passing, entered) =>
          let pass := carryOutAll entered tasks
          let left := Call.passing.access false pass.2
          let rest := goOn left.1 left.2 script
          ⟨rest.answer?, pass :: rest.passes, rest.work⟩
      | (settled, work) => ⟨settled.answer?, [], work⟩

end

/-- Run the work by a script.  Whoever disabled it meanwhile goes on when the pass has
ended. -/
def runNested (work : DeferredWork) (script : List (List Task)) : RunReport :=
  let report := goOn (.entering false) work script
  if report.passes.any fun pass => pass.1.contains .killed then
    { report with work := (Call.waiting.alone 2 report.work).2 }
  else report

end WlanDatapath.DeferredWork
