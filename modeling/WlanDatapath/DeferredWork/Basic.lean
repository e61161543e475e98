/-!
# Deferred work that never overlaps itself

Work is requested where it must not be done and done later, by one runner at a
time.  A request made while the work is being done is picked up by the same
runner in a further pass.  Once disabled the work is never started again.

The state is three flags.  `schedule` makes a request, `enter?` starts a pass and
takes the request, `leave` ends a pass and says whether another one follows at
once.
-/

namespace WlanDatapath

/-- Whether work is requested, being done, or disabled for good. -/
structure DeferredWork where
  /-- A request waits for a pass. -/
  scheduled : Bool := false
  /-- A pass is going on. -/
  running : Bool := false
  /-- No further pass may start. -/
  disabled : Bool := false
deriving DecidableEq, Repr

namespace DeferredWork

/-- Make a request.  The answer is whether it is new, in which case somebody must
be told to run the work. -/
def schedule (work : DeferredWork) : Bool × DeferredWork :=
  if work.scheduled || work.disabled then (false, work)
  else (true, { work with scheduled := true })

/-- Start a pass and take the request.  Nothing starts without a request, beside
another pass, or after disabling. -/
def enter? (work : DeferredWork) : Option DeferredWork :=
  if work.scheduled && !work.running && !work.disabled then
    some { work with scheduled := false, running := true }
  else none

/-- End a pass.  The answer is whether another pass has started for a request
made meanwhile. -/
def leave (work : DeferredWork) : Bool × DeferredWork :=
  if work.scheduled && !work.disabled then
    (true, { work with scheduled := false, running := true })
  else
    (false, { work with running := false })

/-- Let no further pass start. -/
def disable (work : DeferredWork) : DeferredWork :=
  { work with disabled := true }

/-- Forget a request that no pass will take. -/
def dropRequest (work : DeferredWork) : DeferredWork :=
  { work with scheduled := false }

/-- Disable the work while no pass is going on. -/
def kill (work : DeferredWork) : DeferredWork :=
  work.disable.dropRequest

/-! ## Elementary facts -/

theorem running_of_enter? {work entered : DeferredWork} (start : work.enter? = some entered) :
    entered.running = true := by
  unfold enter? at start
  split at start
  · cases start
    rfl
  · contradiction

@[simp]
theorem enter?_of_running {work : DeferredWork} (running : work.running = true) :
    work.enter? = none := by
  simp [enter?, running]

@[simp]
theorem enter?_of_disabled {work : DeferredWork} (disabled : work.disabled = true) :
    work.enter? = none := by
  simp [enter?, disabled]

@[simp]
theorem schedule_of_disabled {work : DeferredWork} (disabled : work.disabled = true) :
    work.schedule = (false, work) := by
  simp [schedule, disabled]

/-- A pass goes on after `leave` exactly when another one has started. -/
theorem running_leave (work : DeferredWork) : work.leave.2.running = work.leave.1 := by
  unfold leave
  split <;> rfl

end DeferredWork

end WlanDatapath
