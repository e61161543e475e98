import Mathlib.Data.List.Forall2
import Mathlib.Data.List.TakeWhile
import WlanDatapath.DeferredWork.Nested

/-!
# The passes of a runner

How many passes a runner does is decided by what is asked of the work during each of
them.  A pass begins with no request open, so its requests together open one, which is
the first of them, and a further pass follows unless the work was disabled meanwhile.  A
runner that is started by the work itself is refused.

So the passes have a closed form (`goOn_of_some`): the lists of tasks that ask for another
pass, and the first one that does not.
-/

namespace WlanDatapath.DeferredWork

variable {work entered : DeferredWork}

/-! ## What is asked during a pass -/

namespace Task

/-- The work requests itself. -/
def isRequest : Task → Bool
  | .schedule => true
  | _ => false

/-- Somebody disables the work. -/
def isKill : Task → Bool
  | .kill => true
  | _ => false

/-- A report belongs to a task.  That of a nested runner says that it was refused. -/
inductive IsTold : Task → Report → Prop where
  /-- A request has an answer. -/
  | scheduled (fresh : Bool) : IsTold .schedule (.scheduled fresh)
  /-- A nested runner answers that there was no pass, and there was none. -/
  | refused (script : List (List Task)) : IsTold (.run script) (.ran (some false) 0)
  /-- Disabling has no answer. -/
  | killed : IsTold .kill .killed

end Task

/-- The work is requested while it is not disabled. -/
def requestsInTime (tasks : List Task) : Bool :=
  (tasks.takeWhile fun task => !task.isKill).any Task.isRequest

/-- The work is requested and not disabled. -/
def asksAgain (tasks : List Task) : Bool :=
  tasks.any Task.isRequest && !tasks.any Task.isKill

/-- The answer to a request. -/
def Report.fresh? : Report → Option Bool
  | .scheduled fresh => some fresh
  | _ => none

namespace PassReport

/-- The answers to the requests of a pass, in order. -/
def answers (pass : PassReport) : List Bool :=
  pass.1.filterMap Report.fresh?

/-- The work was disabled during the pass. -/
def isKilled (pass : PassReport) : Bool :=
  pass.1.contains .killed

/-- At the end of the pass a request is open and the work is not disabled. -/
def isFollowed (pass : PassReport) : Bool :=
  pass.2.scheduled && !pass.2.disabled

end PassReport

/-! ## Calls that settle -/

theorem Call.settle_requesting (work : DeferredWork) :
    Call.requesting.settle 2 work = (.requested work.schedule.1, work.schedule.2) := by
  obtain ⟨scheduled, running, disabled⟩ := work
  cases scheduled <;> cases running <;> cases disabled <;> rfl

theorem Call.settle_entering_of_some (ran : Bool) (start : work.enter? = some entered) :
    (Call.entering ran).settle 4 work = (.passing, entered) := by
  obtain ⟨scheduled, running, disabled⟩ := work
  cases scheduled <;> cases running <;> cases disabled <;> cases start
  rfl

theorem Call.settle_entering_of_none (ran : Bool) (start : work.enter? = none) :
    (Call.entering ran).settle 4 work = (.finished ran, work) := by
  obtain ⟨scheduled, running, disabled⟩ := work
  cases scheduled <;> cases running <;> cases disabled <;> cases start <;> rfl

/-! ## Runners -/

theorem goOn_of_none (ran : Bool) (start : work.enter? = none) (script : List (List Task)) :
    goOn (.entering ran) work script = ⟨some ran, [], work⟩ := by
  cases script <;> rw [goOn, Call.settle_entering_of_none ran start] <;> rfl

theorem goOn_finished (ran : Bool) (work : DeferredWork) (script : List (List Task)) :
    goOn (.finished ran) work script = ⟨some ran, [], work⟩ := by
  cases script <;> rfl

/-! ## One pass -/

/-- A request is open afterwards unless the work is disabled, and no other flag changes. -/
theorem schedule_eq (work : DeferredWork) :
    work.schedule =
      (work.admitsRequest, { work with scheduled := work.scheduled || !work.disabled }) := by
  obtain ⟨scheduled, running, disabled⟩ := work
  cases scheduled <;> cases disabled <;> rfl

theorem carryOut_schedule (work : DeferredWork) :
    carryOut work .schedule = (.scheduled work.admitsRequest,
      { work with scheduled := work.scheduled || !work.disabled }) := by
  rw [carryOut, Call.settle_requesting, schedule_eq]
  cases work.admitsRequest <;> rfl

theorem carryOut_run (running : work.running = true) (script : List (List Task)) :
    carryOut work (.run script) = (.ran (some false) 0, work) := by
  rw [carryOut, goOn_of_none false (enter?_of_running running)]
  rfl

theorem carryOut_kill (work : DeferredWork) : carryOut work .kill = (.killed, work.disable) := by
  rw [carryOut]
  rfl

theorem requestsInTime_schedule (later : List Task) :
    requestsInTime (.schedule :: later) = true :=
  rfl

theorem requestsInTime_kill (later : List Task) : requestsInTime (.kill :: later) = false :=
  rfl

/-- What a pass reports and leaves that goes on with the given flags. -/
structure Passed (work : DeferredWork) (tasks : List Task) (pass : PassReport) : Prop where
  /-- Every task is reported, and nested runners are refused. -/
  told : List.Forall₂ Task.IsTold tasks pass.1
  /-- The runner has not left. -/
  running : pass.2.running = true
  /-- The work is disabled if somebody did so. -/
  disabled : pass.2.disabled = (work.disabled || tasks.any Task.isKill)
  /-- A request is open if one was made in time. -/
  scheduled : pass.2.scheduled = (work.scheduled || !work.disabled && requestsInTime tasks)
  /-- No request is new but the first. -/
  answers : pass.answers =
    (List.replicate (tasks.countP Task.isRequest) false).set 0
      (work.admitsRequest && requestsInTime tasks)

theorem passed_carryOutAll (running : work.running = true) (tasks : List Task) :
    Passed work tasks (carryOutAll work tasks) := by
  induction tasks generalizing work with
  | nil =>
      rw [carryOutAll]
      exact ⟨.nil, running, by simp, by simp [requestsInTime], rfl⟩
  | cons task later ih =>
      rw [carryOutAll]
      cases task with
      | schedule =>
          rw [carryOut_schedule]
          have still : DeferredWork.running
              { work with scheduled := work.scheduled || !work.disabled } = true := running
          have rest := ih still
          refine ⟨.cons (.scheduled _) rest.told, rest.running, rest.disabled, ?_, ?_⟩
          · rw [rest.scheduled, requestsInTime_schedule]
            cases work.scheduled <;> cases work.disabled <;> rfl
          · -- No request is new behind this one, so the first place of the others holds no.
            have refused : admitsRequest
                { work with scheduled := work.scheduled || !work.disabled } = false := by
              simp only [admitsRequest]
              cases work.scheduled <;> cases work.disabled <;> rfl
            refine (congrArg (work.admitsRequest :: ·) rest.answers).trans ?_
            rw [refused, Bool.false_and, List.set_replicate_self, requestsInTime_schedule,
              Bool.and_true, List.countP_cons_of_pos rfl, List.replicate_succ,
              List.set_cons_zero]
      | run script =>
          rw [carryOut_run running]
          have rest := ih running
          exact ⟨.cons (.refused script) rest.told, rest.running, rest.disabled,
            rest.scheduled, rest.answers⟩
      | kill =>
          rw [carryOut_kill]
          have still : work.disable.running = true := running
          have rest := ih still
          refine ⟨.cons .killed rest.told, rest.running, ?_, ?_, ?_⟩
          · rw [rest.disabled]
            simp [disable, Task.isKill]
          · rw [rest.scheduled]
            simp [disable, requestsInTime, Task.isKill]
          · have refused : admitsRequest work.disable = false := by
              simp [admitsRequest, disable]
            refine Eq.trans rest.answers ?_
            rw [refused, requestsInTime_kill, Bool.and_false, Bool.false_and]
            rfl

/-! ## Which tasks the passes carry out -/

/-- The first tasks of a script that do not ask for another pass.  Behind a script there are
none. -/
def lastTasks (script : List (List Task)) : List Task :=
  (script.dropWhile asksAgain).headD []

/-- The tasks that are carried out in each pass of a runner that is let in. -/
def passTasks (script : List (List Task)) : List (List Task) :=
  script.takeWhile asksAgain ++ [lastTasks script]

section

variable {tasks : List Task} (script : List (List Task))

theorem lastTasks_cons_of_asksAgain (again : asksAgain tasks = true) :
    lastTasks (tasks :: script) = lastTasks script := by
  rw [lastTasks, List.dropWhile_cons_of_pos again]
  rfl

theorem lastTasks_cons_of_not_asksAgain (enough : asksAgain tasks = false) :
    lastTasks (tasks :: script) = tasks := by
  rw [lastTasks, List.dropWhile_cons_of_neg (by simp [enough])]
  rfl

theorem passTasks_cons_of_asksAgain (again : asksAgain tasks = true) :
    passTasks (tasks :: script) = tasks :: passTasks script := by
  rw [passTasks, List.takeWhile_cons_of_pos again, lastTasks_cons_of_asksAgain script again]
  rfl

theorem passTasks_cons_of_not_asksAgain (enough : asksAgain tasks = false) :
    passTasks (tasks :: script) = [tasks] := by
  rw [passTasks, List.takeWhile_cons_of_neg (by simp [enough]),
    lastTasks_cons_of_not_asksAgain script enough]
  rfl

theorem asksAgain_lastTasks : asksAgain (lastTasks script) = false := by
  induction script with
  | nil => rfl
  | cons tasks script ih =>
      cases again : asksAgain tasks with
      | true => rwa [lastTasks_cons_of_asksAgain script again]
      | false => rwa [lastTasks_cons_of_not_asksAgain script again]

/-- There is one pass more than there are lists of tasks that ask for another one. -/
theorem length_passTasks :
    (passTasks script).length = 1 + (passTasks script).countP asksAgain := by
  have front : (script.takeWhile asksAgain).countP asksAgain =
      (script.takeWhile asksAgain).length :=
    List.countP_eq_length.mpr fun _ mem => List.mem_takeWhile_imp mem
  rw [passTasks, List.length_append, List.countP_append, front, List.countP_singleton,
    asksAgain_lastTasks, List.length_singleton, Nat.add_comm]
  rfl

end

/-- The passes carry out the script in order, and only the last one does not ask for
another. -/
theorem passTasks_at {script : List (List Task)} {index : Nat} {tasks : List Task}
    (place : (passTasks script)[index]? = some tasks) :
    tasks = script.getD index [] ∧
      (index + 1 < (passTasks script).length ↔ asksAgain tasks = true) := by
  induction script generalizing index with
  | nil =>
      obtain ⟨rfl, rfl⟩ : index = 0 ∧ [] = tasks := by
        simpa [passTasks, lastTasks, List.getElem?_singleton] using place
      simp [passTasks, lastTasks, asksAgain]
  | cons first script ih =>
      cases again : asksAgain first with
      | true =>
          rw [passTasks_cons_of_asksAgain script again] at place ⊢
          cases index with
          | zero =>
              obtain rfl : first = tasks := by simpa using place
              simp [again, passTasks]
          | succ index =>
              simpa using ih (by simpa using place)
      | false =>
          rw [passTasks_cons_of_not_asksAgain script again] at place ⊢
          obtain ⟨rfl, rfl⟩ : index = 0 ∧ first = tasks := by
            simpa [List.getElem?_singleton] using place
          simp [again]

/-! ## The passes -/

/-- The flags with which every pass begins. -/
def begun : DeferredWork := ⟨false, true, false⟩

theorem eq_begun_of_enter? (start : work.enter? = some entered) : entered = begun := by
  obtain ⟨scheduled, running, disabled⟩ := work
  cases scheduled <;> cases running <;> cases disabled <;> cases start
  rfl

/-- The pass that carries out the given tasks. -/
def passOf (tasks : List Task) : PassReport :=
  begun.carryOutAll tasks

theorem passed_passOf (tasks : List Task) : Passed begun tasks (passOf tasks) :=
  passed_carryOutAll rfl tasks

/-- Without somebody who disables the work, all requests are made in time. -/
theorem requestsInTime_of_not_kill {tasks : List Task}
    (alive : tasks.any Task.isKill = false) :
    requestsInTime tasks = tasks.any Task.isRequest := by
  rw [requestsInTime, List.takeWhile_eq_self_iff.mpr]
  intro task mem
  simpa using List.any_eq_false.mp alive task mem

theorem isFollowed_passOf (tasks : List Task) : (passOf tasks).isFollowed = asksAgain tasks := by
  have passed := passed_passOf tasks
  rw [PassReport.isFollowed, passed.scheduled, passed.disabled, asksAgain]
  cases kills : tasks.any Task.isKill with
  | true => simp
  | false => simp [begun, requestsInTime_of_not_kill kills]

/-- The runner has left. -/
def release (work : DeferredWork) : DeferredWork :=
  { work with running := false }

/-- A runner that ends a pass goes on if it is asked to. -/
theorem access_passing_passOf (tasks : List Task) :
    Call.passing.access false (passOf tasks).2 =
      (if asksAgain tasks then .entering true else .finished true, (passOf tasks).2.release) := by
  rw [← isFollowed_passOf]
  rfl

/-- A runner that is asked to go on is let in. -/
theorem enter?_release_passOf {tasks : List Task} (again : asksAgain tasks = true) :
    (passOf tasks).2.release.enter? = some begun := by
  have followed := (isFollowed_passOf tasks).trans again
  generalize passOf tasks = pass at followed
  obtain ⟨reports, scheduled, running, disabled⟩ := pass
  obtain ⟨rfl, rfl⟩ : scheduled = true ∧ disabled = false := by
    simpa [PassReport.isFollowed] using followed
  rfl

/-- A runner that is let in does a pass, ends it, and goes on from there. -/
theorem goOn_cons_of_some (ran : Bool) (start : work.enter? = some entered)
    (tasks : List Task) (script : List (List Task)) {next : Call} {left : DeferredWork}
    (ended : Call.passing.access false (passOf tasks).2 = (next, left)) :
    goOn (.entering ran) work (tasks :: script) =
      ⟨(goOn next left script).answer?, passOf tasks :: (goOn next left script).passes,
        (goOn next left script).work⟩ := by
  rw [goOn, Call.settle_entering_of_some ran start, eq_begun_of_enter? start]
  rw [passOf] at ended
  simp only [ended]
  rfl

/-- A runner that is let in goes on as long as it is asked to. -/
theorem goOn_of_some (ran : Bool) (start : work.enter? = some entered)
    (script : List (List Task)) :
    goOn (.entering ran) work script =
      ⟨some true, (passTasks script).map passOf,
        (passOf (lastTasks script)).2.release⟩ := by
  induction script generalizing ran work entered with
  | nil =>
      rw [goOn, Call.settle_entering_of_some ran start, eq_begun_of_enter? start]
      rfl
  | cons tasks script ih =>
      have ended := access_passing_passOf tasks
      cases again : asksAgain tasks with
      | true =>
          rw [again, if_pos rfl] at ended
          rw [goOn_cons_of_some ran start tasks script ended,
            ih true (enter?_release_passOf again), passTasks_cons_of_asksAgain script again,
            lastTasks_cons_of_asksAgain script again]
          rfl
      | false =>
          rw [again, if_neg Bool.false_ne_true] at ended
          rw [goOn_cons_of_some ran start tasks script ended, goOn_finished,
            passTasks_cons_of_not_asksAgain script again,
            lastTasks_cons_of_not_asksAgain script again]
          rfl

/-! ## What a run comes to -/

theorem contains_killed {tasks : List Task} {reports : List Report}
    (told : List.Forall₂ Task.IsTold tasks reports) :
    reports.contains .killed = tasks.any Task.isKill := by
  induction told with
  | nil => rfl
  | cons first _ ih =>
      rw [List.contains_cons, ih, List.any_cons]
      cases first <;> rfl

theorem isKilled_passOf (tasks : List Task) :
    (passOf tasks).isKilled = tasks.any Task.isKill :=
  contains_killed (passed_passOf tasks).told

/-- The work is disabled in the last pass or not at all. -/
theorem any_isKilled_map_passTasks (script : List (List Task)) :
    ((passTasks script).map passOf).any PassReport.isKilled =
      (lastTasks script).any Task.isKill := by
  have front : ((script.takeWhile asksAgain).map passOf).any PassReport.isKilled = false := by
    rw [List.any_eq_false]
    intro pass mem
    obtain ⟨tasks, inFront, rfl⟩ := List.mem_map.mp mem
    have again : asksAgain tasks = true := List.mem_takeWhile_imp inFront
    rw [isKilled_passOf]
    simp_all [asksAgain]
  rw [passTasks, List.map_append, List.any_append, front, List.map_singleton, List.any_cons,
    List.any_nil, isKilled_passOf, Bool.false_or, Bool.or_false]

/-- Whoever waits for a runner that has left drops the open request. -/
theorem alone_waiting (still : work.running = false) :
    Call.waiting.alone 2 work = (.killed, work.dropRequest) := by
  obtain ⟨scheduled, running, disabled⟩ := work
  cases still
  rfl

theorem runNested_of_none (start : work.enter? = none) (script : List (List Task)) :
    runNested work script = ⟨some false, [], work⟩ := by
  rw [runNested, goOn_of_none false start]
  rfl

theorem disabled_release_passOf (tasks : List Task) :
    (passOf tasks).2.release.disabled = tasks.any Task.isKill :=
  (passed_passOf tasks).disabled

/-- What is left when the last pass is over, and somebody who disabled the work has dropped
the open request. -/
theorem settled_passOf {tasks : List Task} (enough : asksAgain tasks = false) :
    (if tasks.any Task.isKill then (passOf tasks).2.release.dropRequest
      else (passOf tasks).2.release) = ⟨false, false, tasks.any Task.isKill⟩ := by
  have disabled := disabled_release_passOf tasks
  cases kills : tasks.any Task.isKill with
  | true =>
      rw [if_pos rfl, dropRequest, disabled, kills]
      rfl
  | false =>
      have scheduled : (passOf tasks).2.release.scheduled = false := by
        refine (passed_passOf tasks).scheduled.trans ?_
        rw [requestsInTime_of_not_kill kills]
        simpa [asksAgain, kills, begun] using enough
      calc (passOf tasks).2.release
          = ⟨(passOf tasks).2.release.scheduled, false,
              (passOf tasks).2.release.disabled⟩ := rfl
        _ = ⟨false, false, false⟩ := by rw [scheduled, disabled, kills]

theorem runNested_of_some (start : work.enter? = some entered) (script : List (List Task)) :
    runNested work script =
      ⟨some true, (passTasks script).map passOf,
        ⟨false, false, (lastTasks script).any Task.isKill⟩⟩ := by
  rw [runNested, goOn_of_some false start]
  change (if ((passTasks script).map passOf).any PassReport.isKilled then _ else _) = _
  rw [any_isKilled_map_passTasks, alone_waiting rfl,
    ← settled_passOf (asksAgain_lastTasks script)]
  split <;> rfl

/-- Every pass carries out its tasks of the script, and is followed by another one if these
ask for it. -/
theorem passes_at {script : List (List Task)} {index : Nat} {pass : PassReport}
    (place : ((passTasks script).map passOf)[index]? = some pass) :
    pass = passOf (script.getD index []) ∧
      (index + 1 < ((passTasks script).map passOf).length ↔
        asksAgain (script.getD index []) = true) := by
  rw [List.getElem?_map, Option.map_eq_some_iff] at place
  obtain ⟨tasks, place, rfl⟩ := place
  obtain ⟨rfl, next⟩ := passTasks_at place
  exact ⟨rfl, by rwa [List.length_map]⟩

/-- While the work is not disabled, any request asks for another pass, and the first one is
new. -/
theorem answers_passOf_of_not_kill {tasks : List Task} (alive : tasks.any Task.isKill = false) :
    (passOf tasks).answers =
        (List.replicate (tasks.countP Task.isRequest) false).set 0 true ∧
      (asksAgain tasks = true ↔ 0 < tasks.countP Task.isRequest) := by
  have answers := (passed_passOf tasks).answers
  rw [requestsInTime_of_not_kill alive] at answers
  rw [answers, asksAgain, alive, List.countP_pos_iff, ← List.any_eq_true]
  cases asked : tasks.any Task.isRequest with
  | true => exact ⟨rfl, by simp⟩
  | false =>
      have none : tasks.countP Task.isRequest = 0 :=
        List.countP_eq_zero.mpr (List.any_eq_false.mp asked)
      rw [none]
      exact ⟨rfl, by simp⟩

/-- What a run reports and leaves that finds the given flags. -/
structure Accounted (work : DeferredWork) (script : List (List Task)) (report : RunReport) :
    Prop where
  /-- Each pass carries out its tasks, and every nested runner is refused. -/
  told : ∀ index pass, report.passes[index]? = some pass →
    List.Forall₂ Task.IsTold (script.getD index []) pass.1
  /-- There is one pass for the request that was found and one for each pass that left a
  request to a work that was not disabled. -/
  count : report.passes.length =
    if work.scheduled && !work.disabled then 1 + report.passes.countP PassReport.isFollowed
    else 0
  /-- A further pass comes right behind the one that asked for it. -/
  further : ∀ index pass, report.passes[index]? = some pass →
    (index + 1 < report.passes.length ↔ pass.isFollowed = true)
  /-- No request of a pass is new but the first, which is if it is made in time. -/
  answers : ∀ index pass, report.passes[index]? = some pass →
    pass.answers = (List.replicate ((script.getD index []).countP Task.isRequest) false).set 0
      (requestsInTime (script.getD index []))
  /-- While the work is not disabled, the first request of a pass is new and no other, and
  together they cost one further pass. -/
  requests : ∀ index pass, report.passes[index]? = some pass → pass.isKilled = false →
    pass.answers =
        (List.replicate ((script.getD index []).countP Task.isRequest) false).set 0 true ∧
      (index + 1 < report.passes.length ↔ 0 < (script.getD index []).countP Task.isRequest)
  /-- The runner returns and says whether there was a pass. -/
  answer : report.answer? = some !report.passes.isEmpty
  /-- The runner has left. -/
  released : report.work.running = false
  /-- Without a pass nothing happens. -/
  untouched : report.passes = [] → report.work = work
  /-- After a pass no request is left, and the work is disabled if somebody did so. -/
  settled : report.passes ≠ [] →
    report.work.scheduled = false ∧
      report.work.disabled = report.passes.any PassReport.isKilled

/-- A runner that is refused does nothing. -/
theorem accounted_of_none (still : work.running = false) (start : work.enter? = none)
    (script : List (List Task)) : Accounted work script ⟨some false, [], work⟩ where
  told := by simp
  count := by
    have refused : (work.scheduled && !work.disabled) = false := by
      simpa [enter?, still] using start
    simp [refused]
  further := by simp
  answers := by simp
  requests := by simp
  answer := rfl
  released := still
  untouched _ := rfl
  settled some := absurd rfl some

/-- The passes of a runner that is let in are those of the script, up to the first one that is
not followed. -/
theorem accounted_of_some (still : work.running = false) (start : work.enter? = some entered)
    (script : List (List Task)) :
    Accounted work script
      ⟨some true, (passTasks script).map passOf,
        ⟨false, false, (lastTasks script).any Task.isKill⟩⟩ where
  told index pass place := by
    rw [(passes_at place).1]
    exact (passed_passOf _).told
  count := by
    have found : (work.scheduled && !work.disabled) = true := by
      simpa [enter?, still] using Option.isSome_of_mem start
    have followed : PassReport.isFollowed ∘ passOf = asksAgain := funext isFollowed_passOf
    rw [if_pos found, List.length_map, length_passTasks, List.countP_map, followed]
  further index pass place := by
    obtain ⟨rfl, next⟩ := passes_at place
    rw [next, isFollowed_passOf]
  answers index pass place := by
    rw [(passes_at place).1]
    exact (passed_passOf _).answers
  requests index pass place alive := by
    obtain ⟨rfl, next⟩ := passes_at place
    rw [isKilled_passOf] at alive
    rw [next]
    exact answers_passOf_of_not_kill alive
  answer := by simp [passTasks]
  released := rfl
  untouched none := by simp [passTasks] at none
  settled _ := ⟨rfl, (any_isKilled_map_passTasks script).symm⟩

/-- Every run of work that nobody runs yet returns, whatever is asked of the work meanwhile,
and its passes are accounted for. -/
theorem runNested_accounted (still : work.running = false) (script : List (List Task)) :
    Accounted work script (runNested work script) := by
  cases start : work.enter? with
  | none =>
      rw [runNested_of_none start]
      exact accounted_of_none still start script
  | some entered =>
      rw [runNested_of_some start]
      exact accounted_of_some still start script

/-- Two requests and a refused runner in the first pass cost the second one, in which the work
is disabled between two requests. -/
theorem runNested_accounted_disabled :
    let work : DeferredWork := ⟨true, false, false⟩
    let script : List (List Task) :=
      [[.schedule, .run [[.schedule], [.kill]], .schedule], [.schedule, .kill, .schedule],
        [.schedule]]
    Accounted work script (runNested work script) ∧
      runNested work script =
        ⟨some true,
          [([.scheduled true, .ran (some false) 0, .scheduled false], ⟨true, true, false⟩),
            ([.scheduled true, .killed, .scheduled false], ⟨true, true, true⟩)],
          ⟨false, false, true⟩⟩ :=
  ⟨runNested_accounted rfl _, by decide⟩

/-! ## The same script without the calls -/

/-- A task, whatever a nested runner would do. -/
def Task.action : Task → Action
  | .schedule => .schedule
  | .run _ => .run
  | .kill => .disable

/-- A report, whatever a runner answered. -/
def Report.reply : Report → Reply
  | .scheduled fresh => .scheduled fresh
  | .ran _ passes => .ran passes
  | .killed => .done

/-- The replies of each pass. -/
def replies (passes : List (List Observation)) : List (List Reply) :=
  passes.map fun pass => pass.map Prod.fst

theorem performAll_map_action (running : work.running = true) (tasks : List Task) :
    (work.performAll (tasks.map Task.action)).1.map Prod.fst =
        (work.carryOutAll tasks).1.map Report.reply ∧
      (work.performAll (tasks.map Task.action)).2 = (work.carryOutAll tasks).2 := by
  induction tasks generalizing work with
  | nil => rw [carryOutAll]; exact ⟨rfl, rfl⟩
  | cons task later ih =>
      have performed : (work.perform task.action).1 = (work.carryOut task).1.reply ∧
          (work.perform task.action).2 = (work.carryOut task).2 ∧
          (work.carryOut task).2.running = true := by
        cases task with
        | schedule =>
            rw [carryOut_schedule, ← running]
            exact ⟨by rw [Task.action, perform, schedule_eq]; rfl,
              by rw [Task.action, perform, schedule_eq], rfl⟩
        | run script => rw [carryOut_run running]; exact ⟨rfl, rfl, running⟩
        | kill => rw [carryOut_kill]; exact ⟨rfl, rfl, running⟩
      rw [carryOutAll, List.map_cons, performAll, performed.2.1, List.map_cons, List.map_cons,
        performed.1, (ih performed.2.2).1, (ih performed.2.2).2]
      exact ⟨rfl, rfl⟩

/-- A pass of the script ends as a pass of the runner does. -/
theorem leave_passOf (tasks : List Task) :
    (passOf tasks).2.leave =
      if asksAgain tasks then (true, begun) else (false, (passOf tasks).2.release) := by
  have enabled : (passOf tasks).isFollowed = true → (passOf tasks).2.disabled = false := by
    simp +contextual [PassReport.isFollowed]
  rw [← isFollowed_passOf, leave]
  cases followed : (passOf tasks).isFollowed with
  | true =>
      rw [PassReport.isFollowed] at followed
      rw [followed, enabled followed]
      rfl
  | false =>
      rw [PassReport.isFollowed] at followed
      rw [followed]
      rfl

theorem runPasses_map_action (script : List (List Task)) :
    let run := begun.runPasses (script.map (List.map Task.action))
    replies run.1 = (passTasks script).map (fun tasks => (passOf tasks).1.map Report.reply) ∧
      run.2 = (passOf (lastTasks script)).2.release := by
  induction script with
  | nil => exact ⟨rfl, rfl⟩
  | cons tasks script ih =>
      have performed : ((begun.performAll (tasks.map Task.action)).1.map Prod.fst =
          (passOf tasks).1.map Report.reply) ∧
          (begun.performAll (tasks.map Task.action)).2 = (passOf tasks).2 :=
        performAll_map_action rfl tasks
      rw [List.map_cons, runPasses, performed.2, leave_passOf]
      cases again : asksAgain tasks with
      | true =>
          rw [passTasks_cons_of_asksAgain script again, lastTasks_cons_of_asksAgain script again,
            List.map_cons, ← performed.1, ← ih.1, ← ih.2]
          exact ⟨rfl, rfl⟩
      | false =>
          rw [passTasks_cons_of_not_asksAgain script again,
            lastTasks_cons_of_not_asksAgain script again, List.map_singleton, ← performed.1]
          exact ⟨rfl, rfl⟩

/-- Carried out call by call, a script replies and leaves what it does with every nested
runner refused in advance. -/
theorem runScript_map_action (work : DeferredWork) (script : List (List Task)) :
    let run := work.runScript (script.map (List.map Task.action))
    replies run.1 = (runNested work script).passes.map (fun pass => pass.1.map Report.reply) ∧
      run.2 = (runNested work script).work := by
  cases start : work.enter? with
  | none =>
      rw [runNested_of_none start, runScript, start]
      exact ⟨rfl, rfl⟩
  | some entered =>
      have passes := runPasses_map_action script
      rw [runNested_of_some start, runScript, start, eq_begun_of_enter? start, List.map_map]
      refine ⟨passes.1, ?_⟩
      change (if (begun.runPasses _).2.disabled then _ else _) = _
      rw [passes.2, disabled_release_passOf,
        settled_passOf (asksAgain_lastTasks script)]

end WlanDatapath.DeferredWork
