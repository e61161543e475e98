import WlanDatapath.Proofs.Exclusion

/-!
# Requests that are abandoned

A runner that is refused counts on the one inside to take the request that brought
it there.  The one inside does so at the end of a pass, where it looks for a request
as it leaves.  But a runner that was let in and found no request leaves without
looking: a request made after it looked, whose own runner was refused meanwhile,
stays open although nobody is left to take it (`request_abandoned`).

That is the only way in which a request is lost.  When every new request was
followed by a runner, and no call is left, the open request is one that was abandoned
in that way and taken by no later pass (`requests_taken_unless_abandoned`).

The invariant is `Accounted`: an open request has a runner yet to come, was
abandoned, or has a runner that did not return.
-/

namespace WlanDatapath.DeferredWork

/-! ## Items that are followed by others -/

/-- Every item of the first kind is followed by one of the second. -/
def FollowedBy {Item : Type} (first second : Item → Bool) : List Item → Bool
  | [] => true
  | item :: later => (!first item || later.any second) && FollowedBy first second later

@[simp]
theorem followedBy_concat {Item : Type} (first second : Item → Bool) (items : List Item)
    (item : Item) :
    FollowedBy first second (items ++ [item]) =
      ((FollowedBy first second items || second item) && !first item) := by
  induction items with
  | nil => simp [FollowedBy]
  | cons head later hypothesis =>
      simp only [List.cons_append, FollowedBy, hypothesis, List.any_append, List.any_cons,
        List.any_nil, Bool.or_false]
      cases first head <;> cases later.any second <;> cases second item <;> simp

/-! ## What one access does to a request -/

namespace Call

variable {call : Call} {work : DeferredWork}

@[simp]
theorem request_beq_requested (work : DeferredWork) :
    (request work == .requested true) = false := by
  unfold request
  split <;> rfl

@[simp]
theorem request_beq_passing (work : DeferredWork) : (request work == .passing) = false := by
  unfold request
  split <;> rfl

@[simp]
theorem enter_beq_requested (ran : Bool) (work : DeferredWork) :
    (enter ran work == .requested true) = false := by
  unfold enter
  split <;> rfl

@[simp]
theorem enter_beq_passing (ran : Bool) (work : DeferredWork) :
    (enter ran work == .passing) = false := by
  unfold enter
  split <;> rfl

/-- A request is open after an access if it was answered to be new, or was open and
not taken. -/
theorem scheduled_access (spurious : Bool) (demands : call.Demands work)
    (enabled : work.disabled = false) :
    (call.access spurious work).2.scheduled =
      ((call.access spurious work).1 == .requested true && call != .requested true ||
        work.scheduled && !((call.access spurious work).1 == .passing && call != .passing)) := by
  cases call with
  | requesting | entering => simp [access]
  | committing =>
      simp only [access]
      split
      · rfl
      · simp
  | claiming =>
      simp only [access]
      split
      · exact (Bool.and_true _).symm
      · simp
  | taking =>
      simp only [access, dropRequest]
      cases work.scheduled <;> rfl
  | passing | waiting =>
      simp only [access]
      split <;> exact (Bool.and_true _).symm
  | dropping => exact absurd (enabled.symm.trans demands.1) Bool.false_ne_true
  | requested fresh => cases fresh <;> exact (Bool.and_true _).symm
  | retreating | disabling | finished | killed => exact (Bool.and_true _).symm

/-- A runner that did not return takes an open request, is refused because of another
one, or was let in and found no request before. -/
theorem isRunner_access (spurious : Bool) (runner : call.isRunner = true)
    (enabled : work.disabled = false) (waits : work.scheduled = true)
    (stays : ∀ ran, call ≠ .retreating ran) :
    (call.access spurious work).1.isRunner = true ∨
      (call.access spurious work).2.running = true := by
  have looked : ∀ ran, (enter ran work).isRunner = true ∨ work.running = true := by
    intro ran
    unfold enter
    split
    next => exact Or.inl rfl
    next refused => exact Or.inr (by simpa [admitsRunner, enabled] using refused)
  cases call with
  | entering ran => exact looked ran
  | claiming ran =>
      simp only [access]
      split
      next => exact Or.inl rfl
      next => exact looked ran
  | taking =>
      rw [access, waits]
      exact Or.inl rfl
  | retreating ran => exact absurd rfl (stays ran)
  | passing =>
      rw [access, waits, enabled]
      exact Or.inl rfl
  | _ => contradiction

end Call

/-! ## What one turn does to a request -/

namespace Tick

variable {before : Shared} {index : Nat} {call : Call} (spurious : Bool)

section

variable (stands : before.calls[index]? = some call)
include stands

theorem after_access :
    (mk before (.access index spurious)).after =
      ⟨(call.access spurious before.work).2,
        before.calls.set index (call.access spurious before.work).1⟩ := by
  simp only [after, Shared.step, stands]

theorem result?_access :
    (mk before (.access index spurious)).result? =
      some (call.access spurious before.work).1 := by
  obtain ⟨within, -⟩ := List.getElem?_eq_some_iff.mp stands
  simp only [result?, after_access spurious stands]
  exact List.getElem?_set_self within

end

variable {tick : Tick}

theorem after_nobody (nobody : before.calls[index]? = none) :
    (mk before (.access index spurious)).after = before := by
  simp only [after, Shared.step, nobody]

/-- Work that is not disabled after a turn was not disabled before. -/
theorem enabled_before (enabled : tick.after.work.disabled = false) :
    tick.before.work.disabled = false := by
  obtain ⟨before, turn⟩ := tick
  cases turn with
  | call operation => exact enabled
  | access index spurious =>
      cases stands : before.calls[index]? with
      | none => rwa [after_nobody spurious stands] at enabled
      | some call =>
          rw [after_access spurious stands] at enabled
          by_contra disabled
          rw [Bool.not_eq_false] at disabled
          rw [(call.access_calms spurious before.work).disabled disabled] at enabled
          contradiction

/-- A request is open after a turn if it was answered to be new, or was open and not
taken. -/
theorem scheduled_after (sound : tick.before.Sound) (enabled : tick.before.work.disabled = false) :
    tick.after.work.scheduled =
      (tick.requests || tick.before.work.scheduled && !tick.takes) := by
  obtain ⟨before, turn⟩ := tick
  cases turn with
  | call operation => exact (Bool.and_true _).symm
  | access index spurious =>
      cases stands : before.calls[index]? with
      | none =>
          simp only [requests, takes, result?, caller?, after_nobody spurious stands, stands]
          exact (Bool.and_true _).symm
      | some call =>
          have demands := sound.demands call (List.mem_of_getElem? stands)
          have caller : (mk before (.access index spurious)).caller? = some call := stands
          rw [requests, takes, result?_access spurious stands, caller, after_access spurious stands]
          exact call.scheduled_access spurious demands enabled

/-- A runner that abandons a request does not take one. -/
theorem takes_of_abandons (abandons : tick.abandons = true) :
    tick.before.work.scheduled = true ∧ tick.takes = false := by
  obtain ⟨before, turn⟩ := tick
  cases turn with
  | call operation => contradiction
  | access index spurious =>
      unfold Tick.abandons at abandons
      split at abandons
      next ran stands =>
        refine ⟨abandons, ?_⟩
        rw [takes, result?_access spurious stands]
        rfl
      next => contradiction

end Tick

/-! ## Runs -/

namespace Shared

theorem trace_concat (shared : Shared) (turns : List Turn) (turn : Turn) :
    shared.trace (turns ++ [turn]) = shared.trace turns ++ [⟨shared.run turns, turn⟩] := by
  induction turns generalizing shared with
  | nil => rfl
  | cons first later hypothesis => exact congrArg (_ :: ·) (hypothesis (shared.step first))

/-- As long as the work is not disabled, what happened says whether a request is open.
An open one was abandoned, has a runner yet to come, or has one that did not return. -/
structure Accounted (shared : Shared) (trace : List Tick) : Prop where
  requested : shared.work.disabled = false →
    shared.work.scheduled = !FollowedBy Tick.requests Tick.takes trace
  abandoned : shared.work.disabled = false →
    FollowedBy Tick.abandons Tick.takes trace = false → shared.work.scheduled = true
  attended : shared.work.disabled = false → shared.work.scheduled = true →
    FollowedBy Tick.requests Tick.startsRun trace = true →
      FollowedBy Tick.abandons Tick.takes trace = true →
        ∃ call ∈ shared.calls, call.isRunner = true

theorem accounted_fresh : fresh.Accounted [] where
  requested _ := rfl
  abandoned _ lost := absurd lost (by simp [FollowedBy])
  attended _ waits := absurd waits (by simp [fresh])

variable {trace : List Tick}

/-- A runner that did not return stays, or another one is inside. -/
theorem exists_isRunner_after {tick : Tick} (sound : tick.before.Sound)
    (enabled : tick.before.work.disabled = false) (waits : tick.before.work.scheduled = true)
    (kept : tick.abandons = false) (attended : ∃ call ∈ tick.before.calls, call.isRunner = true) :
    ∃ call ∈ tick.after.calls, call.isRunner = true := by
  obtain ⟨call, member, runner⟩ := attended
  obtain ⟨before, turn⟩ := tick
  rcases mem_calls_step turn member with stays | ⟨index, spurious, rfl, stands, moved⟩
  · exact ⟨call, stays, runner⟩
  · -- leaving without a look would have abandoned the request
    have stays : ∀ ran, call ≠ .retreating ran := by
      rintro ran rfl
      simp only [Tick.abandons, Tick.caller?, stands] at kept
      exact Bool.false_ne_true (kept.symm.trans waits)
    rcases Call.isRunner_access spurious runner enabled waits stays with remains | running
    · exact ⟨_, moved, remains⟩
    · -- it was refused, so the flag was set by somebody who is still inside
      have inside := (sound.stepped (before.stepped (.access index spurious))).running_iff
      rw [show (before.step (.access index spurious)).work = _ from
        congrArg work (Tick.after_access spurious stands)] at inside
      obtain ⟨other, present, holds⟩ := inside.mp running
      refine ⟨other, present, ?_⟩
      cases other <;> first | rfl | contradiction

theorem Accounted.after (tick : Tick) (accounted : tick.before.Accounted trace)
    (sound : tick.before.Sound) :
    tick.after.Accounted (trace ++ [tick]) := by
  constructor
  · intro enabled
    have before := tick.enabled_before enabled
    rw [tick.scheduled_after sound before, accounted.requested before, followedBy_concat]
    cases tick.requests <;> cases tick.takes <;> simp
  · intro enabled lost
    have before := tick.enabled_before enabled
    rw [tick.scheduled_after sound before]
    rw [followedBy_concat, Bool.and_eq_false_iff, Bool.or_eq_false_iff, Bool.not_eq_false'] at lost
    rcases lost with ⟨earlier, kept⟩ | abandons
    · rw [accounted.abandoned before earlier, kept]
      exact Bool.or_true _
    · obtain ⟨waits, kept⟩ := tick.takes_of_abandons abandons
      rw [waits, kept]
      exact Bool.or_true _
  · intro enabled waits followed clean
    have before := tick.enabled_before enabled
    rw [followedBy_concat, Bool.and_eq_true, Bool.or_eq_true, Bool.not_eq_true'] at followed clean
    obtain ⟨comes, silent⟩ := followed
    obtain ⟨taken, kept⟩ := clean
    rw [tick.scheduled_after sound before, silent, Bool.false_or, Bool.and_eq_true,
      Bool.not_eq_true'] at waits
    obtain ⟨waits, untaken⟩ := waits
    rw [untaken] at taken
    -- the request was open before; its runner had been to come, or comes now
    rcases comes with comes | starts
    · exact exists_isRunner_after sound before waits kept
        (accounted.attended before waits comes (by simpa using taken))
    · have turn : tick.turn = .call .run := by simpa [Tick.startsRun] using starts
      refine ⟨.entering false, ?_, rfl⟩
      rw [Tick.after, turn]
      exact List.mem_append_right _ (List.mem_singleton_self _)

theorem accounted_run (turns : List Turn) : (fresh.run turns).Accounted (fresh.trace turns) := by
  induction turns using List.reverseRecOn with
  | nil => exact accounted_fresh
  | append_singleton turns turn hypothesis =>
      rw [run_concat, trace_concat]
      exact Accounted.after ⟨fresh.run turns, turn⟩ hypothesis (sound_fresh.run turns)

/-- When every new request was followed by a runner, no call is left and the work is
not disabled, no request is open exactly if every request that a runner abandoned was
taken by a later pass, and then every new request was followed by a pass that took
it. -/
theorem requests_taken_unless_abandoned (turns : List Turn)
    (followed : FollowedBy Tick.requests Tick.startsRun (fresh.trace turns) = true)
    (quiet : (fresh.run turns).isQuiet = true)
    (enabled : (fresh.run turns).work.disabled = false) :
    ((fresh.run turns).work.scheduled = false ↔
        FollowedBy Tick.abandons Tick.takes (fresh.trace turns) = true) ∧
      (FollowedBy Tick.requests Tick.takes (fresh.trace turns) = true ↔
        FollowedBy Tick.abandons Tick.takes (fresh.trace turns) = true) := by
  have accounted := accounted_run turns
  have nobody : ¬ ∃ call ∈ (fresh.run turns).calls, call.isRunner = true := by
    rintro ⟨call, member, runner⟩
    have ended := List.all_eq_true.mp quiet call member
    cases call <;> contradiction
  have closed : (fresh.run turns).work.scheduled = false ↔
      FollowedBy Tick.abandons Tick.takes (fresh.trace turns) = true := by
    constructor
    · intro closed
      by_contra lost
      rw [Bool.not_eq_true] at lost
      rw [accounted.abandoned enabled lost] at closed
      contradiction
    · intro clean
      by_contra waits
      rw [Bool.not_eq_false] at waits
      exact nobody (accounted.attended enabled waits followed clean)
  refine ⟨closed, ?_⟩
  rw [← closed, accounted.requested enabled, Bool.not_eq_false']

/-- The turns of a request made during a pass and the runner that follows it, which
waits until the pass is over.  The pass takes the request as it ends. -/
def followedTurns : List Turn :=
  [.call .schedule, .access 0 false, .access 0 false,
    .call .run, .access 1 false, .access 1 false, .access 1 false,
    .call .schedule, .access 2 false, .access 2 false, .call .run,
    .access 1 false, .access 1 false, .access 1 false, .access 1 false, .access 1 false,
    .access 3 false, .access 3 false, .access 3 false, .access 3 false]

/-- Both requests were taken. -/
theorem requests_taken_unless_abandoned_pass :
    FollowedBy Tick.requests Tick.startsRun (fresh.trace followedTurns) = true ∧
      (fresh.run followedTurns).isQuiet = true ∧
      (fresh.run followedTurns).work.disabled = false ∧
      (fresh.run followedTurns).work.scheduled = false := by
  have facts : FollowedBy Tick.requests Tick.startsRun (fresh.trace followedTurns) = true ∧
      (fresh.run followedTurns).isQuiet = true ∧
      (fresh.run followedTurns).work.disabled = false ∧
      FollowedBy Tick.abandons Tick.takes (fresh.trace followedTurns) = true := by
    decide
  obtain ⟨followed, quiet, enabled, clean⟩ := facts
  obtain ⟨closed, -⟩ := requests_taken_unless_abandoned followedTurns followed quiet enabled
  exact ⟨followed, quiet, enabled, closed.mpr clean⟩

/-- The same turns, except that the second runner, let in after the pass, leaves only
after a third request was made and its runner was refused. -/
def abandonedTurns : List Turn :=
  followedTurns.dropLast ++
    [.call .schedule, .access 4 false, .access 4 false, .call .run, .access 5 false,
      .access 3 false]

/-- Each request was followed by a runner, and every call has returned.  Yet the third
request is open and was never taken. -/
theorem request_abandoned :
    FollowedBy Tick.requests Tick.startsRun (fresh.trace abandonedTurns) = true ∧
      (fresh.run abandonedTurns).isQuiet = true ∧
      (fresh.run abandonedTurns).work.disabled = false ∧
      (fresh.run abandonedTurns).work.scheduled = true ∧
      FollowedBy Tick.requests Tick.takes (fresh.trace abandonedTurns) = false := by
  decide

end Shared

end WlanDatapath.DeferredWork
