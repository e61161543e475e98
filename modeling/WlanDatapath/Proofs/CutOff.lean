import WlanDatapath.Proofs.Inertness
import WlanDatapath.Proofs.PassRequests

/-!
# A teardown in the middle of a pass

A teardown may begin while a frame is being judged.  It then has to wait for the
pass, and the pass winds down: the buffer that is being decoded is decoded to its
end, no other buffer is opened, and every buffer that the pass still takes out goes
back to its slot.  No further pass begins, whatever was requested meanwhile.

`Reception.Winding` says what one step can do to such a pass, and the account of the
rest of the run, `History.WindsDown`, is kept by each of these.

The pass submits no buffer any more.  If the device was still being brought up when
the teardown began, the pass runs inside one of its calls to the transport, so that
bringing up goes on only after the pass, when the teardown does not wait any more and
the rings are empty.  A buffer could be submitted by a bringing up that goes on while
the teardown waits (`Moment.outruns`), and by nothing else.  Where calls nest, as on a
bench, that does not happen (`Bench.Machine.reaches_operations`).
-/

namespace WlanDatapath

/-! ## Observations -/

/-- The buffer that is being decoded, with how far its walk has got. -/
def Pass.reading? : Pass → Option (Work × Walker)
  | .walking work walker | .delivering work walker => some (work, walker)
  | .idle | .popping | .returning _ | .submitting _ => none

namespace Pass

variable {pass : Pass} {work : Work} {walker : Walker}

theorem carried?_of_reading? (reads : pass.reading? = some (work, walker)) :
    pass.carried? = some work := by
  cases pass <;> simp_all [reading?, carried?]

theorem work?_of_reading? (reads : pass.reading? = some (work, walker)) :
    pass.work? = some work := by
  cases pass <;> simp_all [reading?, work?]

theorem upcoming_of_reading? (reads : pass.reading? = some (work, walker)) :
    pass.upcoming = walker.upcoming := by
  cases pass <;> simp_all [reading?, upcoming]

/-- The buffer that a pass takes out of its slot. -/
def popped? (before after : Pass) : Option Work :=
  match before with
  | .popping => after.work?
  | .idle | .walking _ _ | .delivering _ _ | .returning _ | .submitting _ => none

/-- The buffer that a pass puts back without submitting it. -/
def shelved? (before after : Pass) : Option Work :=
  match before, after with
  | .returning work, .popping => some work
  | _, _ => none

/-- A pass that reads neither takes nor puts back. -/
theorem still_of_reading? (reads : pass.reading? = some (work, walker)) (after : Pass) :
    pass.popped? after = none ∧ pass.shelved? after = none := by
  cases pass <;> simp_all [reading?, popped?, shelved?]

theorem shelved?_eq_some {before after : Pass} (shelves : before.shelved? after = some work) :
    before = .returning work ∧ after = .popping := by
  unfold shelved? at shelves
  split at shelves
  · cases shelves
    exact ⟨rfl, rfl⟩
  · cases shelves

end Pass

namespace Reception

variable {reception next : Reception}

/-- The buffer that the pass takes out of its slot to decode it, with the number of
octets that the slot reports. -/
def opened? (reception next : Reception) : Option (Work × Nat) :=
  match reception.pass, next.pass with
  | .popping, .walking work _ =>
      reception.ring.slots[work.index]?.bind fun slot =>
        slot.buffer.map fun buffer => (⟨work.index, slot.handle, buffer⟩, slot.length)
  | _, _ => none

/-- A pass that was not looking for a buffer, or finds none to decode, opens none. -/
theorem opened?_eq_none (unread : reception.pass = .popping → next.pass.reading? = none) :
    reception.opened? next = none := by
  unfold opened?
  split
  next popping walking =>
    have reads := unread popping
    rw [walking] at reads
    cases reads
  next => rfl

end Reception

namespace Moment

/-- The buffer that the pass takes out of its slot to decode it, with the number of
octets that the slot reports. -/
def opened? (moment : Moment) : Option (Work × Nat) :=
  moment.before.reception.opened? moment.after.reception

/-- The buffer that the pass takes out of its slot. -/
def popped? (moment : Moment) : Option Work :=
  moment.before.pass.popped? moment.after.pass

/-- The buffer that the pass puts back without submitting it. -/
def shelved? (moment : Moment) : Option Work :=
  moment.before.pass.shelved? moment.after.pass

/-- Bringing up goes on with posting while a teardown waits for the pass. -/
def outruns (moment : Moment) : Bool :=
  match moment.input with
  | .proceedBringUp => moment.before.bringUp.isPosting && moment.before.teardowns != 0
  | _ => false

end Moment

namespace History

/-- The buffers that the pass took out of their slots to decode them, in order. -/
def opened (history : History) : List (Work × Nat) :=
  history.filterMap Moment.opened?

/-- The buffers that the pass took out of their slots, in order. -/
def popped (history : History) : List Work :=
  history.filterMap Moment.popped?

/-- The buffers that the pass put back without submitting them, in order. -/
def shelved (history : History) : List Work :=
  history.filterMap Moment.shelved?

end History

/-! ## What a pass knows of its buffer -/

namespace Reception

variable {reception next : Reception} {event : Event}

/-- The pass knows the handle of the buffer that it carries.  The buffer that is being
decoded is the one opened last, what is left of it is the end of what its slot reported,
and what came before was asked for last. -/
structure Carries (reception : Reception) (opened : List (Work × Nat))
    (asked : List Segment) : Prop where
  named : ∀ work, reception.pass.carried? = some work →
    reception.ring.handles[work.index]? = some work.handle
  split : ∀ work walker, reception.pass.reading? = some (work, walker) →
    ∃ length earlier seen, opened.getLast? = some (work, length) ∧
      (Segment.walk (work.buffer.octets.take length)).1.filter Segment.isSound =
        seen ++ walker.upcoming ∧ asked = earlier ++ seen

theorem carries_untouched : untouched.Carries [] [] where
  named _ has := by cases has
  split _ _ reads := by cases reads

namespace Carries

variable {opened : List (Work × Nat)} {asked : List Segment}

/-- The pass does not get further. -/
theorem keep (carries : reception.Carries opened asked)
    (handles : next.ring.handles = reception.ring.handles)
    (pass : next.pass = reception.pass) : next.Carries opened asked where
  named := by
    rw [handles, pass]
    exact carries.named
  split := pass ▸ carries.split

/-- The pass has no buffer. -/
theorem of_free (free : next.pass.carried? = none) : next.Carries opened asked where
  named work has := by
    rw [free] at has
    cases has
  split work walker reads := by
    rw [Pass.carried?_of_reading? reads] at free
    cases free

/-- The pass is done with decoding. -/
theorem shut (carries : reception.Carries opened asked) (ring : next.ring = reception.ring)
    (carried : next.pass.carried? = reception.pass.carried?) (unread : next.pass.reading? = none) :
    next.Carries opened asked where
  named := by
    rw [ring, carried]
    exact carries.named
  split work walker reads := by
    rw [unread] at reads
    cases reads

/-- The pass takes a buffer. -/
theorem of_taken {index : Nat} {ring : Ring ReceiveSlot} {slot : ReceiveSlot} {buffer : Buffer}
    (found : ring.slots[index]? = some slot) (vacated : next.ring = ring.vacate index)
    (carried : next.pass.carried? = some ⟨index, slot.handle, buffer⟩)
    (start : ∀ work walker, next.pass.reading? = some (work, walker) →
      ∃ length, opened.getLast? = some (work, length) ∧
        walker = .start (work.buffer.octets.take length)) : next.Carries opened asked where
  named work has := by
    rw [carried, Option.some.injEq] at has
    subst has
    rw [vacated, Ring.handles_vacate]
    exact Ring.handles_of_slot found
  split work walker reads := by
    obtain ⟨length, last, rfl⟩ := start work walker reads
    exact ⟨length, asked, [], last, rfl, (List.append_nil asked).symm⟩

/-- The pass looks at a segment. -/
theorem look (carries : reception.Carries opened asked) {work : Work} {walker later : Walker}
    {passed : List Segment} (ring : next.ring = reception.ring)
    (before : reception.pass.reading? = some (work, walker))
    (carried : next.pass.carried? = reception.pass.carried?)
    (after : next.pass.reading? = some (work, later))
    (upcoming : walker.upcoming = passed ++ later.upcoming) :
    next.Carries opened (asked ++ passed) where
  named := by
    rw [ring, carried]
    exact carries.named
  split other othersWalker reads := by
    rw [after, Option.some.injEq, Prod.mk.injEq] at reads
    obtain ⟨rfl, rfl⟩ := reads
    obtain ⟨length, earlier, seen, last, whole, same⟩ := carries.split work walker before
    exact ⟨length, earlier, seen ++ passed, last,
      by rw [whole, upcoming, List.append_assoc], by rw [same, List.append_assoc]⟩

theorem step (carries : reception.Carries opened asked) (sound : reception.Sound)
    (step : Step reception event next) :
    next.Carries (opened ++ (reception.opened? next).toList)
      (asked ++ (event.asked?.map Prod.fst).toList) := by
  have handles := step.handles_eq
  -- a pass that opens nothing asks for the segments that it looks at
  have unopened : ∀ segments : List Segment,
      (reception.pass = .popping → next.pass.reading? = none) →
      (event.asked?.map Prod.fst).toList = segments → next.Carries opened (asked ++ segments) →
      next.Carries (opened ++ (reception.opened? next).toList)
        (asked ++ (event.asked?.map Prod.fst).toList) := by
    intro segments unread same kept
    rw [opened?_eq_none unread, same]
    simpa using kept
  have silent : event.asked? = none → (reception.pass = .popping → next.pass.reading? = none) →
      next.Carries opened asked →
      next.Carries (opened ++ (reception.opened? next).toList)
        (asked ++ (event.asked?.map Prod.fst).toList) := by
    intro noRequest unread kept
    exact unopened [] unread (by simp [noRequest]) (by simpa using kept)
  cases step with
  | acquired created | acquisitionFailed created =>
      have free : reception.pass = .idle := by
        rw [sound.untouched created]
        rfl
      refine silent rfl (fun popping => by cases free.symm.trans popping) (of_free ?_)
      exact congrArg Pass.carried? free
  | drained _ quiet =>
      have idle : reception.pass = .idle := by
        by_contra active
        rw [sound.running.mpr active] at quiet
        contradiction
      refine silent rfl (fun popping => by cases idle.symm.trans popping) (of_free ?_)
      exact congrArg Pass.carried? idle
  | unchanged | posted | passedOver | slotMissing | cameUp | postTaken | postRefused | filed
  | dismissed | dismissedTo | closed =>
      exact silent rfl (congrArg Pass.reading?) (carries.keep (handles (by simp) (by simp)) rfl)
  | passStarted | kept | taken | refused => exact silent rfl (fun _ => rfl) (of_free rfl)
  | nothingLeft | slotLost =>
      have free : ∀ goesOn : Bool,
          (if goesOn then Pass.popping else .idle).carried? = none ∧
            (if goesOn then Pass.popping else .idle).reading? = none := by
        decide
      exact silent rfl (fun _ => (free _).2) (of_free (free _).1)
  | slotSkipped popping =>
      have free : reception.pass.carried? = none := congrArg Pass.carried? popping
      exact silent rfl (congrArg Pass.reading?) (of_free free)
  | @opened index ring slot buffer popping retired found held =>
      have slots : reception.ring.slots[index]? = some slot := by
        rw [← found, (Ring.retire?_eq_some retired).2.2]
      have last : reception.opened? { reception with
          ring := ring.vacate index
          pass := .walking ⟨index, slot.handle, buffer⟩ (.start (buffer.filled slot.length)) } =
          some (⟨index, slot.handle, buffer⟩, slot.length) := by
        simp [opened?, popping, slots, held]
      rw [last]
      show Carries _ _ (asked ++ [])
      rw [List.append_nil]
      refine of_taken found rfl rfl ?_
      rintro work walker ⟨⟩
      exact ⟨slot.length, by simp, rfl⟩
  | setAside popping retired found =>
      exact silent rfl (fun _ => rfl) (of_taken found rfl rfl fun _ _ reads => by cases reads)
  | walked walking =>
      refine silent rfl (fun _ => rfl) (carries.shut rfl ?_ rfl)
      rw [walking]
      rfl
  | rejected walking found rejection =>
      refine unopened _ (fun popping => by cases walking.symm.trans popping) rfl
        (carries.look rfl (by rw [walking]; rfl) (by rw [walking]; rfl) rfl ?_)
      rw [Walker.upcoming_of_found found]
      simp [Segment.isSound, rejection, Event.asked?]
  | dropped walking found sound | handedUp walking found sound =>
      refine unopened _ (fun popping => by cases walking.symm.trans popping) rfl
        (carries.look rfl (by rw [walking]; rfl) (by rw [walking]; rfl) rfl ?_)
      rw [Walker.upcoming_of_found found]
      simp [Segment.isSound, sound, Event.asked?]
  | judged delivering =>
      exact unopened _ (fun popping => by cases delivering.symm.trans popping) rfl
        (carries.look rfl (by rw [delivering]; rfl) (by rw [delivering]; rfl) rfl rfl)
  | givenBack returning =>
      refine silent rfl (fun _ => rfl) (carries.shut rfl ?_ rfl)
      rw [returning]
      rfl

end Carries

/-- What one step can do to a pass of a dead device, with the segments that it asks
for. -/
inductive Winding (reception next : Reception) : List Segment → Prop where
  | rested (pass : next.pass = reception.pass) : Winding reception next []
  | ended (popping : reception.pass = .popping) (idle : next.pass = .idle) :
      Winding reception next []
  | skipped (popping : reception.pass = .popping) (again : next.pass = .popping) :
      Winding reception next []
  | popped {work} (popping : reception.pass = .popping) (returning : next.pass = .returning work) :
      Winding reception next []
  | looked {work walker later asked} (before : reception.pass.reading? = some (work, walker))
      (after : next.pass.reading? = some (work, later))
      (upcoming : walker.upcoming = asked ++ later.upcoming) : Winding reception next asked
  | decoded {work walker} (before : reception.pass.reading? = some (work, walker))
      (exhausted : walker.upcoming = []) (returning : next.pass = .returning work) :
      Winding reception next []
  | shelved {work} (returning : reception.pass = .returning work) (popping : next.pass = .popping)
      (ring : next.ring = reception.ring.putBack work.index work.buffer) :
      Winding reception next []

/-- A device that is dead and whose pass has submitted nothing, which no pass
follows.  Once no teardown waits, its ring is empty. -/
structure Shut (reception : Reception) : Prop where
  dead : reception.stage = .dead
  disabled : reception.deferred.disabled = true
  unsubmitted : ∀ work, reception.pass ≠ .submitting work
  emptied : reception.teardowns ≠ 0 ∨ reception.ring.handles = []

/-- What a pass does once the device is shut. -/
theorem Step.winding (step : Step reception event next) (shut : reception.Shut) :
    Winding reception next (event.asked?.map Prod.fst).toList := by
  obtain ⟨dead, disabled, unsubmitted, -⟩ := shut
  have closed : reception.stage.accepts = false := by
    rw [dead]
    rfl
  have last : reception.deferred.leave.1 = false := by
    simp [DeferredWork.leave, disabled]
  cases step with
  | acquired created | acquisitionFailed created =>
      rw [dead] at created
      contradiction
  | passStarted entered => simp [disabled] at entered
  | opened _ _ _ _ _ accepts | givenBack _ accepts =>
      rw [closed] at accepts
      contradiction
  | taken submitting | refused submitting => exact absurd submitting (unsubmitted _)
  | nothingLeft popping | slotLost popping => exact .ended popping (by simp [leave, last])
  | slotSkipped popping => exact .skipped popping popping
  | setAside popping => exact .popped popping rfl
  | walked walking exhausted =>
      exact .decoded (by rw [walking]; rfl) (Walker.upcoming_of_over exhausted) rfl
  | rejected walking found rejection =>
      refine .looked (by rw [walking]; rfl) rfl ?_
      rw [Walker.upcoming_of_found found]
      simp [Segment.isSound, rejection, Event.asked?]
  | dropped walking found sound | handedUp walking found sound =>
      refine .looked (by rw [walking]; rfl) rfl ?_
      rw [Walker.upcoming_of_found found]
      simp [Segment.isSound, sound, Event.asked?]
  | judged delivering => exact .looked (by rw [delivering]; rfl) rfl rfl
  | kept returning => exact .shelved returning rfl rfl
  | unchanged | posted | passedOver | slotMissing | cameUp | postTaken | postRefused | filed
  | dismissed | dismissedTo | closed | drained => exact .rested rfl

/-- A device that is shut stays so. -/
theorem Shut.step (shut : reception.Shut) (step : Step reception event next) : next.Shut where
  dead := by
    by_contra alive
    exact step.alive alive shut.dead
  disabled := by
    have disabled := shut.disabled
    cases step with
    | passStarted entered => simp [disabled] at entered
    | filed => exact (DeferredWork.disabled_schedule _).trans disabled
    | nothingLeft | slotLost => exact (DeferredWork.disabled_leave _).trans disabled
    | acquisitionFailed | slotMissing | postRefused | closed => rfl
    | unchanged | acquired | posted | passedOver | cameUp | postTaken | dismissed | dismissedTo
    | slotSkipped | opened | setAside | walked | rejected | dropped | handedUp | judged | givenBack
    | kept | taken | refused | drained => exact disabled
  unsubmitted work submitting := by
    have winding := step.winding shut
    generalize (event.asked?.map Prod.fst).toList = asked at winding
    cases winding with
    | rested pass => exact shut.unsubmitted work (pass ▸ submitting)
    | ended _ after | skipped _ after | popped _ after | decoded _ _ after | shelved _ after =>
        cases submitting.symm.trans after
    | looked _ after =>
        rw [submitting] at after
        cases after
  emptied := by
    have handles := step.handles_eq
    cases step with
    | acquired created | acquisitionFailed created =>
        rw [shut.dead] at created
        contradiction
    | slotMissing | postRefused | closed => exact Or.inl (Nat.succ_ne_zero _)
    | nothingLeft | slotLost | unchanged | posted | passedOver | cameUp | postTaken | filed
    | dismissed | dismissedTo | passStarted | slotSkipped | opened | setAside | walked | rejected
    | dropped | handedUp | judged | givenBack | kept | taken | refused =>
        exact shut.emptied.imp_right (handles (by simp) (by simp)).trans
    | drained => exact Or.inr rfl

namespace Winding

variable {asked : List Segment}

/-- No buffer is opened. -/
theorem reading (winding : Winding reception next asked) {work : Work} {walker : Walker}
    (reads : next.pass.reading? = some (work, walker)) :
    ∃ earlier, reception.pass.reading? = some (work, earlier) := by
  cases winding with
  | rested pass => exact ⟨walker, pass ▸ reads⟩
  | ended _ after | skipped _ after | popped _ after | decoded _ _ after | shelved _ after =>
      rw [after] at reads
      cases reads
  | @looked other earlier later _ before after =>
      rw [after, Option.some.injEq, Prod.mk.injEq] at reads
      obtain ⟨rfl, rfl⟩ := reads
      exact ⟨earlier, before⟩

/-- What is asked for is what comes next in the buffer that is being decoded. -/
theorem upcoming (winding : Winding reception next asked) :
    reception.pass.upcoming = asked ++ next.pass.upcoming := by
  cases winding with
  | rested pass => rw [pass, List.nil_append]
  | ended before after | skipped before after | popped before after | shelved before after =>
      rw [before, after]
      rfl
  | looked before after upcoming =>
      rw [Pass.upcoming_of_reading? before, Pass.upcoming_of_reading? after, upcoming]
  | decoded before exhausted after =>
      rw [Pass.upcoming_of_reading? before, exhausted, after]
      rfl

/-- The pass has a buffer from taking it out to putting it back. -/
theorem carried (winding : Winding reception next asked) :
    reception.pass.work?.toList ++ (reception.pass.popped? next.pass).toList =
      (reception.pass.shelved? next.pass).toList ++ next.pass.work?.toList := by
  cases winding with
  | rested pass =>
      rw [pass]
      cases reception.pass <;> rfl
  | ended before after | skipped before after | popped before after | shelved before after =>
      rw [before, after]
      rfl
  | looked before after =>
      obtain ⟨unpopped, unshelved⟩ := Pass.still_of_reading? before next.pass
      rw [unpopped, unshelved, Pass.work?_of_reading? before, Pass.work?_of_reading? after]
      rfl
  | decoded before _ after =>
      obtain ⟨unpopped, unshelved⟩ := Pass.still_of_reading? before next.pass
      rw [unpopped, unshelved, Pass.work?_of_reading? before, after]
      rfl

/-- A buffer that is put back goes into its slot, if the slot is empty. -/
theorem shelves (winding : Winding reception next asked) {work : Work}
    (shelves : reception.pass.shelved? next.pass = some work) :
    next.ring = reception.ring.putBack work.index work.buffer := by
  obtain ⟨returning, popping⟩ := Pass.shelved?_eq_some shelves
  cases winding with
  | rested pass => cases (pass.symm.trans popping).symm.trans returning
  | ended before | skipped before | popped before => cases before.symm.trans returning
  | looked before | decoded before =>
      rw [returning] at before
      cases before
  | shelved before _ ring =>
      cases before.symm.trans returning
      exact ring

end Winding

/-- The only buffer that is still submitted is the next one that bringing up posts,
while a teardown waits. -/
theorem Shut.submitted (shut : reception.Shut) (step : Step reception event next) {handle : Handle}
    (submits : event.submitted? = some handle) :
    reception.teardowns ≠ 0 ∧ ∃ index buffer, reception.bringUp = .posting index ∧
      next.bringUp = .submitting ⟨index, handle, buffer⟩ := by
  cases step with
  | posted posting _ found =>
      cases submits
      refine ⟨shut.emptied.resolve_right fun empty => ?_, _, _, posting, rfl⟩
      have named := Ring.handles_of_slot found
      rw [empty] at named
      contradiction
  | givenBack _ accepts =>
      rw [shut.dead] at accepts
      contradiction
  | _ => cases submits

theorem Shut.isPosting (shut : reception.Shut) (step : Step reception event next)
    (posting : next.bringUp.isPosting = true) : reception.bringUp.isPosting = true := by
  cases step with
  | acquired created =>
      rw [shut.dead] at created
      contradiction
  | posted before | passedOver before | postTaken before => rw [before]; rfl
  | acquisitionFailed | slotMissing | postRefused | cameUp => cases posting
  | drained _ _ waiting =>
      rcases waiting with rfl | ⟨-, rfl⟩
      · exact posting
      · cases posting
  | _ => exact posting

end Reception

/-! ## Moments -/

/-- Once the work is disabled, a pass takes no request. -/
theorem Engine.scheduled_popReceive (engine : Engine)
    (disabled : engine.deferred.disabled = true) :
    engine.popReceive.deferred.scheduled = engine.deferred.scheduled := by
  have left : engine.deferred.leave.2.scheduled = engine.deferred.scheduled := by
    simp [DeferredWork.leave, disabled]
  unfold popReceive
  split
  · exact left
  · split
    · exact left
    · split <;> rfl

namespace Moment

/-- What a moment can be while a pass winds down that was decoding a buffer. -/
structure WindsDown (work : Work) (moment : Moment) : Prop where
  /-- No buffer is opened: one that is decoded was being decoded already. -/
  read : ∀ other walker, moment.after.pass.reading? = some (other, walker) →
    other = work ∧ ∃ earlier, moment.before.pass.reading? = some (work, earlier)
  /-- A buffer that is submitted is the next one that bringing up posts, and bringing up
  has gone on while the teardown waits. -/
  submitted : ∀ handle ∈ moment.reposted, moment.outruns = true ∧ ∃ index buffer,
    moment.before.bringUp = .posting index ∧
      moment.after.bringUp = .submitting ⟨index, handle, buffer⟩
  /-- No pass begins, and none follows the one that ends. -/
  unstarted : moment.beginsPass = false
  /-- A buffer that the pass is done with goes back into the slot that it came from,
  unless that slot has got another one. -/
  shelved : ∀ other, moment.shelved? = some other →
    moment.before.receive.handles[other.index]? = some other.handle ∧
      (moment.before.receive.buffer? other.index = none →
        moment.after.receive.buffer? other.index = some other.buffer) ∧
      (moment.before.receive.buffer? other.index ≠ none →
        moment.after.receive = moment.before.receive)
  /-- The teardown is not finished before the pass is over. -/
  waits : moment.isReleased = true → moment.before.pass = .idle

/-- Buffers are posted by the steps of bringing up. -/
theorem outruns_of_posts {moment : Moment} {index : Nat} {work : Work}
    (waits : moment.before.teardowns ≠ 0) (before : moment.before.bringUp = .posting index)
    (after : moment.after.bringUp = .submitting work) (submits : moment.reposted ≠ []) :
    moment.outruns = true := by
  obtain ⟨engine, input⟩ := moment
  have possible : Effect.Kind.submitReceive ∈ input.kinds := by
    by_contra other
    exact submits (reposted_eq_nil ⟨engine, input⟩ other)
  cases input with
  | proceedBringUp =>
      replace before : engine.bringUp = .posting index := before
      simpa [outruns, before, BringUp.isPosting] using waits
  | proceedPass memory =>
      have reception : (mk engine (.proceedPass memory)).input.isReception = true := rfl
      cases before.symm.trans ((receives reception).bringUp.symm.trans after)
  | startBringUp | answerPost | completeReceive | startPass | answerDelivery | answerRepost
  | enqueue | completeTransmit | finishStatistics | beginTeardown | finishTeardown =>
      simp [Input.kinds] at possible

/-- No pass begins once the work is disabled. -/
theorem beginsPass_of_disabled {moment : Moment}
    (disabled : moment.before.deferred.disabled = true) : moment.beginsPass = false := by
  obtain ⟨engine, input⟩ := moment
  replace disabled : engine.deferred.disabled = true := disabled
  cases input with
  | startPass => simp [beginsPass, Engine.startPass, disabled]
  | proceedPass memory =>
      cases popping : engine.pass with
      | popping =>
          -- the request that is open, if any, stays open, so no pass has taken it
          have balance := engine.begins_popReceive
          rw [engine.scheduled_popReceive disabled] at balance
          have none : (engine.isExhausted && engine.popReceive.pass == .popping).toNat = 0 := by
            omega
          rw [Bool.toNat_eq_zero] at none
          simpa [beginsPass, Engine.proceedPass?, popping] using none
      | idle | walking | delivering | returning | submitting => simp [beginsPass, popping]
  | startBringUp | proceedBringUp | answerPost | completeReceive | answerDelivery | answerRepost
  | enqueue | completeTransmit | finishStatistics | beginTeardown | finishTeardown => rfl

/-- A teardown is not finished before the pass is over. -/
theorem idle_of_isReleased {moment : Moment} (sound : moment.before.Sound)
    (released : moment.isReleased = true) : moment.before.pass = .idle := by
  obtain ⟨finished, bringUp, finish, -⟩ := Engine.finished_of_isReleased released
  obtain ⟨-, quiet, -⟩ := Engine.finishTeardown?_eq_some finish
  by_contra active
  have running := sound.reception.running.mpr active
  rw [Engine.reception, quiet] at running
  contradiction

end Moment

/-- A buffer that is put back into its slot takes nobody's place. -/
theorem Ring.putBack_own {ring : Ring ReceiveSlot} {index : Nat} {handle : Handle}
    (named : ring.handles[index]? = some handle) (buffer : Buffer) :
    (ring.buffer? index = none → (ring.putBack index buffer).buffer? index = some buffer) ∧
      (ring.buffer? index ≠ none → ring.putBack index buffer = ring) := by
  constructor
  · intro vacant
    rw [buffer?_putBack (lt_of_handles named) vacant, if_pos rfl]
  · intro held
    obtain ⟨own, holds⟩ := Option.ne_none_iff_exists'.mp held
    obtain ⟨slot, found, has⟩ := buffer?_eq_some_iff.mp holds
    have same : ring.slots.modify index (ReceiveSlot.putBack buffer) = ring.slots := by
      apply List.ext_getElem?
      intro place
      rw [List.getElem?_modify]
      split
      next here =>
        subst here
        rw [found, Option.map_eq_map, Option.map_some, ReceiveSlot.putBack_of_buffer has]
      next => simp
    rw [putBack, modify, same]

/-- A moment at which a pass winds down. -/
theorem Moment.windsDown {moment : Moment} {work : Work} {opened : List (Work × Nat)}
    {asked : List Segment} (sound : moment.before.Sound) (shut : moment.before.reception.Shut)
    (carries : moment.before.reception.Carries opened asked)
    (reading : ∀ other walker, moment.before.pass.reading? = some (other, walker) → other = work) :
    moment.WindsDown work := by
  obtain ⟨event, step, tells⟩ := moment.reception_step
  have winding := step.winding shut
  refine ⟨?_, ?_, moment.beginsPass_of_disabled shut.disabled, ?_,
    moment.idle_of_isReleased sound⟩
  · intro other walker reads
    obtain ⟨earlier, before⟩ := winding.reading reads
    obtain rfl := reading other earlier before
    exact ⟨rfl, earlier, before⟩
  · intro handle submits
    have some := submits
    rw [tells.reposted, Option.mem_toList] at some
    obtain ⟨waits, index, buffer, before, after⟩ := shut.submitted step some
    exact ⟨moment.outruns_of_posts waits before after (List.ne_nil_of_mem submits), index,
      buffer, before, after⟩
  · intro other shelves
    have has : moment.before.pass.carried? = some other := by
      rw [(Pass.shelved?_eq_some shelves).1]
      rfl
    have named := carries.named other has
    have ring : moment.after.receive = moment.before.receive.putBack other.index other.buffer :=
      winding.shelves shelves
    rw [ring]
    exact ⟨named, Ring.putBack_own named other.buffer⟩

namespace History

@[simp]
theorem popped_concat (history : History) (moment : Moment) :
    popped (history ++ [moment]) = history.popped ++ moment.popped?.toList := by
  simp [popped, List.filterMap_eq_flatMap_toList]

@[simp]
theorem opened_concat (history : History) (moment : Moment) :
    opened (history ++ [moment]) = history.opened ++ moment.opened?.toList := by
  simp [opened, List.filterMap_eq_flatMap_toList]

@[simp]
theorem shelved_concat (history : History) (moment : Moment) :
    shelved (history ++ [moment]) = history.shelved ++ moment.shelved?.toList := by
  simp [shelved, List.filterMap_eq_flatMap_toList]

theorem asked_concat (history : History) (moment : Moment) :
    asked (history ++ [moment]) = history.asked ++ moment.asked?.toList := by
  simp [asked, List.filterMap_eq_flatMap_toList]

/-- What holds of an engine in the middle of whose pass a teardown began, and of what
happened since.  Whether buffers were being posted then, which buffer was being decoded
and which of its segments were left is given. -/
structure WindsDown (posted : Bool) (work : Work) (rest : List Segment) (engine : Engine)
    (later : History) : Prop where
  sound : engine.Sound
  shut : engine.reception.Shut
  carries : ∃ opened asked, engine.reception.Carries opened asked
  reading : ∀ other walker, engine.pass.reading? = some (other, walker) → other = work
  posting : engine.bringUp.isPosting = true → posted = true
  upcoming : later.asked.map Prod.fst ++ engine.pass.upcoming = rest
  carried : work :: later.popped = later.shelved ++ engine.pass.work?.toList
  moments : ∀ moment ∈ later, moment.WindsDown work ∧ (moment.reposted ≠ [] → posted = true)

theorem WindsDown.after {posted : Bool} {work : Work} {rest : List Segment} {later : History}
    {moment : Moment} (winds : WindsDown posted work rest moment.before later) :
    WindsDown posted work rest moment.after (later ++ [moment]) := by
  obtain ⟨event, step, tells⟩ := moment.reception_step
  obtain ⟨opened, asked, carries⟩ := winds.carries
  have winding := step.winding winds.shut
  have last := Moment.windsDown winds.sound winds.shut carries winds.reading
  have upcoming : moment.before.pass.upcoming =
      moment.asked?.toList.map Prod.fst ++ moment.after.pass.upcoming := by
    rw [tells.asked]
    exact winding.upcoming.trans (by cases event.asked? <;> rfl)
  have carried : moment.before.pass.work?.toList ++ moment.popped?.toList =
      moment.shelved?.toList ++ moment.after.pass.work?.toList := winding.carried
  refine ⟨winds.sound.after, winds.shut.step step, ⟨_, _, carries.step winds.sound.reception step⟩,
    fun other walker reads => (last.read other walker reads).1, ?_, ?_, ?_, ?_⟩
  · exact fun posting => winds.posting (winds.shut.isPosting step posting)
  · rw [asked_concat, List.map_append, List.append_assoc, ← upcoming, winds.upcoming]
  · rw [popped_concat, shelved_concat, List.append_assoc, ← carried, ← List.append_assoc,
      ← winds.carried, List.cons_append]
  · rw [List.forall_mem_append, List.forall_mem_singleton]
    refine ⟨winds.moments, last, fun submits => winds.posting ?_⟩
    obtain ⟨handle, member⟩ := List.exists_mem_of_ne_nil _ submits
    obtain ⟨-, index, buffer, posting, -⟩ := last.submitted handle member
    rw [posting]
    rfl

/-- A pass winds down from the moment that a teardown begins in the middle of it. -/
theorem WindsDown.begin {cut : Engine} {work : Work} {walker : Walker}
    {opened : List (Work × Nat)} {asked : List Segment} (sound : cut.Sound)
    (carries : cut.reception.Carries opened asked)
    (delivering : cut.pass = .delivering work walker) :
    WindsDown cut.bringUp.isPosting work walker.upcoming cut.beginTeardown.1 [] := by
  have place : cut.beginTeardown.1.pass = .delivering work walker := delivering
  have unsubmitted : ∀ other, cut.beginTeardown.1.pass ≠ .submitting other := by
    intro other submitting
    cases place.symm.trans submitting
  exact
    { sound := @Engine.Sound.after ⟨cut, .beginTeardown⟩ sound
      shut := ⟨rfl, rfl, unsubmitted, Or.inl (Nat.succ_ne_zero _)⟩
      carries := ⟨_, _, carries.keep rfl rfl⟩
      reading := by
        rw [place]
        rintro other later ⟨⟩
        rfl
      posting := id
      upcoming := by
        rw [place]
        rfl
      carried := by
        rw [place]
        rfl
      moments := by simp }

/-- While a pass winds down, no buffer is submitted by any but a bringing up that outruns
the teardown. -/
theorem WindsDown.unsubmitted {engine : Engine} {posted : Bool} {work : Work}
    {rest : List Segment} {later : History} (winds : WindsDown posted work rest engine later)
    (calm : posted = false ∨ ∀ moment ∈ later, moment.outruns = false) :
    ∀ moment ∈ later, moment.reposted = [] := by
  intro moment member
  by_contra submits
  obtain ⟨last, posting⟩ := winds.moments moment member
  obtain ⟨handle, submitted⟩ := List.exists_mem_of_ne_nil _ submits
  rcases calm with quiet | behind
  · have posted := posting submits
    rw [quiet] at posted
    contradiction
  · have outruns := (last.submitted handle submitted).1
    rw [behind moment member] at outruns
    contradiction

end History

namespace Engine

/-- On every run the pass knows its buffer. -/
theorem carries_run (config : Config) (inputs : List Input) :
    ((fresh config).run inputs).1.reception.Carries ((fresh config).history inputs).opened
      (((fresh config).history inputs).asked.map Prod.fst) := by
  refine (History.invariant (fun engine history => engine.Sound ∧
    engine.reception.Carries history.opened (history.asked.map Prod.fst))
    ⟨sound_fresh config, Reception.carries_untouched⟩ ?_ inputs).2
  rintro history moment ⟨sound, carries⟩
  obtain ⟨event, step, tells⟩ := moment.reception_step
  refine ⟨sound.after, ?_⟩
  have next := carries.step sound.reception step
  rw [History.opened_concat, History.asked_concat, List.map_append, tells.asked]
  cases requested : event.asked? <;> simpa [requested, Moment.opened?] using next

/-- A run up to the first frame of a buffer with two, while another buffer waits. -/
def cutInputs : List Input :=
  let segment : Segment := ⟨(0, 0), .blank, [8, 0, 0, 0], ⟨0⟩⟩
  let all : Memory := fun _ => true
  bringUpInputs ++
    [.completeReceive ⟨384, ⟨segment.encode ++ segment.encode⟩, .ok, 72⟩,
      .completeReceive ⟨385, ⟨segment.encode⟩, .ok, 36⟩, .startPass, .proceedPass all,
      .proceedPass all]

/-- A teardown that begins in a pass run inside bringing up.  When the pass is over the
teardown is finished, and then bringing up finds no slot any more and fails. -/
example :
    let segment : Segment := ⟨(0, 0), .blank, [8, 0, 0, 0], ⟨0⟩⟩
    let next : Input := .proceedPass fun _ => true
    let before : List Input :=
      [.startBringUp .ample, .proceedBringUp, .answerPost none, .proceedBringUp,
        .completeReceive ⟨384, ⟨segment.encode⟩, .ok, 36⟩, .startPass, next, next]
    let after : List Input :=
      [.answerDelivery true, next, next, next, .finishTeardown, .answerPost none,
        .proceedBringUp, .proceedBringUp]
    let cut := ((fresh .small).run before).1
    let later := cut.beginTeardown.1.history after
    cut.bringUp.isPosting = true ∧ (∀ moment ∈ later, moment.outruns = false) ∧
      (∀ moment ∈ later, moment.reposted = []) ∧
      (cut.beginTeardown.1.run after).1.bringUp = .idle := by
  decide +kernel

end Engine

end WlanDatapath
