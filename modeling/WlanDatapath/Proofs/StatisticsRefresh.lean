import Mathlib.Data.List.DropRight
import WlanDatapath.Proofs.DeviceMoves

/-!
# One reading of statistics at a time

Readings of statistics are scheduled by the engine and are over when its surroundings
say so.  If they say so at most once for each reading that was scheduled before, then
at most one reading is outstanding, and the claim of the device says whether there is
one (`Engine.schedules_run`).

None is forgotten either.  The note that frames were completed is set exactly if a
transfer ended well since a reading was over (`Engine.moreStatistics_run`), and it
decides whether a reading that is over is followed by another one.
-/

namespace WlanDatapath

namespace Device

@[simp]
theorem moreStatistics_noteRemoval (device : Device) :
    device.noteRemoval.2.moreStatistics = device.moreStatistics := by
  unfold noteRemoval
  split <;> rfl

@[simp]
theorem readingStatistics_noteRemoval (device : Device) :
    device.noteRemoval.2.readingStatistics = device.readingStatistics := by
  unfold noteRemoval
  split <;> rfl

@[simp]
theorem moreStatistics_start (device : Device) :
    device.start.2.moreStatistics = device.moreStatistics := by
  unfold start
  split <;> rfl

@[simp]
theorem readingStatistics_start (device : Device) :
    device.start.2.readingStatistics = device.readingStatistics := by
  unfold start
  split <;> rfl

end Device

/-! ## Moments -/

namespace Moment

namespace DeviceMove

variable {moment : Moment} {device : Device} {delays : List Nat}

/-- The note that frames were completed is set by a transfer that ends well and taken
by a reading that is over. -/
theorem moreStatistics (move : moment.DeviceMove device delays) :
    device.moreStatistics =
      (!moment.finishes && (moment.before.device.moreStatistics || moment.completesWell)) := by
  cases move with
  | kept calm | started calm | killed calm | postRefused calm | repostRefused calm
  | frameRefused calm => simp [calm.1, calm.2, Device.kill]
  | completed unfinished well =>
      simp [unfinished, well, Device.noteCompletion, Device.claimReading]
  | reread finish | released finish =>
      simp [finish, Device.takeCompletions, Device.releaseReading]

/-- A transfer that ends well has statistics read unless they are being read.  No
other moment but the end of a reading has. -/
theorem of_unfinished (move : moment.DeviceMove device delays)
    (unfinished : moment.finishes = false) :
    device.readingStatistics =
        (moment.before.device.readingStatistics || moment.completesWell) ∧
      delays = if moment.completesWell && !moment.before.device.readingStatistics then
          [moment.before.config.statisticsDelay]
        else [] := by
  cases move with
  | kept calm | started calm | killed calm | postRefused calm | repostRefused calm
  | frameRefused calm => simp [calm.2, Device.kill]
  | completed _ well =>
      cases reading : moment.before.device.readingStatistics <;>
        simp [well, Device.noteCompletion, Device.claimReading]
  | reread finish | released finish =>
      rw [unfinished] at finish
      contradiction

/-- The end of a transfer is not the end of a reading. -/
theorem unfinished (move : moment.DeviceMove device delays)
    (well : moment.completesWell = true) : moment.finishes = false := by
  cases move with
  | kept calm | started calm | killed calm | postRefused calm | repostRefused calm
  | frameRefused calm => exact calm.1
  | completed unfinished => exact unfinished
  | reread _ unsent | released _ unsent =>
      rw [well] at unsent
      contradiction

/-- A reading that is over is followed by another one if frames were completed and the
device accepts.  Otherwise the claim is given up. -/
theorem of_finishes (move : moment.DeviceMove device delays)
    (finish : moment.finishes = true) :
    let again := moment.before.device.moreStatistics && moment.before.device.accepts
    device.readingStatistics = (moment.before.device.readingStatistics && again) ∧
      delays = if again then [moment.before.config.statisticsRequeueDelay] else [] := by
  intro again
  cases move with
  | kept calm | started calm | killed calm | postRefused calm | repostRefused calm
  | frameRefused calm =>
      rw [calm.1] at finish
      contradiction
  | completed unfinished =>
      rw [unfinished] at finish
      contradiction
  | reread _ _ more accepts => simp [again, more, accepts, Device.takeCompletions]
  | released _ _ unneeded =>
      simp [again, unneeded, Device.takeCompletions, Device.releaseReading]

end DeviceMove

end Moment

/-! ## Runs -/

namespace History

variable (history : History) (moment : Moment)

/-- How many readings of statistics were scheduled. -/
def schedules : Nat :=
  (history.flatMap Moment.scheduled).length

/-- How many readings of statistics are over. -/
def finishes : Nat :=
  history.countP Moment.finishes

/-- The moments behind the last one at which a reading was over. -/
def sinceFinish : History :=
  history.rtakeWhile fun moment => !moment.finishes

/-- A transfer ended well since a reading was over. -/
def hasCompleted : Bool :=
  (sinceFinish history).any Moment.completesWell

theorem schedules_concat :
    schedules (history ++ [moment]) = schedules history + moment.scheduled.length := by
  simp [schedules]

theorem finishes_concat :
    finishes (history ++ [moment]) = finishes history + moment.finishes.toNat := by
  cases finish : moment.finishes <;> simp [finishes, finish]

theorem hasCompleted_concat :
    hasCompleted (history ++ [moment]) =
      (!moment.finishes && (hasCompleted history || moment.completesWell)) := by
  cases finish : moment.finishes <;>
    simp [hasCompleted, sinceFinish, finish]

/-- Each reading that is over was scheduled before, and none is over twice. -/
def Answered (history : History) : Prop :=
  Throughout (fun past moment => moment.finishes = true → finishes past < schedules past) history

instance (history : History) : Decidable (Answered history) :=
  inferInstanceAs (Decidable (Throughout _ _))

end History

namespace Engine

variable (config : Config) (inputs : List Input)

/-- The note that frames were completed is set if a transfer ended well since a reading
was over. -/
theorem moreStatistics_run :
    ((fresh config).run inputs).1.device.moreStatistics =
      History.hasCompleted ((fresh config).history inputs) := by
  refine History.invariant
    (fun engine history => engine.device.moreStatistics = History.hasCompleted history) rfl
    ?_ inputs
  intro history moment before
  rw [moment.deviceMove.moreStatistics, History.hasCompleted_concat, before]

/-- Frames are only noted as completed while statistics are being read. -/
theorem readingStatistics_of_moreStatistics
    (more : ((fresh config).run inputs).1.device.moreStatistics = true) :
    ((fresh config).run inputs).1.device.readingStatistics = true := by
  refine History.invariant (fun engine _ => engine.device.moreStatistics = true →
    engine.device.readingStatistics = true) (by simp [fresh]) ?_ inputs more
  intro history moment before more
  rw [moment.deviceMove.moreStatistics] at more
  cases finish : moment.finishes with
  | true => simp [finish] at more
  | false =>
      rw [(moment.deviceMove.of_unfinished finish).1]
      simp only [finish, Bool.not_false, Bool.true_and, Bool.or_eq_true] at more ⊢
      exact more.imp_left before

/-- The claim to read statistics stands for the one reading that is outstanding. -/
theorem schedules_run (answered : History.Answered ((fresh config).history inputs)) :
    History.schedules ((fresh config).history inputs) =
      History.finishes ((fresh config).history inputs) +
        ((fresh config).run inputs).1.device.readingStatistics.toNat := by
  refine History.invariant (fun engine history => History.Answered history →
    History.schedules history =
      History.finishes history + engine.device.readingStatistics.toNat)
    (fun _ => rfl) ?_ inputs answered
  intro history moment before answered
  obtain ⟨early, late⟩ := Throughout.concat_iff.mp answered
  rw [History.schedules_concat, History.finishes_concat, before early]
  cases finish : moment.finishes with
  | true =>
      -- the reading that is over was the one outstanding
      have outstanding := late finish
      rw [before early] at outstanding
      have claimed : moment.before.device.readingStatistics = true := by
        by_contra free
        rw [Bool.eq_false_of_not_eq_true free] at outstanding
        exact lt_irrefl _ outstanding
      obtain ⟨reading, delays⟩ := moment.deviceMove.of_finishes finish
      rw [reading, delays, claimed]
      cases moment.before.device.moreStatistics && moment.before.device.accepts <;> simp
  | false =>
      obtain ⟨reading, delays⟩ := moment.deviceMove.of_unfinished finish
      rw [reading, delays]
      cases moment.completesWell <;> cases moment.before.device.readingStatistics <;> simp

/-- A device that was dead once is dead. -/
theorem dead_of_past {moment : Moment} (member : moment ∈ (fresh config).history inputs)
    (dead : moment.after.device.stage = .dead) :
    ((fresh config).run inputs).1.device.stage = .dead := by
  obtain ⟨later, goes⟩ := run_of_mem member
  rw [goes]
  exact dead_run dead later

/-- **One reading of statistics at a time, and none forgotten.**

Readings that are over were scheduled before, each of them once.  Then, wherever the run
has got to, the readings that were scheduled are those that are over and one more
exactly if the claim to read is held, and frames are only noted as completed while it is.

At every moment before, a transfer that ends well has statistics read if they were not
being read.  A reading that is over on a device that accepts is followed by another one
exactly if a transfer ended well since the last one was over.  Once the device is dead
none follows. -/
theorem one_reading_at_a_time (config : Config) (inputs : List Input)
    (answered : History.Answered ((fresh config).history inputs)) :
    let history := (fresh config).history inputs
    let device := ((fresh config).run inputs).1.device
    History.schedules history = History.finishes history + device.readingStatistics.toNat ∧
      (device.moreStatistics = true → device.readingStatistics = true) ∧
      Throughout (fun past moment =>
        (moment.completesWell = true → moment.scheduled =
          if moment.before.device.readingStatistics then [] else [config.statisticsDelay]) ∧
        (moment.finishes = true → moment.before.device.accepts = true → moment.scheduled =
          if History.hasCompleted past then [config.statisticsRequeueDelay] else []) ∧
        (moment.finishes = true →
          (∃ earlier ∈ past, earlier.after.device.stage = .dead) → moment.scheduled = []) ∧
        (moment.finishes = false → moment.completesWell = false → moment.scheduled = []))
        history := by
  intro history device
  refine ⟨schedules_run config inputs answered,
    readingStatistics_of_moreStatistics config inputs, ?_⟩
  intro past moment later split
  obtain ⟨before, input, after, rfl, rfl, rfl, -⟩ := history_eq_append_cons split
  have same : ((fresh config).run before).1.config = config := config_run config before
  have noted := moreStatistics_run config before
  refine ⟨?_, ?_, ?_, ?_⟩
  · intro well
    have move := (Moment.mk ((fresh config).run before).1 input).deviceMove
    rw [(move.of_unfinished (move.unfinished well)).2, well, same]
    cases ((fresh config).run before).1.device.readingStatistics <;> rfl
  · intro finish accepts
    rw [((Moment.deviceMove _).of_finishes finish).2, accepts, noted, same, Bool.and_true]
  · rintro finish ⟨earlier, member, dead⟩
    have shut : ((fresh config).run before).1.device.accepts = false := by
      rw [Device.accepts, dead_of_past config before member dead]
      rfl
    rw [((Moment.deviceMove _).of_finishes finish).2, shut, Bool.and_false]
    rfl
  · intro unfinished unsent
    rw [((Moment.deviceMove _).of_unfinished unfinished).2, unsent]
    rfl

/-- Two frames are completed before statistics were read, none while they are read
again, and one at the end, after which the device is torn down. -/
def refreshInputs : List Input :=
  bringUpInputs ++ List.replicate 3 (sending 1) ++
    [ending 1 64, ending 1 65, .finishStatistics, .finishStatistics, ending 1 66,
      .beginTeardown, .finishStatistics]

/-- Statistics are read at the first frame, again, and at the last frame.  In the end
nobody reads them. -/
theorem one_reading_at_a_time_torn_down :
    let history := (fresh .small).history refreshInputs
    History.Answered history ∧ history.flatMap Moment.scheduled = [10, 20, 10] ∧
      History.finishes history = 3 ∧
      ((fresh .small).run refreshInputs).1.device.readingStatistics = false := by
  intro history
  have facts : History.Answered ((fresh .small).history refreshInputs) ∧
      ((fresh .small).history refreshInputs).flatMap Moment.scheduled = [10, 20, 10] ∧
      History.finishes ((fresh .small).history refreshInputs) = 3 := by
    decide +kernel
  obtain ⟨answered, scheduled, finishes⟩ := facts
  refine ⟨answered, scheduled, finishes, ?_⟩
  obtain ⟨balance, -⟩ := one_reading_at_a_time .small refreshInputs answered
  rw [History.schedules, scheduled, finishes] at balance
  exact Bool.toNat_eq_zero.mp (Nat.add_left_cancel (balance.symm.trans rfl))

end Engine

end WlanDatapath
