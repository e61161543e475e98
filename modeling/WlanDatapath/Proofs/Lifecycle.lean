import WlanDatapath.Proofs.Transmission

/-!
# The life of an engine

Some facts hold of every engine that a run leads to, whatever the inputs are:
its rings are well formed and as large as they should be, an engine that was
never brought up owns nothing, and an engine whose teardown is unfinished is
dead.  `Engine.Sound` collects them.

An engine is up (`History.IsUp`) once bringing up has succeeded and as long as no
teardown was asked for.  Such an engine accepts frames and has all its slots.
-/

namespace WlanDatapath

/-! ## Reception -/

namespace Reception

/-- Reception before anything was acquired. -/
def untouched : Reception where
  stage := .created
  ring := .empty receiveSlots
  deferred := {}
  bringUp := .idle
  pass := .idle
  teardowns := 0

/-- What holds for reception wherever a run leads. -/
structure Sound (reception : Reception) : Prop where
  ring : reception.ring.WellFormed
  capacity : reception.ring.capacity = receiveSlots
  untouched : reception.stage = .created → reception = .untouched
  populated : reception.stage.accepts = true → reception.ring.slots.length = receiveSlots
  begun : reception.teardowns ≠ 0 → reception.stage = .dead
  running : reception.deferred.running = true ↔ reception.pass ≠ .idle

variable {reception next : Reception} {event : Event}

theorem sound_untouched : untouched.Sound where
  ring := .empty (by decide)
  capacity := rfl
  untouched := fun _ => rfl
  populated := fun accepts => nomatch accepts
  begun := fun begun => absurd rfl begun
  running := by decide

/-- Only acquiring and releasing change which handles are in the ring. -/
theorem Step.handles_eq (step : Step reception event next) (kept : event ≠ .acquired)
    (held : event ≠ .drained) : next.ring.handles = reception.ring.handles := by
  cases step with
  | acquired | acquisitionFailed => exact absurd rfl kept
  | drained => exact absurd rfl held
  | posted => exact Ring.handles_vacate _ _
  | postRefused | dismissedTo | kept | refused => exact Ring.handles_putBack _ _ _
  | filed => exact Ring.handles_file _ _
  | slotLost _ retired | slotSkipped _ retired =>
      obtain ⟨-, -, rfl⟩ := Ring.retire?_eq_some retired
      rfl
  | opened _ retired | setAside _ retired =>
      obtain ⟨-, -, rfl⟩ := Ring.retire?_eq_some retired
      exact Ring.handles_vacate _ _
  | unchanged | passedOver | slotMissing | cameUp | postTaken | dismissed | passStarted
  | nothingLeft | walked | rejected | dropped | handedUp | judged | givenBack | taken
  | closed => rfl

/-- A device keeps running until it is closed. -/
theorem Step.stage_eq (step : Step reception event next) :
    reception.stage.Follows next.stage ∨
      reception.stage = .created ∧ event = .acquired ∧ next.stage = .running ∨
      next.stage = .dead := by
  cases step with
  | unchanged follows | refused _ follows => exact Or.inl follows
  | acquired created => exact Or.inr (Or.inl ⟨created, rfl, rfl⟩)
  | acquisitionFailed | slotMissing | postRefused | closed => exact Or.inr (Or.inr rfl)
  | posted | passedOver | cameUp | postTaken | filed | dismissed | dismissedTo | passStarted
  | nothingLeft | slotLost | slotSkipped | opened | setAside | walked | rejected | dropped
  | handedUp | judged | givenBack | kept | taken | drained => exact Or.inl (Or.inl rfl)

/-- No step brings a device back to life. -/
theorem Step.alive (step : Step reception event next) (alive : next.stage ≠ .dead) :
    reception.stage ≠ .dead := by
  intro dead
  rcases step.stage_eq with follows | ⟨created, -, -⟩ | same
  · exact alive (follows.dead_iff.mpr dead)
  · rw [dead] at created
    contradiction
  · exact alive same

/-- A device is not created again. -/
theorem Step.begun (step : Step reception event next) (begun : reception.stage ≠ .created) :
    next.stage ≠ .created := by
  intro again
  rcases step.stage_eq with follows | ⟨created, -, -⟩ | dead
  · exact begun (follows.created_iff.mp again)
  · exact begun created
  · rw [dead] at again
    contradiction

/-- The ring stays well formed and keeps its size. -/
theorem Sound.ring_step (sound : reception.Sound) (step : Step reception event next) :
    next.ring.WellFormed ∧ next.ring.capacity = receiveSlots := by
  have same := sound.capacity
  cases step with
  | acquired created count =>
      rw [sound.untouched created]
      exact ⟨(Ring.WellFormed.empty (by decide)).extend (by simp [Ring.empty, count]), rfl⟩
  | acquisitionFailed created count =>
      rw [sound.untouched created]
      exact ⟨(Ring.WellFormed.empty (by decide)).extend (by simpa [Ring.empty] using count), rfl⟩
  | filed expected =>
      exact ⟨(sound.ring.modify _ _).publish (Ring.publish_file _ expected.2.1), same⟩
  | posted | postRefused | dismissedTo | kept | refused => exact ⟨sound.ring.modify _ _, same⟩
  | slotLost _ retired | slotSkipped _ retired =>
      refine ⟨sound.ring.retire retired, ?_⟩
      obtain ⟨-, -, rfl⟩ := Ring.retire?_eq_some retired
      exact same
  | opened _ retired | setAside _ retired =>
      refine ⟨(sound.ring.retire retired).modify _ _, ?_⟩
      obtain ⟨-, -, rfl⟩ := Ring.retire?_eq_some retired
      exact same
  | drained => exact ⟨sound.ring.drain, same⟩
  | unchanged | passedOver | slotMissing | cameUp | postTaken | dismissed | passStarted
  | nothingLeft | walked | rejected | dropped | handedUp | judged | givenBack | taken
  | closed => exact ⟨sound.ring, same⟩

/-- Before anything was acquired, nothing but acquiring and closing has an effect. -/
theorem Step.of_untouched (step : Step untouched event next) (created : next.stage = .created) :
    next = untouched := by
  cases step with
  | unchanged follows =>
      rcases follows with rfl | ⟨impossible, -⟩
      · rfl
      · cases impossible
  | dismissed => rfl
  | filed expected => exact absurd expected.1 (by decide)
  | dismissedTo _ complete => exact absurd complete (by decide)
  | passStarted entered => exact absurd entered (by simp [untouched, DeferredWork.enter?])
  | drained begun => exact absurd rfl begun
  | acquired | acquisitionFailed | slotMissing | postRefused | closed => cases created
  | posted waiting | passedOver waiting | cameUp waiting | postTaken waiting
  | nothingLeft waiting | slotLost waiting | slotSkipped waiting | opened waiting
  | setAside waiting | walked waiting | rejected waiting | dropped waiting | handedUp waiting
  | judged waiting | givenBack waiting | kept waiting | taken waiting | refused waiting =>
      cases waiting

theorem Sound.untouched_step (sound : reception.Sound) (step : Step reception event next)
    (created : next.stage = .created) : next = .untouched := by
  rcases step.stage_eq with follows | ⟨-, -, running⟩ | dead
  · have before := sound.untouched (follows.created_iff.mp created)
    subst before
    exact step.of_untouched created
  · rw [running] at created
    contradiction
  · rw [dead] at created
    contradiction

/-- A device that accepts has all its receive slots. -/
theorem Sound.populated_step (sound : reception.Sound) (step : Step reception event next)
    (accepts : next.stage.accepts = true) : next.ring.slots.length = receiveSlots := by
  by_cases kept : event = .acquired ∨ event = .drained
  · cases step with
    | acquired created count =>
        rw [sound.untouched created]
        exact count
    | acquisitionFailed => contradiction
    | drained begun =>
        rw [sound.begun begun] at accepts
        contradiction
    | _ => simp at kept
  · rw [not_or] at kept
    have before : reception.stage.accepts = true := by
      rcases step.stage_eq with follows | ⟨-, acquired, -⟩ | dead
      · exact follows.accepts_eq ▸ accepts
      · exact absurd acquired kept.1
      · rw [dead] at accepts
        contradiction
    have count := congrArg List.length (step.handles_eq kept.1 kept.2)
    simpa [Ring.handles, sound.populated before] using count

/-- A device whose teardown is unfinished is dead. -/
theorem Sound.begun_step (sound : reception.Sound) (step : Step reception event next)
    (begun : next.teardowns ≠ 0) : next.stage = .dead := by
  cases step with
  | unchanged follows | refused _ follows => exact follows.dead_iff.mpr (sound.begun begun)
  | acquisitionFailed | slotMissing | postRefused | closed => rfl
  | drained before => exact sound.begun before
  | acquired created =>
      have dead := sound.begun begun
      rw [created] at dead
      contradiction
  | posted | passedOver | cameUp | postTaken | filed | dismissed | dismissedTo | passStarted
  | nothingLeft | slotLost | slotSkipped | opened | setAside | walked | rejected | dropped
  | handedUp | judged | givenBack | kept | taken => exact sound.begun begun

/-- The request for a pass runs as long as the pass does. -/
theorem Sound.running_step (sound : reception.Sound) (step : Step reception event next) :
    next.deferred.running = true ↔ next.pass ≠ .idle := by
  have running := sound.running
  cases step with
  | passStarted entered =>
      simp [DeferredWork.running_of_enter? entered]
  | nothingLeft | slotLost =>
      simp only [leave, DeferredWork.running_leave]
      split <;> simp_all
  | filed =>
      have same : reception.deferred.schedule.2.running = reception.deferred.running := by
        unfold DeferredWork.schedule
        split <;> rfl
      simpa only [same] using running
  | slotSkipped popping | opened popping | setAside popping | kept popping | taken popping
  | refused popping | walked popping | rejected popping | dropped popping | handedUp popping
  | judged popping | givenBack popping => simp_all
  | unchanged | acquired | acquisitionFailed | posted | passedOver | slotMissing | cameUp
  | postTaken | postRefused | dismissed | dismissedTo | closed | drained => exact running

/-- A pass can only start where none is going on. -/
theorem Sound.idle_of_enter? (sound : reception.Sound) {entered : DeferredWork}
    (enters : reception.deferred.enter? = some entered) : reception.pass = .idle := by
  by_contra active
  rw [DeferredWork.enter?_of_running (sound.running.mpr active)] at enters
  contradiction

theorem Sound.step (sound : reception.Sound) (step : Step reception event next) :
    next.Sound where
  ring := (sound.ring_step step).1
  capacity := (sound.ring_step step).2
  untouched := sound.untouched_step step
  populated := sound.populated_step step
  begun := sound.begun_step step
  running := sound.running_step step

end Reception

/-! ## Transmission -/

namespace Transmission

/-- What holds for transmission wherever a run leads. -/
structure Sound (transmission : Transmission) : Prop where
  lanes : ∀ lane : Lane, (transmission.lanes.get lane).WellFormed
  capacity : ∀ lane : Lane, (transmission.lanes.get lane).capacity = transmitSlots
  untouched : transmission.stage = .created →
    ∀ lane : Lane, transmission.lanes.get lane = .empty transmitSlots
  populated : transmission.stage.accepts = true →
    ∀ lane : Lane, (transmission.lanes.get lane).slots.length = transmitSlots

/-- No step changes the configuration. -/
theorem Step.config_eq {transmission next : Transmission} {event : Event}
    (step : Step transmission event next) : next.config = transmission.config := by
  cases step <;> rfl

/-- What the ring of one output endpoint does at a step. -/
inductive LaneStep (transmission : Transmission) (lane : Lane) : Event → Ring Handle → Prop where
  | kept {event : Event} (still : event ≠ .acquired ∧ event ≠ .drained)
      (untaken : ∀ transfer, event ≠ .taken lane transfer)
      (unretired : ∀ address transfer, event ≠ .retired lane address transfer) :
      LaneStep transmission lane event (transmission.lanes.get lane)
  | published {transfer ring} (offers : (transmission.lanes.get lane).Offers transfer.handle)
      (published : (transmission.lanes.get lane).publish = .ok ring) :
      LaneStep transmission lane (.taken lane transfer) ring
  | retired {address transfer index ring}
      (awaits : (transmission.lanes.get lane).Awaits transfer.handle)
      (retired : (transmission.lanes.get lane).retire? = some (index, ring)) :
      LaneStep transmission lane (.retired lane address transfer) ring
  | extended {handles} (created : transmission.stage = .created)
      (count : handles.length ≤ transmitSlots) :
      LaneStep transmission lane .acquired ((transmission.lanes.get lane).extend handles)
  | emptied : LaneStep transmission lane .drained (transmission.lanes.get lane).drain.2

variable {transmission next : Transmission} {event : Event}

theorem Step.lane_step (step : Step transmission event next) (lane : Lane) :
    LaneStep transmission lane event (next.lanes.get lane) := by
  cases step with
  | unchanged | refused | dismissed | ignored | closed =>
      exact .kept (by simp) (by simp) (by simp)
  | acquired created count extended => exact extended lane ▸ .extended created (count lane).le
  | acquisitionFailed created count extended => exact extended lane ▸ .extended created (count lane)
  | @taken used transfer ring accepts data offers published =>
      rw [Lane.get_set]
      split
      next same =>
        subst same
        exact .published offers published
      next apart => exact .kept (by simp) (by simp [apart]) (by simp)
  | @retired used address transfer index ring found awaits retired =>
      rw [Lane.get_set]
      split
      next same =>
        subst same
        exact .retired awaits retired
      next apart => exact .kept (by simp) (by simp) (by simp [apart])
  | drained begun emptied => exact emptied lane ▸ .emptied

/-- A device keeps running until it is closed. -/
theorem Step.stage_eq (step : Step transmission event next) :
    transmission.stage.Follows next.stage ∨
      transmission.stage = .created ∧ event = .acquired ∧ next.stage = .running ∨
      next.stage = .dead := by
  cases step with
  | unchanged follows | refused _ _ _ follows => exact Or.inl follows
  | acquired created => exact Or.inr (Or.inl ⟨created, rfl, rfl⟩)
  | acquisitionFailed | closed => exact Or.inr (Or.inr rfl)
  | taken | retired | dismissed | ignored | drained => exact Or.inl (Or.inl rfl)

/-- The rings stay well formed and keep their sizes. -/
theorem Sound.lane_step (sound : transmission.Sound) {lane : Lane} {ring : Ring Handle}
    (step : LaneStep transmission lane event ring) :
    ring.WellFormed ∧ ring.capacity = transmitSlots := by
  have before := sound.lanes lane
  have same := sound.capacity lane
  cases step with
  | kept => exact ⟨before, same⟩
  | published offers published =>
      refine ⟨before.publish published, ?_⟩
      rw [(Ring.publish_eq_ok published).2]
      exact same
  | retired awaits retired =>
      refine ⟨before.retire retired, ?_⟩
      rw [(Ring.retire?_eq_some retired).2.2]
      exact same
  | extended created count =>
      rw [sound.untouched created lane]
      exact ⟨(Ring.WellFormed.empty (by decide)).extend (by simpa [Ring.empty] using count), rfl⟩
  | emptied => exact ⟨before.drain, same⟩

/-- A device that was only created has empty rings. -/
theorem Sound.untouched_step (sound : transmission.Sound) (step : Step transmission event next)
    (released : transmission.teardowns ≠ 0 → transmission.stage = .dead)
    (created : next.stage = .created)
    (lane : Lane) : next.lanes.get lane = .empty transmitSlots := by
  have before : transmission.stage = .created := by
    rcases step.stage_eq with follows | ⟨-, -, running⟩ | dead
    · exact follows.created_iff.mp created
    · rw [running] at created
      contradiction
    · rw [dead] at created
      contradiction
  have empty := sound.untouched before lane
  cases step with
  | acquired | acquisitionFailed => contradiction
  | taken accepts =>
      rw [before] at accepts
      contradiction
  | @retired used _ _ _ _ _ awaits =>
      have complete := awaits.1
      rw [sound.untouched before used] at complete
      exact absurd complete (by decide)
  | drained begun =>
      rw [released begun] at before
      contradiction
  | unchanged | refused | dismissed | ignored | closed => exact empty

/-- A device that accepts has all its handles for transmission. -/
theorem Sound.populated_step (sound : transmission.Sound) (step : Step transmission event next)
    (released : transmission.teardowns ≠ 0 → transmission.stage = .dead)
    (accepts : next.stage.accepts = true) (lane : Lane) :
    (next.lanes.get lane).slots.length = transmitSlots := by
  cases step with
  | acquired created count extended =>
      show (_ : Ring Handle).slots.length = _
      rw [extended lane, sound.untouched created lane]
      simpa [Ring.extend, Ring.empty] using count lane
  | acquisitionFailed | closed => contradiction
  | unchanged follows | refused _ _ _ follows =>
      exact sound.populated (follows.accepts_eq ▸ accepts) lane
  | dismissed | ignored => exact sound.populated accepts lane
  | drained begun =>
      rw [released begun] at accepts
      contradiction
  | taken _ _ _ published =>
      rw [Lane.get_set, (Ring.publish_eq_ok published).2]
      split
      next same =>
        subst same
        exact sound.populated accepts _
      next => exact sound.populated accepts lane
  | retired _ _ retired =>
      rw [Lane.get_set, (Ring.retire?_eq_some retired).2.2]
      split
      next same =>
        subst same
        exact sound.populated accepts _
      next => exact sound.populated accepts lane

theorem Sound.step (sound : transmission.Sound) (step : Step transmission event next)
    (released : transmission.teardowns ≠ 0 → transmission.stage = .dead) : next.Sound where
  lanes lane := (sound.lane_step (step.lane_step lane)).1
  capacity lane := (sound.lane_step (step.lane_step lane)).2
  untouched := sound.untouched_step step released
  populated := sound.populated_step step released

end Transmission

/-! ## Engines -/

namespace Engine

/-- What holds of every engine that a run leads to. -/
structure Sound (engine : Engine) : Prop where
  reception : engine.reception.Sound
  transmission : engine.transmission.Sound

theorem lane_fresh (config : Config) (lane : Lane) :
    (fresh config).transmit.get lane = .empty transmitSlots :=
  Lane.get_replicate lane _

theorem sound_fresh (config : Config) : (fresh config).Sound where
  reception := Reception.sound_untouched
  transmission :=
    { lanes := fun lane => (lane_fresh config lane).symm ▸ .empty (by decide)
      capacity := fun lane => congrArg Ring.capacity (lane_fresh config lane)
      untouched := fun _ => lane_fresh config
      populated := fun accepts => nomatch accepts }

theorem Sound.after {moment : Moment} (sound : moment.before.Sound) : moment.after.Sound := by
  obtain ⟨received, reception, -⟩ := moment.reception_step
  obtain ⟨sent, transmission, -⟩ := moment.transmission_step
  exact ⟨sound.reception.step reception,
    sound.transmission.step transmission sound.reception.begun⟩

theorem Sound.run {engine : Engine} (sound : engine.Sound) (inputs : List Input) :
    (engine.run inputs).1.Sound :=
  History.invariant (fun engine _ => engine.Sound) sound (fun _ _ sound => sound.after) inputs

/-- Every run leads to a sound engine. -/
theorem sound_run (config : Config) (inputs : List Input) : ((fresh config).run inputs).1.Sound :=
  (sound_fresh config).run inputs

/-- Every moment of a run that begins soundly begins soundly. -/
theorem Sound.of_mem {engine : Engine} (sound : engine.Sound) {inputs : List Input}
    {moment : Moment} (member : moment ∈ engine.history inputs) : moment.before.Sound := by
  obtain ⟨past, later, split⟩ := List.append_of_mem member
  obtain ⟨before, input, after, -, -, rfl, -⟩ := history_eq_append_cons split
  exact sound.run before

/-- A dead device stays dead. -/
theorem dead_run {engine : Engine} (dead : engine.device.stage = .dead) (inputs : List Input) :
    (engine.run inputs).1.device.stage = .dead := by
  refine History.invariant (fun engine _ => engine.device.stage = .dead) dead ?_ inputs
  intro history moment dead
  obtain ⟨event, step, -⟩ := moment.reception_step
  exact by_contra fun alive => step.alive alive dead

/-- A device that was started has always been started. -/
theorem started_after {moment : Moment} (started : moment.before.device.stage ≠ .created) :
    moment.after.device.stage ≠ .created := by
  obtain ⟨event, step, -⟩ := moment.reception_step
  exact step.begun started

theorem started_run {engine : Engine} (started : engine.device.stage ≠ .created)
    (inputs : List Input) : (engine.run inputs).1.device.stage ≠ .created :=
  History.invariant (fun engine _ => engine.device.stage ≠ .created) started
    (fun _ _ started => started_after started) inputs

theorem config_after (moment : Moment) : moment.after.config = moment.before.config := by
  obtain ⟨event, step, -⟩ := moment.transmission_step
  exact step.config_eq

/-- A run never changes the configuration. -/
theorem config_run (config : Config) (inputs : List Input) :
    ((fresh config).run inputs).1.config = config :=
  History.invariant (fun engine _ => engine.config = config) rfl
    (fun _ moment same => (config_after moment).trans same) inputs

/-- Every moment of a run has the configuration that the run began with. -/
theorem config_of_mem {config : Config} {inputs : List Input} {moment : Moment}
    (member : moment ∈ (fresh config).history inputs) : moment.before.config = config := by
  induction inputs using List.reverseRecOn with
  | nil => contradiction
  | append_singleton inputs input hypothesis =>
      rw [history_concat, List.mem_append, List.mem_singleton] at member
      rcases member with early | rfl
      · exact hypothesis early
      · exact config_run config inputs

end Engine

/-! ## Being up -/

/-- Buffers are being posted. -/
def BringUp.isPosting : BringUp → Bool
  | .posting _ | .submitting _ => true
  | .idle | .failing _ => false

namespace Reception

variable {reception next : Reception} {event : Event}

/-- Bringing up has succeeded, and the device accepts. -/
def IsUp (reception : Reception) : Prop :=
  reception.stage.accepts = true ∧ reception.bringUp = .idle

/-- Without a teardown asked for by others, buffers are posted by a device that
accepts. -/
theorem Step.accepts_of_isPosting (step : Step reception event next) (sound : reception.Sound)
    (unclosed : event ≠ .closed)
    (before : reception.bringUp.isPosting = true → reception.stage.accepts = true)
    (posting : next.bringUp.isPosting = true) : next.stage.accepts = true := by
  cases step with
  | closed => exact absurd rfl unclosed
  | acquired => rfl
  | acquisitionFailed | slotMissing | cameUp | postRefused => cases posting
  | posted waiting | passedOver waiting | postTaken waiting =>
      exact before (by rw [waiting]; rfl)
  | unchanged follows | refused _ follows => exact follows.accepts_eq.trans (before posting)
  | drained begun _ waiting =>
      rcases waiting with rfl | ⟨-, rfl⟩
      · have accepts := before posting
        rw [sound.begun begun] at accepts
        contradiction
      · cases posting
  | filed | dismissed | dismissedTo | passStarted | nothingLeft | slotLost | slotSkipped | opened
  | setAside | walked | rejected | dropped | handedUp | judged | givenBack | kept | taken =>
      exact before posting

/-- A device that is up stays up without a teardown. -/
theorem Step.isUp (step : Step reception event next) (sound : reception.Sound)
    (unclosed : event ≠ .closed) (up : reception.IsUp) : next.IsUp := by
  obtain ⟨accepts, idle⟩ := up
  cases step with
  | closed => exact absurd rfl unclosed
  | acquired created | acquisitionFailed created =>
      rw [created] at accepts
      contradiction
  | posted waiting | passedOver waiting | slotMissing waiting | cameUp waiting
  | postTaken waiting | postRefused waiting =>
      rw [idle] at waiting
      contradiction
  | unchanged follows | refused _ follows => exact ⟨follows.accepts_eq.trans accepts, idle⟩
  | drained begun =>
      rw [sound.begun begun] at accepts
      contradiction
  | filed | dismissed | dismissedTo | passStarted | nothingLeft | slotLost | slotSkipped | opened
  | setAside | walked | rejected | dropped | handedUp | judged | givenBack | kept | taken =>
      exact ⟨accepts, idle⟩

/-- A device that is up and accepts was up or was just brought up. -/
theorem Step.isUp_of_cameUp (step : Step reception .cameUp next)
    (before : reception.bringUp.isPosting = true → reception.stage.accepts = true) :
    next.IsUp := by
  cases step with
  | cameUp posting => exact ⟨before (by rw [posting]; rfl), rfl⟩

end Reception

namespace History

/-- Bringing up has succeeded, and no teardown was asked for. -/
def IsUp (history : History) : Prop :=
  (∃ moment ∈ history, moment.comesUp = true) ∧ ∀ moment ∈ history, moment.tearsDown = false

instance (history : History) : Decidable history.IsUp :=
  inferInstanceAs (Decidable (_ ∧ _))

/-- The device of a run that is up accepts frames, and bringing up is over. -/
theorem IsUp.reception {config : Config} {inputs : List Input}
    (up : IsUp ((Engine.fresh config).history inputs)) :
    ((Engine.fresh config).run inputs).1.reception.IsUp := by
  have invariant := History.invariant
    (fun engine history => engine.Sound ∧
      ((∀ moment ∈ history, moment.tearsDown = false) →
        (engine.bringUp.isPosting = true → engine.device.stage.accepts = true) ∧
          ((∃ moment ∈ history, moment.comesUp = true) → engine.reception.IsUp)))
    ⟨Engine.sound_fresh config, fun _ => ⟨fun posting => (nomatch posting), by simp⟩⟩
    ?_ inputs
  · exact (invariant.2 up.2).2 up.1
  · rintro history moment ⟨sound, before⟩
    refine ⟨sound.after, fun calm => ?_⟩
    obtain ⟨event, step, tells⟩ := moment.reception_step
    have unclosed : event ≠ .closed := by
      intro closed
      have asked := tells.closed closed
      rw [calm moment (by simp)] at asked
      contradiction
    obtain ⟨posting, isUp⟩ := before fun earlier member => calm earlier (by simp [member])
    refine ⟨step.accepts_of_isPosting sound.reception unclosed posting, ?_⟩
    rintro ⟨witness, member, comesUp⟩
    rcases List.mem_append.mp member with early | last
    · exact step.isUp sound.reception unclosed (isUp ⟨witness, early, comesUp⟩)
    · rw [List.mem_singleton.mp last] at comesUp
      have cameUp := tells.comesUp.mp comesUp
      subst cameUp
      exact step.isUp_of_cameUp posting

/-- The device of a run that is up is alive. -/
theorem IsUp.alive {config : Config} {inputs : List Input}
    (up : IsUp ((Engine.fresh config).history inputs)) :
    ((Engine.fresh config).run inputs).1.device.stage ≠ .dead := by
  have accepts := up.reception.1
  intro dead
  rw [Engine.reception, dead] at accepts
  contradiction

end History

/-! ## Bringing up without refusals -/

/-- Handles and memory enough for everything. -/
def Supply.ample : Supply where
  handles := (List.range 400).map UInt32.ofNat
  grants := fun _ => true

theorem Supply.nodup_ample : Supply.ample.handles.Nodup := by
  apply List.Nodup.map_on ?_ List.nodup_range
  intro left inLeft right inRight same
  have equal := congrArg UInt32.toNat same
  rw [List.mem_range] at inLeft inRight
  simp only [UInt32.toNat_ofNat'] at equal
  omega

/-- A configuration with buffers for one small segment. -/
def Config.small : Config where
  bufferSize := 36

/-- The inputs that bring a device up when nothing is refused. -/
def bringUpInputs : List Input :=
  .startBringUp .ample ::
    ((List.replicate receiveSlots [Input.proceedBringUp, .answerPost none]).flatten ++
      [.proceedBringUp])

example : History.IsUp ((Engine.fresh .small).history bringUpInputs) := by decide +kernel

end WlanDatapath
