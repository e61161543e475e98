import WlanDatapath.Proofs.ReceiveBuffers

/-!
# Transfers that end while slots are being posted

The device accepts from the first post on, so a transfer may end, and a pass may
give its buffer back, while the other slots are still to be posted.  The transport
then holds that buffer ahead of theirs, but in the ring its turn comes behind them.

Transfers that end early do no harm by themselves, and neither do passes, as long as
no buffer that was given back that early ends.  As soon as one does, it is out of
turn: `mismatch_free_iff_on_time` says that this is the only way in which a
transport that returns the oldest buffer first meets a mismatch, and
`mismatch_of_early_return` that it happens.

Until a buffer overtakes, the ring and the transport are aligned
(`Reception.Aligned`); from then on, what the transport holds ahead of that buffer is
still in turn (`Reception.Overtaken`).
-/

namespace WlanDatapath

/-! ## Buffers given back early -/

/-- The pass gives a buffer back while slots are not posted yet. -/
def Moment.overtakes (moment : Moment) : Bool :=
  moment.before.reception.overtakes moment.after.reception

namespace History

/-- Which buffers that the transport holds after a moment were given back early. -/
def earlyAfter (early : List Bool) (moment : Moment) : List Bool :=
  (if moment.ended?.isSome then early.tail else early) ++
    moment.reposted.map fun _ => moment.overtakes

/-- For each receive buffer that the transport holds, oldest first, whether the pass
gave it back while slots were not posted yet. -/
def early (history : History) : List Bool :=
  history.foldl earlyAfter []

@[simp]
theorem early_concat (history : History) (moment : Moment) :
    early (history ++ [moment]) = earlyAfter (early history) moment := by
  simp [early]

/-- Without overtaking no buffer is held that was given back early. -/
theorem early_eq_false (history : History)
    (straight : ∀ moment ∈ history, moment.overtakes = false) :
    ∀ flag ∈ history.early, flag = false := by
  induction history using List.reverseRecOn with
  | nil =>
      intro flag member
      contradiction
  | append_singleton history moment hypothesis =>
      rw [List.forall_mem_append, List.forall_mem_singleton] at straight
      have before := hypothesis straight.1
      intro flag member
      rw [early_concat, earlyAfter, straight.2] at member
      rcases List.mem_append.mp member with held | given
      · split at held
        · exact before flag (List.mem_of_mem_tail held)
        · exact before flag held
      · obtain ⟨-, -, rfl⟩ := List.mem_map.mp given
        rfl

end History

/-- The transport takes every receive buffer and returns the oldest one first. -/
structure Moment.ReturnsOldest (past : History) (moment : Moment) : Prop where
  taken : moment.refusesReceive = false
  oldest : ∀ transfer ∈ moment.ended?, past.held.head? = some transfer.handle

instance (past : History) (moment : Moment) : Decidable (moment.ReturnsOldest past) :=
  decidable_of_iff
    (moment.refusesReceive = false ∧
      ∀ transfer ∈ moment.ended?, past.held.head? = some transfer.handle)
    ⟨fun ⟨taken, oldest⟩ => ⟨taken, oldest⟩, fun ⟨taken, oldest⟩ => ⟨taken, oldest⟩⟩

/-- No buffer ends that the pass gave back while slots were not posted yet. -/
def Moment.OnTime (past : History) (moment : Moment) : Prop :=
  moment.ended?.isSome = true → past.early.head? ≠ some true

instance (past : History) (moment : Moment) : Decidable (moment.OnTime past) :=
  inferInstanceAs (Decidable (_ → _))

namespace Reception

variable {reception next : Reception} {event : Event} {held : List Handle} {sent : List Nat}

/-! ## The step that overtakes -/

theorem Step.of_overtakes (step : Step reception event next)
    (overtakes : reception.overtakes next = true) :
    ∃ work, reception.pass = .returning work ∧ reception.bringUp.unposted ≠ [] ∧
      event = .submitted work.handle ∧ next = { reception with pass := .submitting work } := by
  unfold Reception.overtakes at overtakes
  split at overtakes
  case h_2 => contradiction
  case h_1 work given returning submitting =>
    have ahead : reception.bringUp.unposted ≠ [] := by simpa using overtakes
    cases step with
    | givenBack place =>
        rw [place, Pass.returning.injEq] at returning
        subst returning
        exact ⟨_, place, ahead, rfl, rfl⟩
    | unchanged | acquired | acquisitionFailed | posted | passedOver | slotMissing | cameUp
    | postTaken | postRefused | filed | dismissed | dismissedTo | slotSkipped | closed | drained =>
        exact absurd (returning.symm.trans submitting) (by simp)
    | nothingLeft place | slotLost place | taken place | refused place =>
        exact absurd (returning.symm.trans place) (by simp)
    | _ => contradiction

/-- What a step does to the gap. -/
theorem Step.gap_step (step : Step reception event next) (sound : reception.Sound)
    (accepts : reception.stage.accepts = true) (alive : next.stage ≠ .dead) :
    (∃ transfer, event = .filed transfer ∧
        reception.ring.gap = reception.ring.stop :: next.ring.gap) ∨
      (∃ transfer, event = .dismissed transfer ∧
        ¬ reception.ring.Expects transfer.handle) ∨
      event.ended? = none ∧ reception.ring.gap <+: next.ring.gap := by
  cases step with
  | acquisitionFailed | slotMissing | postRefused | closed => exact absurd rfl alive
  | drained begun => exact absurd (sound.begun begun) alive
  | acquired created =>
      rw [created] at accepts
      contradiction
  | @filed transfer expected =>
      exact Or.inl ⟨transfer, rfl, Ring.gap_file sound.ring transfer expected.2.1⟩
  | @dismissed transfer unexpected | @dismissedTo transfer _ unexpected =>
      exact Or.inr (Or.inl ⟨transfer, rfl, unexpected⟩)
  | slotLost _ retired | slotSkipped _ retired | opened _ retired | setAside _ retired =>
      have gap := Ring.gap_retire sound.ring retired
      exact Or.inr (Or.inr ⟨rfl, [_], gap.symm⟩)
  | unchanged | posted | passedOver | cameUp | postTaken | passStarted | nothingLeft | walked
  | rejected | dropped | handedUp | judged | givenBack | kept | taken | refused =>
      exact Or.inr (Or.inr ⟨rfl, List.prefix_rfl⟩)

/-! ## After a buffer has overtaken -/

/-- The transport holds the buffers of slots whose turn comes one after the other, and
behind them one that was given back early, while the turn then is that of a slot with
another handle. -/
structure Overtaken (reception : Reception) (held : List Handle) (early : List Bool)
    (sent : List Nat) (slot : Nat) (handle : Handle) : Prop where
  gap : sent ++ [slot] <+: reception.ring.gap
  held : sent.map (reception.ring.handles[·]?) ++ [some handle] <+: held.map some
  early : List.replicate sent.length false ++ [true] <+: early
  other : reception.ring.handles[slot]? ≠ some handle

variable {early : List Bool} {slot : Nat} {handle : Handle}

namespace Overtaken

/-- A buffer that was not given back early is returned in turn. -/
theorem expects (overtaken : reception.Overtaken held early sent slot handle)
    (sound : reception.Sound) (accepts : reception.stage.accepts = true) {first : Handle}
    (oldest : held.head? = some first) (onTime : early.head? ≠ some true) :
    reception.ring.Expects first ∧ ∃ later, sent = reception.ring.stop :: later := by
  cases sent with
  | nil =>
      obtain ⟨_, rfl⟩ := overtaken.early
      exact absurd rfl onTime
  | cons index later =>
      obtain ⟨rest, front⟩ := overtaken.gap
      obtain ⟨rfl, complete, room, turn⟩ := sound.expects_front accepts front.symm
      refine ⟨⟨complete, room, ?_⟩, later, rfl⟩
      obtain ⟨others, names⟩ := overtaken.held
      have same := congrArg List.head? names
      rw [List.head?_map, oldest] at same
      rw [turn]
      exact Option.some.inj same

/-- A buffer that was given back early is returned out of turn. -/
theorem unexpected (overtaken : reception.Overtaken held early sent slot handle)
    (sound : reception.Sound) (accepts : reception.stage.accepts = true) {first : Handle}
    (oldest : held.head? = some first) (late : early.head? = some true) :
    reception.ring.isComplete = true ∧ reception.ring.isFull = false ∧
      reception.ring.producer?.map (·.handle) ≠ some first := by
  cases sent with
  | nil =>
      obtain ⟨rest, front⟩ := overtaken.gap
      obtain ⟨rfl, complete, room, turn⟩ := sound.expects_front accepts front.symm
      obtain ⟨others, names⟩ := overtaken.held
      have same := congrArg List.head? names
      rw [List.head?_map, oldest] at same
      have named : handle = first := Option.some.inj (Option.some.inj same)
      refine ⟨complete, room, ?_⟩
      rw [turn, ← named]
      exact overtaken.other
  | cons index later =>
      obtain ⟨_, rfl⟩ := overtaken.early
      cases late

/-- It stays so until the buffer that was given back early ends. -/
theorem step (overtaken : reception.Overtaken held early sent slot handle)
    (sound : reception.Sound) (step : Step reception event next)
    (accepts : reception.stage.accepts = true) (alive : next.stage ≠ .dead)
    (oldest : ∀ transfer, event.ended? = some transfer → held.head? = some transfer.handle)
    (onTime : event.ended?.isSome = true → early.head? ≠ some true) (flags : List Bool) :
    ∃ sent, next.Overtaken
      ((if event.ended?.isSome then held.tail else held) ++ event.submitted?.toList)
      ((if event.ended?.isSome then early.tail else early) ++ flags) sent slot handle := by
  have handles : next.ring.handles = reception.ring.handles := by
    apply step.handles_eq
    · rintro rfl
      cases step with
      | acquired created =>
          rw [created] at accepts
          contradiction
      | acquisitionFailed => exact absurd rfl alive
    · rintro rfl
      cases step with
      | drained begun => exact absurd (sound.begun begun) alive
  rcases step.gap_step sound accepts alive with
    ⟨transfer, rfl, gap⟩ | ⟨transfer, rfl, unexpected⟩ | ⟨unended, gap⟩
  · obtain ⟨-, later, rfl⟩ :=
      overtaken.expects sound accepts (oldest transfer rfl) (onTime rfl)
    refine ⟨later, ?_, ?_, ?_, ?_⟩
    · have before := overtaken.gap
      rw [gap] at before
      exact (List.prefix_cons_inj _).mp before
    · obtain ⟨rest, names⟩ := overtaken.held
      show _ <+: (held.tail ++ []).map some
      rw [handles, List.append_nil, List.map_tail, ← names]
      exact List.prefix_append _ rest
    · obtain ⟨rest, rfl⟩ := overtaken.early
      show _ <+: List.replicate later.length false ++ [true] ++ rest ++ flags
      rw [List.append_assoc _ rest flags]
      exact List.prefix_append _ _
    · rw [handles]
      exact overtaken.other
  · have expected :=
      (overtaken.expects sound accepts (oldest transfer rfl) (onTime rfl)).1
    exact absurd expected unexpected
  · refine ⟨sent, overtaken.gap.trans gap, ?_, ?_, ?_⟩
    · rw [handles, unended, List.map_append]
      exact overtaken.held.trans (List.prefix_append _ _)
    · rw [unended]
      exact overtaken.early.trans (List.prefix_append _ _)
    · rw [handles]
      exact overtaken.other

end Overtaken

/-- A buffer that the pass gives back early overtakes the first slot not posted. -/
theorem Aligned.overtaken (aligned : reception.Aligned held sent)
    (distinct : reception.ring.handles.Nodup) (step : Step reception event next)
    (overtakes : reception.overtakes next = true) :
    event.ended? = none ∧
      ∃ slot handle, event.submitted? = some handle ∧
        next.Overtaken (held ++ [handle]) (List.replicate held.length false ++ [true])
          sent slot handle := by
  obtain ⟨work, returning, ahead, rfl, rfl⟩ := step.of_overtakes overtakes
  obtain ⟨slot, others, unposted⟩ := List.exists_cons_of_ne_nil ahead
  have gap : reception.ring.gap = sent ++ slot :: (others ++ [work.index]) := by
    rw [aligned.gap, unsent, unposted, returning]
    rfl
  have named : reception.ring.handles[work.index]? = some work.handle := by
    apply aligned.own
    rw [returning]
    rfl
  refine ⟨rfl, slot, work.handle, rfl, ?_, ?_, ?_, ?_⟩
  · show sent ++ [slot] <+: reception.ring.gap
    rw [gap]
    exact ⟨others ++ [work.index], by simp⟩
  · rw [List.map_append, aligned.held]
    exact List.prefix_rfl
  · have size := congrArg List.length aligned.held
    rw [List.length_map, List.length_map] at size
    rw [size]
  · intro same
    have apart : slot ≠ work.index := by
      rintro rfl
      have once : reception.ring.gap.Nodup := Ring.nodup_gap
      rw [gap, List.nodup_append'] at once
      simp at once
    obtain ⟨below, -⟩ := List.getElem?_eq_some_iff.mp named
    exact apart ((List.getElem?_inj below distinct).mp (named.trans same.symm)).symm

end Reception

/-! ## Runs -/

/-- A transfer that ends is met as an anomaly if a slot waits for it that has another
handle. -/
theorem Moment.anomaly?_of_unexpected {moment : Moment} {transfer : Transfer Buffer}
    (ended : moment.ended? = some transfer) (complete : moment.before.receive.isComplete = true)
    (room : moment.before.receive.isFull = false)
    (other : moment.before.receive.producer?.map (·.handle) ≠ some transfer.handle) :
    moment.anomaly? = some .receiveMismatch := by
  obtain ⟨engine, input⟩ := moment
  cases input with
  | completeReceive transfer =>
      cases ended
      simp only [anomaly?, Engine.anomaly?, complete, room]
      rw [if_neg (by simp), if_neg (by simp), if_neg other]
  | _ => contradiction

namespace History

/-- A history after which the buffers that were not given back early are returned in
turn, and the first one that was, if there is one, is not. -/
structure KeepsTime (engine : Engine) (history : History) : Prop where
  kept : engine.custody.Kept (history.flatMap Moment.effects)
  created : engine.device.stage = .created → history.held = [] ∧ history.early = []
  phase : engine.device.stage.accepts = true →
    (∃ sent, engine.reception.Aligned history.held sent ∧
        history.early = List.replicate history.held.length false) ∨
      ∃ sent slot handle, engine.reception.Overtaken history.held history.early sent slot handle

theorem keepsTime_fresh (config : Config) : KeepsTime (Engine.fresh config) [] where
  kept := (Engine.orderly_fresh config).kept
  created _ := ⟨rfl, rfl⟩
  phase accepts := by
    have created : (Engine.fresh config).device.stage = .created := rfl
    rw [created] at accepts
    contradiction

namespace KeepsTime

variable {history : History} {moment : Moment}

/-- Once the transport holds a buffer, the device accepts. -/
theorem accepts_of_oldest (keeps : KeepsTime moment.before history)
    (alive : moment.before.device.stage ≠ .dead) {handle : Handle}
    (oldest : history.held.head? = some handle) :
    moment.before.device.stage.accepts = true := by
  refine Stage.accepts_of_ne (fun created => ?_) alive
  rw [(keeps.created created).1] at oldest
  contradiction

/-- A transfer that ends on time is the one whose turn it is. -/
theorem expects (keeps : KeepsTime moment.before history) (sound : moment.before.Sound)
    (alive : moment.before.device.stage ≠ .dead) (returns : moment.ReturnsOldest history)
    (onTime : moment.OnTime history) {transfer : Transfer Buffer}
    (ended : moment.ended? = some transfer) : moment.before.receive.Expects transfer.handle := by
  have oldest := returns.oldest transfer ended
  have accepts := keeps.accepts_of_oldest alive oldest
  rcases keeps.phase accepts with ⟨sent, aligned, -⟩ | ⟨sent, slot, handle, overtaken⟩
  · exact (aligned.expects sound.reception accepts oldest).1
  · exact (overtaken.expects sound.reception accepts oldest (onTime (by rw [ended]; rfl))).1

/-- A transfer that does not end on time is a mismatch. -/
theorem anomaly? (keeps : KeepsTime moment.before history) (sound : moment.before.Sound)
    (alive : moment.before.device.stage ≠ .dead) (returns : moment.ReturnsOldest history)
    (late : ¬ moment.OnTime history) : moment.anomaly? = some .receiveMismatch := by
  rw [Moment.OnTime, Classical.not_imp, not_not] at late
  obtain ⟨ends, flag⟩ := late
  obtain ⟨transfer, ended⟩ := Option.isSome_iff_exists.mp ends
  have oldest := returns.oldest transfer ended
  have accepts := keeps.accepts_of_oldest alive oldest
  rcases keeps.phase accepts with ⟨sent, -, early⟩ | ⟨sent, slot, handle, overtaken⟩
  · rw [early] at flag
    have member := List.mem_of_head? flag
    exact absurd (List.eq_of_mem_replicate member) (by simp)
  · obtain ⟨complete, room, other⟩ := overtaken.unexpected sound.reception accepts oldest flag
    exact Moment.anomaly?_of_unexpected ended complete room other

theorem after (keeps : KeepsTime moment.before history) (sound : moment.before.Sound)
    (alive : moment.after.device.stage ≠ .dead) (distinct : moment.issuesDistinct = true)
    (returns : moment.ReturnsOldest history) (onTime : moment.OnTime history) :
    KeepsTime moment.after (history ++ [moment]) := by
  obtain ⟨event, step, tells⟩ := moment.reception_step
  have received := sound.reception
  have living := step.alive alive
  have orderly := Moment.isOrderly_of_issuesDistinct sound living distinct
  have oldest : ∀ transfer, event.ended? = some transfer →
      history.held.head? = some transfer.handle := by
    intro transfer ended
    exact returns.oldest transfer (tells.ended.trans ended)
  have hold : held (history ++ [moment]) =
      (if event.ended?.isSome then history.held.tail else history.held) ++
        event.submitted?.toList := by
    rw [held_concat, holdAfter, tells.ended, tells.reposted]
  have flags : early (history ++ [moment]) =
      (if event.ended?.isSome then history.early.tail else history.early) ++
        event.submitted?.toList.map fun _ => moment.overtakes := by
    rw [early_concat, earlyAfter, tells.ended, tells.reposted]
  have kept : moment.after.custody.Kept ((history ++ [moment]).flatMap Moment.effects) := by
    rw [List.flatMap_append, List.flatMap_singleton]
    exact keeps.kept.step (moment.custody_step sound orderly)
  by_cases created : moment.before.device.stage = .created
  · obtain ⟨nothing, nowhere⟩ := keeps.created created
    rw [nothing] at oldest
    obtain ⟨unended, unsubmitted, inStep⟩ :=
      received.inStep_of_created created step alive oldest
    rw [unended, unsubmitted, nothing] at hold
    rw [unended, unsubmitted, nowhere] at flags
    refine ⟨kept, fun _ => ⟨hold, flags⟩, fun accepts => Or.inl ⟨[], ?_, ?_⟩⟩
    · rw [hold]
      exact (inStep accepts).aligned
    · rw [hold, flags]
      rfl
  · have accepts := Stage.accepts_of_ne created living
    refine ⟨kept, fun again => absurd again (step.begun created), fun _ => ?_⟩
    rcases keeps.phase accepts with ⟨sent, aligned, early⟩ | ⟨sent, slot, handle, overtaken⟩
    · -- a buffer that overtakes ends the first phase
      cases overtakes : moment.overtakes with
      | false =>
          have unrefused : event.refused? = none :=
            tells.refused.symm.trans (Moment.refused?_eq_none returns.taken)
          obtain ⟨next, still⟩ :=
            aligned.step received step accepts alive oldest unrefused overtakes
          refine Or.inl ⟨next, hold ▸ still, ?_⟩
          rw [hold, flags, early, overtakes]
          cases event.ended? <;> cases event.submitted? <;>
            simp [List.replicate_succ']
      | true =>
          obtain ⟨unended, slot, handle, submitted, overtaken⟩ :=
            aligned.overtaken keeps.kept.nodup_receive step overtakes
          rw [unended, submitted] at hold
          rw [unended, submitted, early, overtakes] at flags
          refine Or.inr ⟨sent, slot, handle, ?_⟩
          rw [hold, flags]
          exact overtaken
    · have punctual : event.ended?.isSome = true → history.early.head? ≠ some true := by
        rw [← tells.ended]
        exact onTime
      obtain ⟨next, still⟩ :=
        overtaken.step received step accepts alive oldest punctual
          (event.submitted?.toList.map fun _ => moment.overtakes)
      refine Or.inr ⟨next, slot, handle, ?_⟩
      rw [hold, flags]
      exact still

end KeepsTime

/-- As long as no buffer that was given back early ends, time is kept. -/
theorem keepsTime (config : Config) (inputs : List Input)
    (alive : ((Engine.fresh config).run inputs).1.device.stage ≠ .dead)
    (distinct : ∀ moment ∈ (Engine.fresh config).history inputs, moment.issuesDistinct = true)
    (returns : Throughout Moment.ReturnsOldest ((Engine.fresh config).history inputs))
    (onTime : Throughout Moment.OnTime ((Engine.fresh config).history inputs)) :
    KeepsTime ((Engine.fresh config).run inputs).1 ((Engine.fresh config).history inputs) := by
  induction inputs using List.reverseRecOn with
  | nil => exact keepsTime_fresh config
  | append_singleton inputs input hypothesis =>
      rw [Engine.history_concat, Throughout.concat_iff] at returns onTime
      rw [Engine.history_concat, List.forall_mem_append, List.forall_mem_singleton] at distinct
      rw [Engine.run_concat] at alive
      obtain ⟨event, step, -⟩ :=
        (Moment.mk ((Engine.fresh config).run inputs).1 input).reception_step
      rw [Engine.run_concat, Engine.history_concat]
      exact (hypothesis (step.alive alive) distinct.1 returns.1 onTime.1).after
        (Engine.sound_run config inputs) alive distinct.2 returns.2 onTime.2

/-- A receive anomaly is met exactly when a buffer that was given back early ends. -/
theorem unmet_iff_onTime (config : Config) (inputs : List Input)
    (alive : ((Engine.fresh config).run inputs).1.device.stage ≠ .dead)
    (distinct : ∀ moment ∈ (Engine.fresh config).history inputs, moment.issuesDistinct = true)
    (returns : Throughout Moment.ReturnsOldest ((Engine.fresh config).history inputs)) :
    (∀ moment ∈ (Engine.fresh config).history inputs,
        moment.anomaly?.map Anomaly.family ≠ some .receive) ↔
      Throughout Moment.OnTime ((Engine.fresh config).history inputs) := by
  induction inputs using List.reverseRecOn with
  | nil => simp
  | append_singleton inputs input hypothesis =>
      rw [Engine.history_concat, Throughout.concat_iff] at returns
      rw [Engine.history_concat, List.forall_mem_append, List.forall_mem_singleton] at distinct
      rw [Engine.run_concat] at alive
      obtain ⟨event, step, -⟩ :=
        (Moment.mk ((Engine.fresh config).run inputs).1 input).reception_step
      have living := step.alive alive
      have sound := Engine.sound_run config inputs
      have before := hypothesis living distinct.1 returns.1
      rw [Engine.history_concat, Throughout.concat_iff, List.forall_mem_append,
        List.forall_mem_singleton, before]
      refine and_congr_right fun past => ?_
      have keeps := keepsTime config inputs living distinct.1 returns.1 past
      constructor
      · intro unmet
        by_contra late
        rw [keeps.anomaly? sound living returns.2 late] at unmet
        exact unmet rfl
      · intro onTime met
        obtain ⟨anomaly, met, family⟩ := Option.map_eq_some_iff.mp met
        obtain ⟨transfer, rfl, unexpected⟩ := Engine.not_expects_of_anomaly? met family
        exact unexpected (keeps.expects sound living returns.2 onTime rfl)

end History

/-- Without overtaking every buffer ends on time. -/
theorem Throughout.onTime_of_straight {history : History}
    (straight : ∀ moment ∈ history, moment.overtakes = false) :
    Throughout Moment.OnTime history := by
  rintro past moment later rfl _ flag
  have before : ∀ moment ∈ past, moment.overtakes = false := by
    intro earlier member
    exact straight earlier (List.mem_append_left _ member)
  have late := History.early_eq_false past before true (List.mem_of_head? flag)
  contradiction

namespace Engine

/-- Transfers may end, and passes may go on, while slots are being posted.  If the
transport takes every buffer and returns the oldest one first, a mismatch is counted
exactly when a buffer ends that the pass gave back while slots were not posted yet,
and none is as long as the pass gives none back that early. -/
theorem mismatch_free_iff_on_time (config : Config) (inputs : List Input)
    (alive : ((fresh config).run inputs).1.device.stage ≠ .dead)
    (distinct : ∀ moment ∈ (fresh config).history inputs, moment.issuesDistinct = true)
    (returns : Throughout Moment.ReturnsOldest ((fresh config).history inputs)) :
    (((fresh config).run inputs).1.counters.rxMismatches = 0 ↔
        Throughout Moment.OnTime ((fresh config).history inputs)) ∧
      ((∀ moment ∈ (fresh config).history inputs, moment.overtakes = false) →
        ((fresh config).run inputs).1.counters.rxMismatches = 0) := by
  have counted : ((fresh config).run inputs).1.counters.rxMismatches = 0 ↔
      Throughout Moment.OnTime ((fresh config).history inputs) := by
    rw [← History.unmet_iff_onTime config inputs alive distinct returns]
    have met := met_run config inputs .receive
    rw [show ((fresh config).run inputs).1.counters.rxMismatches = _ from met,
      List.countP_eq_zero]
    simp only [decide_eq_true_eq]
  exact ⟨counted, fun straight => counted.mpr (.onTime_of_straight straight)⟩

/-- Two slots are posted, and the transfer on the first one ends.  A pass gives its
buffer back, the other slots are posted, and the transfer on the second one ends. -/
def earlyInputs : List Input :=
  let all : Memory := fun _ => true
  let post : List Input := [.proceedBringUp, .answerPost none]
  .startBringUp .ample :: post ++ post ++
    [.completeReceive ⟨384, ⟨[1]⟩, .io 5, 0⟩, .startPass, .proceedPass all, .proceedPass all,
      .answerRepost none, .proceedPass all] ++
    (List.replicate (receiveSlots - 2) post).flatten ++
    [.proceedBringUp, .completeReceive ⟨385, ⟨[2]⟩, .io 5, 0⟩]

/-- Then the buffer that was given back early ends, which the transport holds longest. -/
def overtakenInputs : List Input :=
  earlyInputs ++ [.completeReceive ⟨384, ⟨[3]⟩, .io 5, 0⟩]

theorem issuesDistinct_overtakenInputs :
    ∀ moment ∈ (fresh .small).history overtakenInputs, moment.issuesDistinct = true := by
  -- deciding that the handles supplied are distinct would compare each with each
  show ∀ moment ∈ (fresh .small).history (.startBringUp .ample :: overtakenInputs.tail),
    moment.issuesDistinct = true
  rw [history, List.forall_mem_cons]
  constructor
  · simp only [Moment.issuesDistinct, Supply.nodup_ample, decide_true]
  · decide +kernel

/-- Up to there a buffer has overtaken, and every transfer was in turn. -/
theorem mismatch_free_iff_on_time_early :
    ((fresh .small).run earlyInputs).1.device.stage ≠ .dead ∧
      (∃ moment ∈ (fresh .small).history earlyInputs, moment.overtakes = true) ∧
      Throughout Moment.ReturnsOldest ((fresh .small).history earlyInputs) ∧
      ((fresh .small).run earlyInputs).1.counters.rxMismatches = 0 := by
  have facts : ((fresh .small).run earlyInputs).1.device.stage ≠ .dead ∧
      (∃ moment ∈ (fresh .small).history earlyInputs, moment.overtakes = true) ∧
      Throughout Moment.ReturnsOldest ((fresh .small).history earlyInputs) ∧
      Throughout Moment.OnTime ((fresh .small).history earlyInputs) := by
    decide +kernel
  obtain ⟨alive, overtakes, returns, onTime⟩ := facts
  have distinct : ∀ moment ∈ (fresh .small).history earlyInputs,
      moment.issuesDistinct = true := by
    have whole := issuesDistinct_overtakenInputs
    rw [overtakenInputs, history_append, List.forall_mem_append] at whole
    exact whole.1
  obtain ⟨counted, -⟩ := mismatch_free_iff_on_time .small earlyInputs alive distinct returns
  exact ⟨alive, overtakes, returns, counted.mpr onTime⟩

/-- The buffer that has overtaken is out of turn, although the transport supplied
distinct handles, took every buffer and returned the oldest one first. -/
theorem mismatch_of_early_return :
    (∀ moment ∈ (fresh .small).history overtakenInputs, moment.issuesDistinct = true) ∧
      Throughout Moment.ReturnsOldest ((fresh .small).history overtakenInputs) ∧
      ((fresh .small).run overtakenInputs).1.device.stage ≠ .dead ∧
      ((fresh .small).run overtakenInputs).1.counters.rxMismatches = 1 := by
  refine ⟨issuesDistinct_overtakenInputs, ?_⟩
  decide +kernel

end Engine

end WlanDatapath
