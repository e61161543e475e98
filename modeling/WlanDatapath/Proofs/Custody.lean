import WlanDatapath.Proofs.Lifecycle

/-!
# The custody of handles

Handles are issued while the device is brought up, stay in one slot of one ring,
and are given back when the rings are released.  `Custody.Step` says what a step
does to them and which acts go with it, and `Custody.Kept` is the account that
every step keeps: a handle was issued as often as it is in a ring or was given
back.

From this account `handles_disciplined` follows.  No handle is given back twice,
none is given back before it was issued and poisoned, and none is submitted
afterwards; once a teardown is over, everything was given back and the transport
is left alone.
-/

namespace WlanDatapath

/-! ## Discipline -/

/-- A handle is given back only if it was issued and poisoned before, and
submitted only if it was neither poisoned nor given back before. -/
def Effect.IsLawful (past : List Effect) (effect : Effect) : Prop :=
  (∀ handle, effect.freed? = some handle → handle ∈ issued past ∧ handle ∈ poisoned past) ∧
    ∀ handle, effect.submitted? = some handle → handle ∉ poisoned past ∧ handle ∉ freed past

/-- The acts of a run respect the life of every handle. -/
structure Disciplined (trace : List Effect) : Prop where
  once : (freed trace).Nodup
  lawful : Throughout Effect.IsLawful trace

/-- An act that the transport sees. -/
def Effect.Kind.isTransport : Effect.Kind → Bool
  | .allocate | .free | .poison | .submitReceive | .submitTransmit => true
  | _ => false

theorem Effect.submitted?_eq_none {effect : Effect}
    (other : effect.kind ≠ .submitReceive ∧ effect.kind ≠ .submitTransmit) :
    effect.submitted? = none := by
  cases effect <;> simp_all [Effect.kind, Effect.submitted?]

/-- An act that neither gives back nor submits is lawful. -/
theorem Effect.isLawful_of_kind {effect : Effect} (past : List Effect)
    (other : effect.kind ≠ .free ∧ effect.kind ≠ .submitReceive ∧
      effect.kind ≠ .submitTransmit) : effect.IsLawful past := by
  constructor
  · intro handle gives
    rw [Effect.watches_freed? _ other.1] at gives
    contradiction
  · intro handle submits
    rw [Effect.submitted?_eq_none other.2] at submits
    contradiction

/-! ## The system -/

/-- Where the handles are, and how far the life of the device has got. -/
structure Custody where
  stage : Stage
  receive : List Handle
  transmit : Lane → List Handle
  teardowns : Nat

/-- Where the handles of an engine are. -/
def Engine.custody (engine : Engine) : Custody where
  stage := engine.device.stage
  receive := engine.receive.handles
  transmit lane := (engine.transmit.get lane).slots
  teardowns := engine.teardowns

namespace Custody

/-- How often a handle is in a ring. -/
def count (custody : Custody) (handle : Handle) : Nat :=
  custody.receive.count handle + ∑ lane, (custody.transmit lane).count handle

/-- Submitting is in order: the device accepts, or it has a receive slot to post
and no teardown is unfinished. -/
def MaySubmit (custody : Custody) : Prop :=
  custody.stage.accepts = true ∨ custody.teardowns = 0 ∧ custody.receive ≠ []

/-- Everything that a step can do to the handles, with its acts. -/
inductive Step : Custody → List Effect → Custody → Prop where
  | used {custody stage effects} (follows : custody.stage.Follows stage)
      (harmless : ∀ effect ∈ effects,
        effect.kind ≠ .allocate ∧ effect.kind ≠ .free ∧ effect.kind ≠ .poison)
      (entitled : ∀ effect ∈ effects, effect.submitted? ≠ none → custody.MaySubmit) :
      Step custody effects { custody with stage := stage }
  | acquired {custody next effects} (created : custody.stage = .created)
      (running : next.stage = .running) (teardowns : next.teardowns = custody.teardowns)
      (kinds : ∀ effect ∈ effects, effect.kind = .allocate) (distinct : (issued effects).Nodup)
      (balanced : ∀ handle,
        next.count handle = custody.count handle + (issued effects).count handle) :
      Step custody effects next
  | acquisitionFailed {custody next early late} (created : custody.stage = .created)
      (dead : next.stage = .dead) (teardowns : next.teardowns = custody.teardowns + 1)
      (early_kinds : ∀ effect ∈ early, effect.kind = .allocate) (distinct : (issued early).Nodup)
      (balanced : ∀ handle, next.count handle = custody.count handle + (issued early).count handle)
      (late_kinds : ∀ effect ∈ late, effect.kind ∈ [Effect.Kind.poison, .log])
      (poisons : poisoned late = next.receive) :
      Step custody (early ++ late) next
  | begun {custody effects} (kinds : ∀ effect ∈ effects, effect.kind ∈ [Effect.Kind.poison, .log])
      (poisons : poisoned effects = custody.receive) :
      Step custody effects
        { custody with stage := .dead, teardowns := custody.teardowns + 1 }
  | finished {custody effects} (begun : custody.teardowns ≠ 0)
      (kinds : ∀ effect ∈ effects, effect.kind ∈ [Effect.Kind.free, .poison, .log])
      (counted : ∀ handle, (freed effects).count handle = custody.count handle)
      (poisons : Throughout (fun past effect => ∀ handle, effect.freed? = some handle →
        handle ∈ custody.receive ∨ handle ∈ poisoned past) effects)
      (owned : ∀ handle ∈ poisoned effects, ∃ lane, handle ∈ custody.transmit lane) :
      Step custody effects
        { custody with
          receive := []
          transmit := fun _ => []
          teardowns := custody.teardowns - 1 }

/-! ## The account -/

/-- What the acts so far and the rings say about each other. -/
structure Kept (custody : Custody) (trace : List Effect) : Prop where
  distinct : (issued trace).Nodup
  balanced : ∀ handle,
    (issued trace).count handle = custody.count handle + (freed trace).count handle
  created : custody.stage = .created → issued trace = []
  clean : custody.stage ≠ .dead → freed trace = [] ∧ poisoned trace = []
  begun : custody.teardowns ≠ 0 → custody.stage = .dead
  poisoned : custody.stage = .dead → ∀ handle ∈ custody.receive, handle ∈ poisoned trace
  released : custody.stage = .dead → custody.teardowns = 0 → ∀ handle, custody.count handle = 0

variable {custody next : Custody} {trace effects : List Effect}

theorem Kept.nodup_freed (kept : Kept custody trace) : (freed trace).Nodup := by
  rw [List.nodup_iff_count_le_one]
  intro handle
  have bound := List.nodup_iff_count_le_one.mp kept.distinct handle
  have balance := kept.balanced handle
  omega

/-- No handle is in the receive ring twice. -/
theorem Kept.nodup_receive (kept : Kept custody trace) : custody.receive.Nodup := by
  rw [List.nodup_iff_count_le_one]
  intro handle
  have bound := List.nodup_iff_count_le_one.mp kept.distinct handle
  have balance := kept.balanced handle
  rw [count] at balance
  omega

/-- Whoever may submit has nothing poisoned or given back. -/
theorem Kept.clean_of_maySubmit (kept : Kept custody trace) (may : custody.MaySubmit) :
    freed trace = [] ∧ WlanDatapath.poisoned trace = [] := by
  apply kept.clean
  intro dead
  rcases may with accepts | ⟨idle, held⟩
  · rw [dead] at accepts
    contradiction
  · obtain ⟨handle, member⟩ := List.exists_mem_of_ne_nil _ held
    have none := kept.released dead idle handle
    have some := List.count_pos_iff.mpr member
    unfold count at none
    omega

theorem Kept.used (kept : Kept custody trace) {stage : Stage}
    (follows : custody.stage.Follows stage)
    (harmless : ∀ effect ∈ effects,
      effect.kind ≠ .allocate ∧ effect.kind ≠ .free ∧ effect.kind ≠ .poison) :
    Kept { custody with stage := stage } (trace ++ effects) := by
  have noIssue := issued_append_of_ne trace fun effect member => (harmless effect member).1
  have noFree := freed_append_of_ne trace fun effect member => (harmless effect member).2.1
  have noPoison := poisoned_append_of_ne trace fun effect member => (harmless effect member).2.2
  have dead := follows.dead_iff
  refine ⟨noIssue ▸ kept.distinct, ?_, ?_, ?_, ?_, ?_, ?_⟩
  · rw [noIssue, noFree]
    exact kept.balanced
  · rw [noIssue]
    exact fun created => kept.created (follows.created_iff.mp created)
  · rw [noFree, noPoison]
    exact fun alive => kept.clean fun same => alive (dead.mpr same)
  · exact fun begun => dead.mpr (kept.begun begun)
  · rw [noPoison]
    exact fun same => kept.poisoned (dead.mp same)
  · exact fun same => kept.released (dead.mp same)

theorem Kept.acquired (kept : Kept custody trace) (created : custody.stage = .created)
    (running : next.stage = .running) (teardowns : next.teardowns = custody.teardowns)
    (kinds : ∀ effect ∈ effects, effect.kind = .allocate) (distinct : (issued effects).Nodup)
    (balanced : ∀ handle,
      next.count handle = custody.count handle + (issued effects).count handle) :
    Kept next (trace ++ effects) := by
  have fresh := kept.created created
  obtain ⟨noFree, noPoison⟩ := kept.clean (by simp [created])
  have noFrees : freed (trace ++ effects) = [] :=
    (freed_append_of_ne trace fun effect member => by simp [kinds effect member]).trans noFree
  have noPoisons : WlanDatapath.poisoned (trace ++ effects) = [] :=
    (poisoned_append_of_ne trace fun effect member => by simp [kinds effect member]).trans noPoison
  have allIssued : issued (trace ++ effects) = issued effects := by
    rw [issued_append, fresh, List.nil_append]
  refine ⟨allIssued ▸ distinct, ?_, ?_, fun _ => ⟨noFrees, noPoisons⟩, ?_, ?_, ?_⟩
  · intro handle
    have before := kept.balanced handle
    rw [fresh, noFree] at before
    rw [allIssued, noFrees, balanced]
    simp only [List.count_nil] at before ⊢
    omega
  · simp [running]
  · intro begun
    have dead := kept.begun (teardowns ▸ begun)
    rw [created] at dead
    contradiction
  · simp [running]
  · simp [running]

theorem Kept.begin (kept : Kept custody trace)
    (kinds : ∀ effect ∈ effects, effect.kind ∈ [Effect.Kind.poison, .log])
    (poisons : WlanDatapath.poisoned effects = custody.receive) :
    Kept { custody with stage := .dead, teardowns := custody.teardowns + 1 }
      (trace ++ effects) := by
  have noIssue := issued_append_of_ne trace fun effect member kind => by
    simpa [kind] using kinds effect member
  have noFree := freed_append_of_ne trace fun effect member kind => by
    simpa [kind] using kinds effect member
  refine ⟨noIssue ▸ kept.distinct, ?_, by simp, by simp, by simp, ?_, by simp⟩
  · rw [noIssue, noFree]
    exact kept.balanced
  · rintro - handle member
    rw [poisoned_append, List.mem_append]
    exact Or.inr (poisons ▸ member)

theorem Kept.finish (kept : Kept custody trace) (begun : custody.teardowns ≠ 0)
    (kinds : ∀ effect ∈ effects, effect.kind ∈ [Effect.Kind.free, .poison, .log])
    (counted : ∀ handle, (freed effects).count handle = custody.count handle) :
    Kept
      { custody with
        receive := []
        transmit := fun _ => []
        teardowns := custody.teardowns - 1 }
      (trace ++ effects) := by
  have dead := kept.begun begun
  have noIssue := issued_append_of_ne trace fun effect member kind => by
    simpa [kind] using kinds effect member
  refine ⟨noIssue ▸ kept.distinct, ?_, ?_, ?_, fun _ => dead, by simp, ?_⟩
  · intro handle
    have before := kept.balanced handle
    rw [noIssue, freed_append, List.count_append, counted, before]
    simp [count, Nat.add_comm]
  · intro created
    exact absurd (created.symm.trans dead) (by simp)
  · exact fun alive => absurd dead alive
  · simp [count]

/-- The account is kept by every step. -/
theorem Kept.step (kept : Kept custody trace) (step : Step custody effects next) :
    Kept next (trace ++ effects) := by
  cases step with
  | used follows harmless entitled => exact kept.used follows harmless
  | acquired created running teardowns kinds distinct balanced =>
      exact kept.acquired created running teardowns kinds distinct balanced
  | @acquisitionFailed _ early late created dead teardowns kinds distinct balanced lateKinds
      poisons =>
      have middle : Kept { next with stage := .running, teardowns := custody.teardowns }
          (trace ++ early) :=
        kept.acquired created rfl rfl kinds distinct balanced
      have whole := middle.begin lateKinds poisons
      rw [← List.append_assoc]
      rw [← dead, ← teardowns] at whole
      exact whole
  | begun kinds poisons => exact kept.begin kinds poisons
  | finished begun kinds counted => exact kept.finish begun kinds counted

/-- A step moves handles between the rings and the transport, and nowhere else. -/
theorem Step.balanced (step : Step custody effects next) (handle : Handle) :
    next.count handle + (freed effects).count handle =
      custody.count handle + (issued effects).count handle := by
  have still : ∀ {acts : List Effect},
      (∀ effect ∈ acts, effect.kind ≠ .allocate ∧ effect.kind ≠ .free) →
        issued acts = [] ∧ freed acts = [] := fun harmless =>
    ⟨issued_eq_nil fun effect member => (harmless effect member).1,
      freed_eq_nil fun effect member => (harmless effect member).2⟩
  have of_kinds : ∀ {acts : List Effect},
      (∀ effect ∈ acts, effect.kind ∈ [Effect.Kind.poison, .log]) →
        issued acts = [] ∧ freed acts = [] := by
    intro acts kinds
    apply still
    intro effect member
    have kind := kinds effect member
    constructor <;> intro same <;> simp [same] at kind
  cases step with
  | used _ harmless =>
      obtain ⟨noIssue, noFree⟩ := still fun effect member =>
        ⟨(harmless effect member).1, (harmless effect member).2.1⟩
      rw [noIssue, noFree]
      rfl
  | acquired _ _ _ kinds _ balanced =>
      rw [balanced, freed_eq_nil fun effect member => by simp [kinds effect member]]
      rfl
  | acquisitionFailed _ _ _ kinds _ balanced lateKinds =>
      obtain ⟨noIssue, noFree⟩ := of_kinds lateKinds
      rw [balanced, issued_append, freed_append, noIssue, noFree, List.append_nil,
        List.append_nil, freed_eq_nil fun effect member => by simp [kinds effect member]]
      rfl
  | begun kinds =>
      obtain ⟨noIssue, noFree⟩ := of_kinds kinds
      rw [noIssue, noFree]
      rfl
  | finished _ kinds counted =>
      have noIssue : issued effects = [] := issued_eq_nil fun effect member same => by
        simpa [same] using kinds effect member
      rw [noIssue, counted]
      simp [count]

/-- The device is dead, and no ring has a handle. -/
structure Emptied (custody : Custody) : Prop where
  dead : custody.stage = .dead
  receive : custody.receive = []
  transmit : ∀ lane, custody.transmit lane = []

theorem Emptied.count (emptied : custody.Emptied) (handle : Handle) : custody.count handle = 0 := by
  simp [Custody.count, emptied.receive, emptied.transmit]

/-- Without handles the transport is left alone. -/
theorem Emptied.step (emptied : custody.Emptied) (step : Step custody effects next) :
    next.Emptied ∧ ∀ effect ∈ effects, effect.kind.isTransport = false := by
  obtain ⟨dead, receive, transmit⟩ := emptied
  have noSubmission : ¬ custody.MaySubmit := by
    rintro (accepts | ⟨-, held⟩)
    · rw [dead] at accepts
      contradiction
    · exact held receive
  have silent : (∀ effect ∈ effects, effect.kind ∈ [Effect.Kind.free, .poison, .log]) →
      freed effects = [] → WlanDatapath.poisoned effects = [] →
      ∀ effect ∈ effects, effect.kind.isTransport = false := by
    intro kinds noFree noPoison effect member
    have kind := kinds effect member
    have gives := List.filterMap_eq_nil_iff.mp noFree effect member
    have poisons := List.filterMap_eq_nil_iff.mp noPoison effect member
    cases effect <;> simp_all [Effect.kind, Effect.Kind.isTransport, Effect.freed?,
      Effect.poisoned?]
  cases step with
  | used follows harmless entitled =>
      refine ⟨⟨follows.dead_iff.mpr dead, receive, transmit⟩, ?_⟩
      intro effect member
      have calm := harmless effect member
      have refused : effect.submitted? = none := by
        by_contra submits
        exact noSubmission (entitled effect member submits)
      cases effect <;> simp_all [Effect.kind, Effect.Kind.isTransport, Effect.submitted?]
  | acquired created | acquisitionFailed created =>
      rw [dead] at created
      contradiction
  | begun kinds poisons =>
      refine ⟨⟨rfl, receive, transmit⟩, silent ?_ ?_ (poisons.trans receive)⟩
      · exact fun effect member => List.mem_cons_of_mem _ (kinds effect member)
      · apply freed_eq_nil
        intro effect member kind
        simpa [kind] using kinds effect member
  | finished begun kinds counted poisons owned =>
      refine ⟨⟨dead, rfl, fun _ => rfl⟩, silent kinds ?_ ?_⟩
      · apply List.eq_nil_iff_forall_not_mem.mpr
        intro handle member
        have some := List.count_pos_iff.mpr member
        rw [counted, Custody.count, receive] at some
        simp [transmit] at some
      · apply List.eq_nil_iff_forall_not_mem.mpr
        intro handle member
        obtain ⟨lane, inLane⟩ := owned handle member
        rw [transmit lane] at inLane
        simp at inLane

/-- Every act of a step is lawful. -/
theorem Kept.lawful (kept : Kept custody trace) (step : Step custody effects next) :
    Throughout (fun past effect => effect.IsLawful (trace ++ past)) effects := by
  intro past effect later split
  have member : effect ∈ effects := by simp [split]
  cases step with
  | used follows harmless entitled =>
      constructor
      · intro handle gives
        rw [Effect.watches_freed? _ (harmless effect member).2.1] at gives
        contradiction
      · intro handle submits
        obtain ⟨noFree, noPoison⟩ :=
          kept.clean_of_maySubmit (entitled effect member (by simp [submits]))
        have before : ∀ other ∈ past, other ∈ effects := fun other inPast => by
          simp [split, inPast]
        have noFrees := freed_eq_nil fun other inPast => (harmless other (before other inPast)).2.1
        have noPoisons :=
          poisoned_eq_nil fun other inPast => (harmless other (before other inPast)).2.2
        rw [poisoned_append, freed_append, noFree, noPoison, noFrees, noPoisons]
        simp
  | acquired created running teardowns kinds =>
      exact effect.isLawful_of_kind _ (by simp [kinds effect member])
  | acquisitionFailed created dead teardowns kinds distinct balanced lateKinds =>
      apply effect.isLawful_of_kind
      rcases List.mem_append.mp member with inEarly | inLate
      · simp [kinds effect inEarly]
      · have kind := lateKinds effect inLate
        simp only [List.mem_cons, List.not_mem_nil, or_false] at kind
        rcases kind with kind | kind <;> simp [kind]
  | begun kinds =>
      apply effect.isLawful_of_kind
      have kind := kinds effect member
      simp only [List.mem_cons, List.not_mem_nil, or_false] at kind
      rcases kind with kind | kind <;> simp [kind]
  | finished begun kinds counted poisons owned =>
      constructor
      · intro handle gives
        constructor
        · have owned : 0 < (freed effects).count handle :=
            List.count_pos_iff.mpr (List.mem_filterMap.mpr ⟨effect, member, gives⟩)
          have balance := kept.balanced handle
          rw [issued_append, List.mem_append]
          left
          rw [← List.count_pos_iff]
          rw [counted handle] at owned
          show 0 < (issued trace).count handle
          omega
        · rw [poisoned_append, List.mem_append]
          rcases poisons past effect later split handle gives with inReceive | before
          · exact Or.inl (kept.poisoned (kept.begun begun) handle inReceive)
          · exact Or.inr before
      · intro handle submits
        have kind := kinds effect member
        rw [Effect.submitted?_eq_none] at submits
        · contradiction
        · simp only [List.mem_cons, List.not_mem_nil, or_false] at kind
          rcases kind with kind | kind | kind <;> simp [kind]

end Custody

/-! ## Inputs that are neither bringing up nor tearing down -/

/-- A routine input neither acquires nor gives back nor poisons. -/
theorem Input.kinds_of_isRoutine {input : Input} (routine : input.isRoutine = true) :
    Effect.Kind.allocate ∉ input.kinds ∧ Effect.Kind.free ∉ input.kinds ∧
      Effect.Kind.poison ∉ input.kinds := by
  cases input <;> simp_all [isRoutine, kinds]

namespace Engine

variable {before after : Engine}

/-- Neither bringing up nor a teardown gets further. -/
def Rests (before after : Engine) : Prop :=
  after.bringUp = before.bringUp ∧ after.teardowns = before.teardowns

theorem Rests.of_receives (receives : before.Receives after) : before.Rests after := by
  rw [receives.others]
  exact ⟨rfl, rfl⟩

theorem Rests.of_reception_eq {stage : Stage}
    (same : after.reception = { before.reception with stage := stage }) : before.Rests after :=
  ⟨congrArg Reception.bringUp same, congrArg Reception.teardowns same⟩

end Engine

/-- Neither bringing up nor a teardown gets further at a routine input. -/
theorem Moment.rests {moment : Moment} (routine : moment.input.isRoutine = true) :
    moment.before.Rests moment.after := by
  obtain ⟨engine, input⟩ := moment
  cases input with
  | startBringUp | proceedBringUp | answerPost | beginTeardown | finishTeardown => cases routine
  | completeReceive | startPass | proceedPass | answerDelivery =>
      exact .of_receives (receives rfl)
  | answerRepost refusal =>
      obtain ⟨bringUp, teardowns⟩ := Engine.Rests.of_receives (engine.receives_answerRepost refusal)
      exact ⟨bringUp, teardowns⟩
  | enqueue memory answer frame key queue =>
      obtain ⟨stage, -, same⟩ := Reception.reception_enqueue engine memory answer frame key queue
      exact .of_reception_eq same
  | completeTransmit address transfer =>
      exact .of_reception_eq (Reception.reception_completeTransmit engine address transfer)
  | finishStatistics =>
      rw [after_finishStatistics, Engine.finishStatistics]
      simp only
      split <;> exact ⟨rfl, rfl⟩

namespace Reception

variable {reception next : Reception} {event : Event}

/-- While bringing up and teardowns rest, the ring keeps its handles. -/
theorem Step.of_rests (step : Step reception event next) (sound : reception.Sound)
    (bringUp : next.bringUp = reception.bringUp)
    (teardowns : next.teardowns = reception.teardowns) :
    next.ring.handles = reception.ring.handles ∧ reception.stage.Follows next.stage ∧
      (event.submitted? ≠ none → reception.stage.accepts = true) := by
  have handles : event ≠ .acquired → event ≠ .drained →
      next.ring.handles = reception.ring.handles := step.handles_eq
  cases step with
  | acquired created | acquisitionFailed created =>
      rw [sound.untouched created] at bringUp
      cases bringUp
  | posted waiting | postTaken waiting | postRefused waiting | slotMissing waiting
  | cameUp waiting =>
      rw [waiting] at bringUp
      cases bringUp
  | passedOver waiting =>
      rw [waiting] at bringUp
      simp at bringUp
  | closed => exact absurd teardowns (Nat.succ_ne_self _)
  | drained begun =>
      simp only at teardowns
      omega
  | unchanged follows => exact ⟨rfl, follows, fun submits => absurd rfl submits⟩
  | refused _ follows =>
      exact ⟨handles (by simp) (by simp), follows, fun submits => absurd rfl submits⟩
  | givenBack _ accepts => exact ⟨rfl, Or.inl rfl, fun _ => accepts⟩
  | filed | dismissed | dismissedTo | passStarted | nothingLeft | slotLost | slotSkipped | opened
  | setAside | walked | rejected | dropped | handedUp | judged | kept | taken =>
      exact ⟨handles (by simp) (by simp), Or.inl rfl, fun submits => absurd rfl submits⟩

end Reception

namespace Transmission

variable {transmission next : Transmission} {event : Event}

/-- While the device neither starts nor is released, the rings keep their handles. -/
theorem Step.of_rests (step : Step transmission event next)
    (follows : transmission.stage.Follows next.stage)
    (teardowns : next.teardowns = transmission.teardowns) :
    (∀ lane : Lane, (next.lanes.get lane).slots = (transmission.lanes.get lane).slots) ∧
      (∀ config, event.transmitted config ≠ [] → transmission.stage.accepts = true) := by
  have slots : event ≠ .acquired → event ≠ .drained →
      ∀ lane : Lane, (next.lanes.get lane).slots = (transmission.lanes.get lane).slots := by
    intro kept held lane
    have moves := step.lane_step lane
    generalize next.lanes.get lane = ring at moves
    cases moves with
    | kept => rfl
    | published _ published => rw [(Ring.publish_eq_ok published).2]
    | retired _ retired => rw [(Ring.retire?_eq_some retired).2.2]
    | extended => exact absurd rfl kept
    | emptied => exact absurd rfl held
  cases step with
  | acquired created | acquisitionFailed created =>
      have impossible := follows.created_iff.mpr created
      cases impossible
  | closed => exact absurd teardowns (Nat.succ_ne_self _)
  | drained begun =>
      simp only at teardowns
      omega
  | taken accepts | refused accepts =>
      exact ⟨slots (by simp) (by simp), fun _ _ => accepts⟩
  | unchanged | retired | dismissed | ignored =>
      exact ⟨slots (by simp) (by simp), fun _ submits => absurd rfl submits⟩

end Transmission

/-- An act that submits is a submission for reception or for transmission. -/
theorem Effect.submitted?_ne_none {effect : Effect} (submits : effect.submitted? ≠ none) :
    effect.reposted? ≠ none ∨ effect.transmitted? ≠ none := by
  cases effect <;> simp_all [submitted?, reposted?, transmitted?]

/-- A routine input moves no handle, and only a device that accepts submits. -/
theorem Moment.custody_routine {moment : Moment} (sound : moment.before.Sound)
    (routine : moment.input.isRoutine = true) :
    Custody.Step moment.before.custody moment.effects moment.after.custody := by
  obtain ⟨bringUp, teardowns⟩ := moment.rests routine
  obtain ⟨received, reception, receives⟩ := moment.reception_step
  obtain ⟨sent, transmission, sends⟩ := moment.transmission_step
  obtain ⟨handles, follows, reposts⟩ := reception.of_rests sound.reception bringUp teardowns
  obtain ⟨slots, transmits⟩ := transmission.of_rests follows teardowns
  have same : moment.after.custody =
      { moment.before.custody with stage := moment.after.device.stage } := by
    unfold Engine.custody
    congr 1
    exact funext slots
  rw [same]
  refine .used follows ?_ ?_
  · intro effect member
    have possible := moment.kind_mem_kinds effect member
    obtain ⟨noIssue, noFree, noPoison⟩ := Input.kinds_of_isRoutine routine
    exact ⟨fun kind => noIssue (kind ▸ possible), fun kind => noFree (kind ▸ possible),
      fun kind => noPoison (kind ▸ possible)⟩
  · intro effect member submits
    left
    rcases Effect.submitted?_ne_none submits with reposted | transmitted
    · apply reposts
      intro none
      obtain ⟨handle, found⟩ := Option.ne_none_iff_exists'.mp reposted
      have inside : handle ∈ moment.reposted := List.mem_filterMap.mpr ⟨effect, member, found⟩
      rw [receives.reposted, none] at inside
      simp at inside
    · apply transmits moment.before.config
      intro none
      obtain ⟨submission, found⟩ := Option.ne_none_iff_exists'.mp transmitted
      have inside : submission ∈ moment.transmitted :=
        List.mem_filterMap.mpr ⟨effect, member, found⟩
      rw [sends.transmitted, none] at inside
      simp at inside

/-! ## Bringing up and tearing down -/

namespace Engine

variable {engine : Engine}

/-- A teardown poisons every handle of the receive ring. -/
theorem poisoned_beginTeardown (fits : engine.receive.slots.length ≤ receiveSlots) :
    poisoned engine.beginTeardown.2 = engine.receive.handles := by
  unfold beginTeardown
  simp only [List.take_of_length_le fits, poisoned_map_poison]
  rfl

theorem Sound.length_slots_le (sound : engine.Sound) :
    engine.receive.slots.length ≤ receiveSlots := by
  rw [← sound.reception.capacity]
  exact sound.reception.ring.slots_le

theorem custody_beginTeardown (fits : engine.receive.slots.length ≤ receiveSlots) :
    Custody.Step engine.custody engine.beginTeardown.2 engine.beginTeardown.1.custody := by
  refine .begun ?_ (poisoned_beginTeardown fits)
  intro effect member
  simp [engine.kind_beginTeardown effect member]

/-- Giving up bringing the device up begins a teardown. -/
theorem custody_abandon (fits : engine.receive.slots.length ≤ receiveSlots) (failure : Failure) :
    Custody.Step engine.custody (engine.abandon failure).2 (engine.abandon failure).1.custody :=
  .begun (engine.kind_abandon failure) (poisoned_beginTeardown fits)

/-- Releasing the ring of an output endpoint poisons each handle before it is given
back. -/
theorem throughout_releaseLane (lane : Lane) {ring : Ring Handle}
    (fits : ring.slots.length ≤ transmitSlots) :
    Throughout (fun past effect => ∀ handle, effect.freed? = some handle →
      handle ∈ poisoned past) (releaseLane lane ring) := by
  have all : ring.slots.take transmitSlots = ring.slots := List.take_of_length_le fits
  unfold releaseLane
  rw [all, Throughout.append_iff]
  constructor
  · rintro past effect later split handle gives
    have member : effect ∈ (if ring.used = 0 then []
        else [Effect.log (.inFlightAtTeardown lane ring.used)]) ++
          ring.slots.map Effect.poison := by
      simp [split]
    rcases List.mem_append.mp member with inLog | inPoison
    · split at inLog
      · simp at inLog
      · rw [List.mem_singleton.mp inLog] at gives
        cases gives
    · obtain ⟨other, -, rfl⟩ := List.mem_map.mp inPoison
      cases gives
  · rintro past effect later split handle gives
    have member : effect ∈ ring.slots.map Effect.free := by simp [split]
    obtain ⟨other, inRing, rfl⟩ := List.mem_map.mp member
    cases gives
    have poisons : poisoned (ring.slots.map Effect.poison) = ring.slots := by
      simpa using poisoned_map_poison ring.slots id
    rw [poisoned_append, poisoned_append, poisons]
    simp [inRing]

theorem freed_releaseLane (lane : Lane) (ring : Ring Handle) :
    freed (releaseLane lane ring) = ring.slots := by
  have frees : freed (ring.slots.map Effect.free) = ring.slots := by
    simpa using freed_map_free ring.slots id
  have silent : freed ((if ring.used = 0 then []
      else [Effect.log (.inFlightAtTeardown lane ring.used)]) ++
        (ring.slots.take transmitSlots).map Effect.poison) = [] := by
    apply freed_eq_nil
    intro effect member
    rcases List.mem_append.mp member with inLog | inPoison
    · split at inLog
      · simp at inLog
      · simp [List.mem_singleton.mp inLog, Effect.kind]
    · obtain ⟨other, -, rfl⟩ := List.mem_map.mp inPoison
      simp [Effect.kind]
  unfold releaseLane
  rw [freed_append, silent, frees, List.nil_append]

/-- Releasing the ring of an output endpoint poisons nothing else. -/
theorem mem_of_poisoned_releaseLane {lane : Lane} {ring : Ring Handle} {handle : Handle}
    (member : handle ∈ poisoned (releaseLane lane ring)) : handle ∈ ring.slots := by
  obtain ⟨effect, inEffects, poisons⟩ := List.mem_filterMap.mp member
  rcases of_mem_releaseLane inEffects with rfl | ⟨other, inRing, rfl⟩ | ⟨other, -, rfl⟩
  · cases poisons
  · cases poisons
    exact inRing
  · cases poisons

/-- The second part of a teardown gives back what is in the rings. -/
theorem custody_finishTeardown? (sound : engine.Sound) {finished : Engine × List Effect}
    (finish : engine.finishTeardown? = some finished) :
    Custody.Step engine.custody finished.2 finished.1.custody := by
  have kinds := engine.kind_finishTeardown? finish
  obtain ⟨begun, -, rfl⟩ := finishTeardown?_eq_some finish
  have whole : ({ engine with
      deferred := engine.deferred.dropRequest
      receive := engine.receive.drain.2
      transmit := engine.transmit.map fun ring => ring.drain.2
      teardowns := engine.teardowns - 1 } : Engine).custody =
      { engine.custody with
        receive := []
        transmit := fun _ => []
        teardowns := engine.custody.teardowns - 1 } := by
    simp [custody, Ring.handles, Ring.drain, Ring.empty]
  rw [whole]
  have noPoison : poisoned (engine.receive.drain.1.map fun slot => Effect.free slot.handle) =
      [] := by
    apply poisoned_eq_nil
    intro effect member
    obtain ⟨slot, -, rfl⟩ := List.mem_map.mp member
    simp [Effect.kind]
  refine .finished begun kinds ?_ ?_ ?_
  · intro handle
    have lanes : freed ((List.finRange laneCount).flatMap fun lane =>
        releaseLane lane (engine.transmit.get lane)) =
        (List.finRange laneCount).flatMap fun lane => (engine.transmit.get lane).slots := by
      unfold freed
      rw [List.filterMap_flatMap]
      exact congrArg (List.flatMap · _) (funext fun lane => freed_releaseLane lane _)
    rw [freed_append, freed_map_free, lanes, List.count_append, List.count_flatMap,
      ← Fin.sum_univ_def]
    rfl
  · rw [Throughout.append_iff]
    constructor
    · rintro past effect later split handle gives
      have member : effect ∈ engine.receive.drain.1.map fun slot => Effect.free slot.handle := by
        simp [split]
      obtain ⟨slot, inRing, rfl⟩ := List.mem_map.mp member
      cases gives
      exact Or.inl (List.mem_map_of_mem inRing)
    · have fits : ∀ lane : Lane, (engine.transmit.get lane).slots.length ≤ transmitSlots := by
        intro lane
        rw [← sound.transmission.capacity lane]
        exact (sound.transmission.lanes lane).slots_le
      have lanes : Throughout (fun past effect => ∀ handle, effect.freed? = some handle →
          handle ∈ poisoned past)
          ((List.finRange laneCount).flatMap fun lane =>
            releaseLane lane (engine.transmit.get lane)) := by
        apply Throughout.flatMap
        · intro earlier past effect poisons handle gives
          rw [poisoned_append]
          exact List.mem_append_right _ (poisons handle gives)
        · intro lane _
          exact throughout_releaseLane lane (fits lane)
      refine lanes.imp ?_
      intro past effect poisons handle gives
      rw [poisoned_append]
      exact Or.inr (List.mem_append_right _ (poisons handle gives))
  · intro handle member
    rw [poisoned_append, noPoison, List.nil_append, poisoned, List.filterMap_flatMap] at member
    obtain ⟨lane, -, inLane⟩ := List.mem_flatMap.mp member
    exact ⟨lane, mem_of_poisoned_releaseLane inLane⟩

/-- An engine that was only created has room for everything. -/
theorem room_of_created (sound : engine.Sound) (created : engine.device.stage = .created) :
    engine.Room acquisitions := by
  have receive : engine.receive = .empty receiveSlots :=
    congrArg Reception.ring (sound.reception.untouched created)
  have transmit := sound.transmission.untouched created
  constructor
  · intro lane
    rw [count_acquisitions]
    show (engine.transmission.lanes.get lane).slots.length + _ ≤
      (engine.transmission.lanes.get lane).capacity
    rw [transmit lane]
    simp [Ring.empty]
  · rw [countP_acquisitions, receive]
    simp [Ring.empty]

/-- Acquiring puts every handle that is issued into one slot. -/
theorem count_acquire (sound : engine.Sound) (created : engine.device.stage = .created)
    (supply : Supply) (handle : Handle) :
    (engine.acquire supply acquisitions).1.custody.count handle =
      engine.custody.count handle +
        (issued (engine.acquire supply acquisitions).2.1).count handle := by
  obtain ⟨slots, handles, accounted⟩ := engine.acquire_accounted supply acquisitions
  rw [accounted.balanced (room_of_created sound created) handle]
  have receive : (engine.acquire supply acquisitions).1.receive.handles =
      engine.receive.handles ++ slots.map (·.handle) := by
    rw [accounted.acquired.receive]
    simp [Ring.handles, Ring.extend]
  have transmit : ∀ lane : Lane,
      ((engine.acquire supply acquisitions).1.transmit.get lane).slots =
        (engine.transmit.get lane).slots ++ handles lane := by
    intro lane
    rw [accounted.acquired.transmit lane]
    rfl
  simp only [Custody.count, custody, receive, transmit, List.count_append,
    Finset.sum_add_distrib]
  omega

/-- While there is room, acquiring gives nothing back. -/
theorem kind_acquire_of_created (sound : engine.Sound) (created : engine.device.stage = .created)
    (supply : Supply) :
    ∀ effect ∈ (engine.acquire supply acquisitions).2.1, effect.kind = .allocate := by
  obtain ⟨slots, handles, accounted⟩ := engine.acquire_accounted supply acquisitions
  intro effect member
  rcases engine.kind_acquire supply acquisitions effect member with kind | kind
  · exact kind
  · have none := List.filterMap_eq_nil_iff.mp
      (accounted.kept (room_of_created sound created)) effect member
    cases effect <;> simp_all [Effect.kind, Effect.freed?]

/-- Acquiring distinct handles issues each of them once. -/
theorem balanced_acquire (sound : engine.Sound) (created : engine.device.stage = .created)
    (supply : Supply) (distinct : supply.handles.Nodup) :
    (∀ effect ∈ (engine.acquire supply acquisitions).2.1, effect.kind = .allocate) ∧
      (issued (engine.acquire supply acquisitions).2.1).Nodup ∧
      ∀ handle, (engine.acquire supply acquisitions).1.custody.count handle =
        engine.custody.count handle +
          (issued (engine.acquire supply acquisitions).2.1).count handle := by
  obtain ⟨slots, handles, accounted⟩ := engine.acquire_accounted supply acquisitions
  exact ⟨kind_acquire_of_created sound created supply, accounted.taken.sublist.nodup distinct,
    count_acquire sound created supply⟩

theorem custody_startBringUp (sound : engine.Sound) (supply : Supply)
    (distinct : supply.handles.Nodup) :
    Custody.Step engine.custody (engine.startBringUp supply).2.1
      (engine.startBringUp supply).1.custody := by
  by_cases created : engine.device.stage = .created
  · obtain ⟨kinds, single, balanced⟩ := balanced_acquire sound created supply distinct
    obtain ⟨slots, handles, accounted⟩ := engine.acquire_accounted supply acquisitions
    have others := accounted.acquired.others
    have receive := accounted.acquired.receive
    rw [startBringUp, if_neg (by simp [created])]
    cases result : engine.acquire supply acquisitions with
    | mk acquired rest =>
        obtain ⟨effects, failure⟩ := rest
        rw [result] at kinds single balanced others receive
        simp only at kinds single balanced others receive
        have stage : acquired.device = engine.device := by rw [others]
        have teardowns : acquired.teardowns = engine.teardowns := by rw [others]
        cases failure with
        | none =>
            refine .acquired created ?_ teardowns kinds single balanced
            simp [custody, stage, Device.start, created]
        | some failure =>
            have fits : acquired.receive.slots.length ≤ receiveSlots := by
              have empty : engine.receive = .empty receiveSlots :=
                congrArg Reception.ring (sound.reception.untouched created)
              rw [receive, empty, ← countP_acquisitions]
              simpa [Ring.extend, Ring.empty] using accounted.within.1
            exact .acquisitionFailed created rfl (congrArg (· + 1) teardowns) kinds single balanced
              (acquired.kind_abandon failure) (poisoned_beginTeardown fits)
  · rw [startBringUp, if_pos created]
    exact .used (Or.inl rfl) (by simp) (by simp)

theorem custody_proceedBringUp? (sound : engine.Sound)
    (undisturbed : engine.bringUp.isPosting = true → engine.teardowns = 0) {step : BringUpStep}
    (proceeds : engine.proceedBringUp? = some step) :
    Custody.Step engine.custody step.2.1 step.1.custody := by
  cases bringUpMove_of_proceeds proceeds with
  | @posts index slot buffer posting _ found =>
      have kept : (engine.receive.modify index ReceiveSlot.vacate).handles =
          engine.receive.handles := Ring.handles_vacate _ _
      have present : engine.receive.handles ≠ [] :=
        List.ne_nil_of_mem (List.mem_map_of_mem (List.mem_of_getElem? found))
      have idle := undisturbed (by rw [posting]; rfl)
      simp only [custody, kept]
      exact .used (Or.inl rfl) (by simp [Effect.kind]) fun _ _ _ => Or.inr ⟨idle, present⟩
  | passes => exact .used (Or.inl rfl) (by simp) (by simp)
  | abandons => exact custody_abandon sound.length_slots_le _
  | comesUp => exact .used (Or.inl rfl) (by simp [Effect.kind]) (by simp [Effect.submitted?])
  | fails _ finish => exact custody_finishTeardown? sound finish

theorem custody_answerPost (sound : engine.Sound) (refusal : Option Refusal) :
    Custody.Step engine.custody (engine.answerPost refusal).2
      (engine.answerPost refusal).1.custody := by
  have ignored : Custody.Step engine.custody [] engine.custody :=
    .used (Or.inl rfl) (by simp) (by simp)
  unfold answerPost
  split
  next work submitting =>
    split
    · exact ignored
    next refusal =>
      simp only
      generalize (if refusal.fatal = true then engine.device.noteRemoval.2 else engine.device) =
        device
      let kept := { engine with device := device }.putBackAt work.index work.buffer
      have handles : kept.receive.handles = engine.receive.handles := Ring.handles_putBack _ _ _
      have fits : kept.receive.slots.length ≤ receiveSlots := by
        have same := congrArg List.length handles
        simp only [Ring.handles, List.length_map] at same
        rw [same]
        exact sound.length_slots_le
      have whole : (kept.abandon (.ofStatus refusal.status)).1.custody =
          { engine.custody with
            stage := .dead
            teardowns := engine.custody.teardowns + 1 } := by
        have same : (kept.abandon (.ofStatus refusal.status)).1.custody =
            { engine.custody with
              stage := .dead
              receive := kept.receive.handles
              teardowns := engine.custody.teardowns + 1 } := rfl
        rw [same, handles]
        rfl
      rw [whole]
      exact .begun (kept.kind_abandon _) ((poisoned_beginTeardown fits).trans handles)
  · exact ignored
  · exact ignored
  · exact ignored

end Engine

/-! ## Runs -/

namespace Moment

/-- The transport issues distinct handles, and buffers are not posted beside an
unfinished teardown. -/
def isOrderly (moment : Moment) : Bool :=
  match moment.input with
  | .startBringUp supply => decide supply.handles.Nodup
  | .proceedBringUp => !moment.before.bringUp.isPosting || moment.before.teardowns == 0
  | _ => true

/-- Every moment is a step of the handles. -/
theorem custody_step {moment : Moment} (sound : moment.before.Sound)
    (orderly : moment.isOrderly = true) :
    Custody.Step moment.before.custody moment.effects moment.after.custody := by
  obtain ⟨engine, input⟩ := moment
  have ignored : Custody.Step engine.custody [] engine.custody :=
    .used (Or.inl rfl) (by simp) (by simp)
  cases input with
  | startBringUp supply =>
      exact Engine.custody_startBringUp sound supply (of_decide_eq_true orderly)
  | proceedBringUp =>
      have undisturbed : engine.bringUp.isPosting = true → engine.teardowns = 0 := by
        intro posting
        simpa [isOrderly, posting] using orderly
      rw [effects_proceedBringUp, after_proceedBringUp]
      cases proceeds : engine.proceedBringUp? with
      | none => exact ignored
      | some step => exact Engine.custody_proceedBringUp? sound undisturbed proceeds
  | answerPost refusal => exact Engine.custody_answerPost sound refusal
  | beginTeardown => exact Engine.custody_beginTeardown sound.length_slots_le
  | finishTeardown =>
      rw [effects_finishTeardown, after_finishTeardown]
      cases finish : engine.finishTeardown? with
      | none => exact ignored
      | some finished => exact Engine.custody_finishTeardown? sound finish
  | completeReceive | startPass | proceedPass | answerDelivery | answerRepost | enqueue
  | completeTransmit | finishStatistics => exact custody_routine sound rfl

/-- At every moment, handles are issued into rings and given back from rings, whether
or not the transport issues them twice. -/
theorem balanced {moment : Moment} (sound : moment.before.Sound) (handle : Handle) :
    moment.after.custody.count handle + (freed moment.effects).count handle =
      moment.before.custody.count handle + (issued moment.effects).count handle := by
  obtain ⟨engine, input⟩ := moment
  replace sound : engine.Sound := sound
  cases input with
  | startBringUp supply =>
      rw [after_startBringUp, effects_startBringUp, Engine.startBringUp]
      split
      · rfl
      next created =>
        rw [not_not] at created
        have kinds := Engine.kind_acquire_of_created sound created supply
        have counted := Engine.count_acquire sound created supply handle
        cases result : engine.acquire supply acquisitions with
        | mk acquired rest =>
            obtain ⟨effects, failure⟩ := rest
            rw [result] at kinds counted
            have noFree : freed effects = [] :=
              freed_eq_nil fun effect member => by simp [kinds effect member]
            cases failure with
            | none =>
                show acquired.custody.count handle + (freed effects).count handle = _
                rw [noFree]
                exact counted
            | some failure =>
                show acquired.custody.count handle +
                    (freed (effects ++ (acquired.abandon failure).2)).count handle =
                  engine.custody.count handle +
                    (issued (effects ++ (acquired.abandon failure).2)).count handle
                have abandoned := acquired.kind_abandon failure
                rw [issued_append_of_ne effects fun effect member kind => by
                    simpa [kind] using abandoned effect member,
                  freed_append_of_ne effects fun effect member kind => by
                    simpa [kind] using abandoned effect member, noFree]
                exact counted
  | proceedBringUp =>
      rw [after_proceedBringUp, effects_proceedBringUp]
      cases proceeds : engine.proceedBringUp? with
      | none => rfl
      | some step =>
          rw [Option.getD_some]
          cases Engine.bringUpMove_of_proceeds proceeds with
          | @posts index =>
              have kept : (engine.receive.modify index ReceiveSlot.vacate).handles =
                  engine.receive.handles := Ring.handles_vacate _ _
              simp only [Engine.custody, kept]
              rfl
          | passes | comesUp => rfl
          | abandons => exact (Engine.custody_abandon sound.length_slots_le _).balanced handle
          | fails _ finish => exact (Engine.custody_finishTeardown? sound finish).balanced handle
  | answerPost | beginTeardown | finishTeardown | completeReceive | startPass | proceedPass
  | answerDelivery | answerRepost | enqueue | completeTransmit | finishStatistics =>
      exact (custody_step sound rfl).balanced handle

/-- A teardown is over, be it the one of a failed bringing up or another one. -/
def isReleased (moment : Moment) : Bool :=
  match moment.input, moment.reply with
  | .finishTeardown, .done => true
  | .proceedBringUp, .over (.error _) => true
  | _, _ => false

end Moment

/-- Once a teardown is over, the device is dead and no ring has a handle. -/
theorem Moment.emptied_of_isReleased {moment : Moment} (sound : moment.before.Sound)
    (released : moment.isReleased = true) : moment.after.custody.Emptied := by
  have drained : ∀ finished, moment.before.finishTeardown? = some finished →
      finished.1.custody.Emptied := by
    intro finished finish
    obtain ⟨begun, -, rfl⟩ := Engine.finishTeardown?_eq_some finish
    exact ⟨sound.reception.begun begun, rfl, fun lane => by simp [Engine.custody, Ring.drain,
      Ring.empty]⟩
  obtain ⟨engine, input⟩ := moment
  cases input with
  | finishTeardown =>
      rw [after_finishTeardown]
      cases finish : engine.finishTeardown? with
      | none => simp [isReleased, reply, Engine.step, Engine.unlessStuck, finish] at released
      | some finished => exact drained finished finish
  | proceedBringUp =>
      rw [after_proceedBringUp]
      cases proceeds : engine.proceedBringUp? with
      | none => simp [isReleased, reply, Engine.step, proceeds] at released
      | some step =>
          simp only [isReleased, reply, Engine.step, proceeds, Engine.ofBringUpStep] at released
          cases Engine.bringUpMove_of_proceeds proceeds with
          | posts | passes | abandons | comesUp => cases released
          | fails _ finish => exact drained _ finish
  | startBringUp | answerPost | completeReceive | startPass | proceedPass | answerDelivery
  | answerRepost | enqueue | completeTransmit | finishStatistics | beginTeardown =>
      cases released

/-- As long as the engine is up, no handle is given back. -/
theorem Engine.unreleased_of_isUp {config : Config} {inputs : List Input}
    (up : History.IsUp ((fresh config).history inputs)) {moment : Moment}
    (member : moment ∈ (fresh config).history inputs) : moment.isReleased = false := by
  rw [← Bool.not_eq_true]
  intro released
  have dead := (Moment.emptied_of_isReleased ((sound_fresh config).of_mem member) released).dead
  obtain ⟨past, later, split⟩ := List.append_of_mem member
  obtain ⟨before, input, after, rfl, -, rfl, -⟩ := history_eq_append_cons split
  have alive := up.alive
  rw [run_append, run_cons] at alive
  exact alive (dead_run dead after)

/-- Bringing up begins at most one teardown. -/
theorem Engine.le_teardowns_startBringUp (engine : Engine) (supply : Supply) :
    engine.teardowns ≤ (engine.startBringUp supply).1.teardowns := by
  rw [startBringUp]
  split
  · exact le_rfl
  · obtain ⟨slots, handles, accounted⟩ := engine.acquire_accounted supply acquisitions
    have others := accounted.acquired.others
    have same : (engine.acquire supply acquisitions).1.teardowns = engine.teardowns := by
      rw [others]
    split
    next acquired effects failure result =>
      rw [result] at same
      exact same.ge.trans (Nat.le_succ acquired.teardowns)
    next acquired effects result =>
      rw [result] at same
      exact same.ge

/-- Only the end of a teardown takes one off the number of teardowns. -/
theorem Moment.isReleased_of_teardowns_lt {moment : Moment}
    (fewer : moment.after.teardowns < moment.before.teardowns) : moment.isReleased = true := by
  obtain ⟨engine, input⟩ := moment
  have resting : Input.isRoutine input = true → (Moment.mk engine input).isReleased = true := by
    intro routine
    have same : (Moment.mk engine input).after.teardowns = engine.teardowns :=
      (Moment.rests routine).2
    exact absurd fewer same.not_lt
  cases input with
  | startBringUp supply =>
      exact absurd fewer (Nat.not_lt.mpr (engine.le_teardowns_startBringUp supply))
  | proceedBringUp =>
      rw [after_proceedBringUp] at fewer
      cases proceeds : engine.proceedBringUp? with
      | none =>
          rw [proceeds] at fewer
          exact absurd fewer (Nat.lt_irrefl _)
      | some step =>
          rw [proceeds, Option.getD_some] at fewer
          simp only [isReleased, reply, Engine.step, proceeds, Engine.ofBringUpStep]
          cases Engine.bringUpMove_of_proceeds proceeds with
          | posts | passes | comesUp => exact absurd fewer (Nat.lt_irrefl _)
          | abandons => exact absurd fewer (Nat.not_lt.mpr (Nat.le_succ _))
          | fails => rfl
  | answerPost refusal =>
      rw [after_answerPost, Engine.answerPost] at fewer
      split at fewer
      · split at fewer
        · exact absurd fewer (Nat.lt_irrefl _)
        · exact absurd fewer (Nat.not_lt.mpr (Nat.le_succ _))
      all_goals exact absurd fewer (Nat.lt_irrefl _)
  | beginTeardown => exact absurd fewer (Nat.not_lt.mpr (Nat.le_succ _))
  | finishTeardown =>
      rw [after_finishTeardown] at fewer
      cases finish : engine.finishTeardown? with
      | none =>
          rw [finish] at fewer
          exact absurd fewer (Nat.lt_irrefl _)
      | some finished =>
          simp [isReleased, reply, Engine.step, finish, Engine.unlessStuck, Engine.possible]
  | completeReceive | startPass | proceedPass | answerDelivery | answerRepost | enqueue
  | completeTransmit | finishStatistics => exact resting rfl

/-- Every handle that was issued was given back exactly once. -/
def Settled (trace : List Effect) : Prop :=
  ∀ handle ∈ issued trace, (freed trace).count handle = 1

theorem Custody.Kept.settled {custody : Custody} {trace : List Effect} (kept : custody.Kept trace)
    (emptied : custody.Emptied) : Settled trace := by
  intro handle member
  have balance := kept.balanced handle
  rw [emptied.count, List.count_eq_one_of_mem kept.distinct member] at balance
  omega

namespace Engine

/-- What holds of an engine and its history as long as the inputs are orderly. -/
structure Orderly (engine : Engine) (history : History) : Prop where
  kept : engine.custody.Kept (history.flatMap Moment.effects)
  lawful : Throughout Effect.IsLawful (history.flatMap Moment.effects)
  emptied : (∃ moment ∈ history, moment.isReleased = true) → engine.custody.Emptied
  settled : Throughout (fun past moment => moment.isReleased = true →
    Settled ((past ++ [moment]).flatMap Moment.effects)) history
  inert : Throughout (fun past moment => (∃ earlier ∈ past, earlier.isReleased = true) →
    ∀ effect ∈ moment.effects, effect.kind.isTransport = false) history

theorem orderly_fresh (config : Config) : (fresh config).Orderly [] where
  kept :=
    { distinct := by simp
      balanced := by simp [custody, Custody.count, fresh, Ring.handles, Ring.empty]
      created := by simp
      clean := by simp
      begun := by simp [custody, fresh]
      poisoned := by simp [custody, fresh]
      released := by simp [custody, fresh] }
  lawful := by simp
  emptied := by simp
  settled := by simp
  inert := by simp

theorem Orderly.after {moment : Moment} {history : History} (sound : moment.before.Sound)
    (orderly : moment.before.Orderly history) (distinct : moment.isOrderly = true) :
    moment.after.Orderly (history ++ [moment]) := by
  have step := moment.custody_step sound distinct
  have trace : (history ++ [moment]).flatMap Moment.effects =
      history.flatMap Moment.effects ++ moment.effects := by
    rw [List.flatMap_append, List.flatMap_singleton]
  have kept : moment.after.custody.Kept ((history ++ [moment]).flatMap Moment.effects) :=
    trace ▸ orderly.kept.step step
  refine ⟨kept, ?_, ?_, ?_, ?_⟩
  · rw [trace, Throughout.append_iff]
    exact ⟨orderly.lawful, orderly.kept.lawful step⟩
  · rintro ⟨earlier, member, released⟩
    rcases List.mem_append.mp member with early | last
    · exact ((orderly.emptied ⟨earlier, early, released⟩).step step).1
    · rw [List.mem_singleton.mp last] at released
      exact Moment.emptied_of_isReleased sound released
  · rw [Throughout.concat_iff]
    exact ⟨orderly.settled, fun released =>
      kept.settled (Moment.emptied_of_isReleased sound released)⟩
  · rw [Throughout.concat_iff]
    exact ⟨orderly.inert, fun released => ((orderly.emptied released).step step).2⟩

/-- The life of every handle, over whole runs.  As long as the transport issues
distinct handles, no handle is given back twice, none is given back before it was
issued and poisoned, and none is submitted after it was poisoned or given back,
whatever else happens and wherever bringing up fails.  When a teardown is over,
every handle was given back exactly once, and the transport is left alone from
then on. -/
theorem handles_disciplined (config : Config) (inputs : List Input)
    (orderly : ∀ moment ∈ (fresh config).history inputs, moment.isOrderly = true) :
    Disciplined ((fresh config).run inputs).2 ∧
      Throughout (fun past moment => moment.isReleased = true →
        Settled ((past ++ [moment]).flatMap Moment.effects)) ((fresh config).history inputs) ∧
      Throughout (fun past moment => (∃ earlier ∈ past, earlier.isReleased = true) →
        ∀ effect ∈ moment.effects, effect.kind.isTransport = false)
        ((fresh config).history inputs) := by
  have invariant := History.invariant
    (fun engine history => engine.Sound ∧
      ((∀ moment ∈ history, moment.isOrderly = true) → engine.Orderly history))
    ⟨sound_fresh config, fun _ => orderly_fresh config⟩ ?_ inputs
  · obtain ⟨kept, lawful, -, settled, inert⟩ := invariant.2 orderly
    rw [run_effects]
    exact ⟨⟨kept.nodup_freed, lawful⟩, settled, inert⟩
  · rintro history moment ⟨sound, before⟩
    refine ⟨sound.after, fun calm => ?_⟩
    exact Orderly.after sound (before fun earlier member => calm earlier (by simp [member]))
      (calm moment (by simp))

/-- A teardown that begins while a frame is being judged. -/
def overlapInputs : List Input :=
  let segment : Segment := ⟨(0, 0), .blank, [8, 0, 0, 0], ⟨0⟩⟩
  let all : Memory := fun _ => true
  bringUpInputs ++
    [.completeReceive ⟨384, ⟨segment.encode⟩, .ok, 36⟩, .startPass, .proceedPass all,
      .proceedPass all, .beginTeardown, .answerDelivery true, .proceedPass all,
      .proceedPass all, .proceedPass all, .finishTeardown]

/-- The discipline of a run in which a teardown has to wait for the pass. -/
theorem handles_disciplined_overlap :
    (∃ moment ∈ (fresh .small).history overlapInputs, moment.isReleased = true) ∧
      Disciplined ((fresh .small).run overlapInputs).2 := by
  refine ⟨by decide +kernel, (handles_disciplined .small overlapInputs ?_).1⟩
  -- deciding that the handles supplied are distinct would compare each with each
  rw [overlapInputs, bringUpInputs, List.cons_append, history, List.forall_mem_cons]
  constructor
  · simp only [Moment.isOrderly, Supply.nodup_ample, decide_true]
  · decide +kernel

end Engine

end WlanDatapath
