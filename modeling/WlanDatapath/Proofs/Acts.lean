import WlanDatapath.Proofs.History

/-!
# The acts of an engine

Each kind of act belongs to a few inputs: `Input.kinds` lists what an input can
lead to, and `Moment.kind_mem_kinds` says that nothing else happens.  So an
observation of a run that looks for one kind of act only has to look at the
inputs that lead to it.
-/

namespace WlanDatapath

/-! ## Kinds of acts -/

/-- The kinds of acts of an engine. -/
inductive Effect.Kind where
  | allocate
  | free
  | poison
  | submitReceive
  | submitTransmit
  | deliver
  | reportSent
  | stopQueue
  | wakeQueue
  | scheduleStatistics
  | raise
  | log
deriving DecidableEq, Repr

/-- The kind of an act. -/
def Effect.kind : Effect → Effect.Kind
  | .allocate _ => .allocate
  | .free _ => .free
  | .poison _ => .poison
  | .submitReceive _ _ => .submitReceive
  | .submitTransmit _ _ _ => .submitTransmit
  | .deliver _ _ => .deliver
  | .reportSent _ _ => .reportSent
  | .stopQueue _ => .stopQueue
  | .wakeQueue _ => .wakeQueue
  | .scheduleStatistics _ => .scheduleStatistics
  | .raise => .raise
  | .log _ => .log

/-- The kinds of acts that an input can lead to. -/
def Input.kinds : Input → List Effect.Kind
  | .startBringUp _ => [.allocate, .free, .poison, .log]
  | .proceedBringUp => [.submitReceive, .free, .poison, .log]
  | .answerPost _ => [.poison, .log]
  | .completeReceive _ => [.raise, .log]
  | .startPass => []
  | .proceedPass _ => [.submitReceive, .deliver, .log]
  | .answerDelivery _ => []
  | .answerRepost _ => [.log]
  | .enqueue _ _ _ _ _ => [.submitTransmit, .stopQueue, .log]
  | .completeTransmit _ _ => [.wakeQueue, .scheduleStatistics, .reportSent, .log]
  | .finishStatistics => [.scheduleStatistics]
  | .beginTeardown => [.poison]
  | .finishTeardown => [.free, .poison, .log]

namespace Engine

variable (engine : Engine)

theorem kind_complaint (status : Status) (line : LogLine) :
    ∀ effect ∈ engine.complaint status line, effect.kind = .log := by
  unfold complaint
  split <;> simp [Effect.kind]

theorem kind_reportOnce (anomaly : Anomaly) (line : LogLine) :
    ∀ effect ∈ (engine.reportOnce anomaly line).2, effect.kind = .log := by
  unfold reportOnce
  simp only
  split <;> simp [Effect.kind]

/-! ## Bringing up and tearing down -/

theorem kind_acquire (supply : Supply) (needed : List Acquisition) :
    ∀ effect ∈ (engine.acquire supply needed).2.1,
      effect.kind = .allocate ∨ effect.kind = .free := by
  induction needed generalizing engine supply with
  | nil => simp [acquire]
  | cons first later hypothesis =>
      cases first with
      | transmitStorage lane | receiveStorage =>
          simp only [acquire]
          split
          · exact hypothesis engine supply
          · simp
      | transmitHandle lane =>
          simp only [acquire]
          split
          · simp [Effect.kind]
          · split
            next next added =>
              intro effect member
              rcases List.mem_cons.mp member with rfl | inRest
              · exact Or.inl rfl
              · exact hypothesis next _ effect inRest
            next failure released added =>
              unfold addTransmitSlot at added
              split at added
              · contradiction
              · cases added
                simp [Effect.kind]
      | receiveSlot index =>
          simp only [acquire]
          split
          · split
            · simp [Effect.kind]
            · split
              next next added =>
                intro effect member
                rcases List.mem_cons.mp member with rfl | inRest
                · exact Or.inl rfl
                · exact hypothesis next _ effect inRest
              next failure released added =>
                unfold addReceiveSlot at added
                split at added
                · contradiction
                · cases added
                  simp [Effect.kind]
          · simp

theorem kind_beginTeardown :
    ∀ effect ∈ engine.beginTeardown.2, effect.kind = .poison := by
  intro effect member
  obtain ⟨slot, -, rfl⟩ := List.mem_map.mp member
  rfl

theorem kind_abandon (failure : Failure) :
    ∀ effect ∈ (engine.abandon failure).2, effect.kind ∈ [Effect.Kind.poison, .log] := by
  intro effect member
  unfold abandon at member
  rcases List.mem_cons.mp member with rfl | inTeardown
  · simp [Effect.kind]
  · simp [kind_beginTeardown engine effect inTeardown]

theorem kind_finishTeardown? {finished : Engine × List Effect}
    (finish : engine.finishTeardown? = some finished) :
    ∀ effect ∈ finished.2, effect.kind ∈ [Effect.Kind.free, .poison, .log] := by
  intro effect member
  rcases of_mem_finishTeardown? finish member with
    ⟨lane, count, rfl⟩ | ⟨handle, rfl⟩ | ⟨handle, rfl⟩ <;> simp [Effect.kind]

theorem kind_startBringUp (supply : Supply) :
    ∀ effect ∈ (engine.startBringUp supply).2.1,
      effect.kind ∈ [Effect.Kind.allocate, .free, .poison, .log] := by
  intro effect member
  unfold startBringUp at member
  have acquired := kind_acquire engine supply acquisitions
  split at member
  · simp at member
  · split at member
    next after effects failure result =>
      rw [result] at acquired
      rcases List.mem_append.mp member with inAcquire | inAbandon
      · rcases acquired effect inAcquire with kind | kind <;> simp [kind]
      · have kind := kind_abandon after failure effect inAbandon
        simp only [List.mem_cons, List.not_mem_nil, or_false] at kind
        rcases kind with kind | kind <;> simp [kind]
    next after effects result =>
      rw [result] at acquired
      rcases acquired effect member with kind | kind <;> simp [kind]

theorem kind_proceedBringUp? {step : BringUpStep} (proceeds : engine.proceedBringUp? = some step) :
    ∀ effect ∈ step.2.1,
      effect.kind ∈ [Effect.Kind.submitReceive, .free, .poison, .log] := by
  intro effect member
  cases bringUpMove_of_proceeds proceeds with
  | posts | comesUp => simp [List.mem_singleton.mp member, Effect.kind]
  | passes => simp at member
  | abandons =>
      have kind := kind_abandon engine .notReady effect member
      simp only [List.mem_cons, List.not_mem_nil, or_false] at kind
      rcases kind with kind | kind <;> simp [kind]
  | fails _ finish =>
      exact List.mem_cons_of_mem _ (kind_finishTeardown? engine finish effect member)

theorem kind_answerPost (refusal : Option Refusal) :
    ∀ effect ∈ (engine.answerPost refusal).2, effect.kind ∈ [Effect.Kind.poison, .log] := by
  unfold answerPost
  split
  · split
    · simp
    · exact kind_abandon _ _
  · simp
  · simp
  · simp

/-! ## Reception -/

theorem kind_dismissReceive (transfer : Transfer Buffer) (anomaly : Anomaly) (line : LogLine) :
    ∀ effect ∈ (engine.dismissReceive transfer anomaly line).2, effect.kind = .log :=
  kind_reportOnce _ anomaly line

theorem kind_fileReceive (transfer : Transfer Buffer) :
    ∀ effect ∈ (engine.fileReceive transfer).2, effect.kind = .raise := by
  unfold fileReceive
  simp only
  split <;> simp [Effect.kind]

theorem kind_completeReceive (transfer : Transfer Buffer) :
    ∀ effect ∈ (engine.completeReceive transfer).2, effect.kind ∈ [Effect.Kind.raise, .log] := by
  intro effect member
  unfold completeReceive at member
  rcases List.mem_append.mp member with inComplaint | inOutcome
  · simp [kind_complaint engine _ _ effect inComplaint]
  · split at inOutcome
    · simp at inOutcome
    · split at inOutcome
      · simp [kind_dismissReceive engine _ _ _ effect inOutcome]
      · split at inOutcome
        · simp [kind_fileReceive engine _ effect inOutcome]
        · simp [kind_dismissReceive engine _ _ _ effect inOutcome]

theorem kind_endWalk (work : Work) (walker : Walker) :
    ∀ effect ∈ (engine.endWalk work walker).2, effect.kind = .log := by
  unfold endWalk
  simp only
  split <;> simp [Effect.kind]

theorem kind_takeSegment (memory : Memory) (segment : Segment) (work : Work) (walker : Walker) :
    ∀ effect ∈ (engine.takeSegment memory segment work walker).2,
      effect.kind ∈ [Effect.Kind.deliver, .log] := by
  unfold takeSegment
  split
  · intro effect member
    simp [kind_reportOnce _ _ _ effect member]
  · split <;> simp [Effect.kind]

theorem kind_walkReceive (memory : Memory) (work : Work) (walker : Walker) :
    ∀ effect ∈ (engine.walkReceive memory work walker).2,
      effect.kind ∈ [Effect.Kind.deliver, .log] := by
  intro effect member
  unfold walkReceive at member
  split at member
  · simp [kind_endWalk engine _ _ effect member]
  · rcases List.mem_append.mp member with inReport | inEnd
    · simp [kind_reportOnce _ _ _ effect inReport]
    · simp [kind_endWalk _ _ _ effect inEnd]
  · exact kind_takeSegment engine _ _ _ _ effect member

theorem kind_proceedPass? {memory : Memory} {step : Engine × List Effect}
    (proceeds : engine.proceedPass? memory = some step) :
    ∀ effect ∈ step.2, effect.kind ∈ [Effect.Kind.submitReceive, .deliver, .log] := by
  unfold proceedPass? at proceeds
  intro effect member
  split at proceeds
  · contradiction
  · contradiction
  · contradiction
  · cases proceeds
    simp at member
  · cases proceeds
    exact List.mem_cons_of_mem _ (kind_walkReceive engine _ _ _ effect member)
  · cases proceeds
    unfold returnReceive at member
    split at member
    · simp [List.mem_singleton.mp member, Effect.kind]
    · simp at member

theorem kind_answerRepost (refusal : Option Refusal) :
    ∀ effect ∈ (engine.answerRepost refusal).2, effect.kind = .log := by
  unfold answerRepost
  split
  · split
    · simp
    · simp only
      split <;> simp [Effect.kind]
  · simp

/-! ## Transmission -/

theorem kind_enterTransmit (lane : Lane) (queue : UInt8) :
    ∀ effect ∈ (engine.enterTransmit lane queue).2.1, effect.kind = .stopQueue := by
  unfold enterTransmit
  split
  · simp
  · simp only
    split <;> simp [Effect.kind]

theorem kind_refuseTransmit (refusal : Refusal) :
    ∀ effect ∈ (engine.refuseTransmit refusal).2.1, effect.kind = .log := by
  unfold refuseTransmit
  simp only
  split
  · simp
  · exact kind_complaint _ _ _

theorem kind_enqueue (memory : Memory) (answer : Transfer Outgoing → Option Refusal)
    (frame : Outgoing) (key queue : UInt8) :
    ∀ effect ∈ (engine.enqueue memory answer frame key queue).2.1,
      effect.kind ∈ [Effect.Kind.submitTransmit, .stopQueue, .log] := by
  have move := engine.sendMove_enqueue memory answer frame key queue
  generalize engine.enqueue memory answer frame key queue = step at move ⊢
  cases move with
  | turnedDown => simp
  | overflowed => simp [Effect.kind]
  | @refused _ _ _ refusal =>
      rw [List.forall_mem_cons]
      refine ⟨by simp [Effect.kind], fun effect member => ?_⟩
      simp [kind_refuseTransmit engine refusal effect member]
  | @taken lane wrapped =>
      rw [List.forall_mem_cons]
      refine ⟨by simp [Effect.kind], fun effect member => ?_⟩
      simp [kind_enterTransmit engine lane wrapped.queue effect member]

/-- A frame that the transport refuses has passed every check. -/
theorem enqueue_of_refused {memory : Memory} {answer : Transfer Outgoing → Option Refusal}
    {frame : Outgoing} {key queue address : UInt8} {transfer : Transfer Outgoing}
    {refusal : Refusal}
    (refused : .submitTransmit address transfer (some refusal) ∈
      (engine.enqueue memory answer frame key queue).2.1) :
    engine.device.accepts = true ∧
      engine.enqueue memory answer frame key queue =
        ((engine.refuseTransmit refusal).1,
          .submitTransmit address transfer (some refusal) :: (engine.refuseTransmit refusal).2.1,
          (engine.refuseTransmit refusal).2.2) := by
  have move := engine.sendMove_enqueue memory answer frame key queue
  generalize engine.enqueue memory answer frame key queue = step at move refused ⊢
  cases move with
  | turnedDown | overflowed => simp at refused
  | refused ready =>
      rcases List.mem_cons.mp refused with same | inRefusal
      · simp only [Effect.submitTransmit.injEq, Option.some.injEq] at same
        obtain ⟨rfl, rfl, rfl⟩ := same
        exact ⟨ready.accepts, rfl⟩
      · cases engine.kind_refuseTransmit _ _ inRefusal
  | taken =>
      rcases List.mem_cons.mp refused with same | inEntry
      · simp at same
      · cases engine.kind_enterTransmit _ _ _ inEntry

theorem kind_acceptTransmit (lane : Lane) (transfer : Transfer Outgoing) :
    ∀ effect ∈ (engine.acceptTransmit lane transfer).2,
      effect.kind ∈ [Effect.Kind.wakeQueue, .scheduleStatistics, .reportSent] := by
  rw [snd_acceptTransmit]
  split <;> split <;> simp [Effect.kind]

theorem kind_dismissTransmit (line : LogLine) :
    ∀ effect ∈ (engine.dismissTransmit line).2, effect.kind = .log :=
  kind_reportOnce _ _ line

theorem kind_completeTransmit (address : UInt8) (transfer : Transfer Outgoing) :
    ∀ effect ∈ (engine.completeTransmit address transfer).2,
      effect.kind ∈ [Effect.Kind.wakeQueue, .scheduleStatistics, .reportSent, .log] := by
  intro effect member
  unfold completeTransmit at member
  rcases List.mem_append.mp member with inComplaint | inOutcome
  · simp [kind_complaint engine _ _ effect inComplaint]
  · split at inOutcome
    · simp [kind_dismissTransmit engine _ effect inOutcome]
    · simp only at inOutcome
      split at inOutcome
      · simp at inOutcome
      · split at inOutcome
        · have kind := kind_acceptTransmit engine _ _ effect inOutcome
          simp only [List.mem_cons, List.not_mem_nil, or_false] at kind
          rcases kind with kind | kind | kind <;> simp [kind]
        · simp [kind_dismissTransmit engine _ effect inOutcome]

end Engine

/-! ## Every act belongs to its input -/

/-- An input leads to no act of a kind that is not among its own. -/
theorem Moment.kind_mem_kinds (moment : Moment) :
    ∀ effect ∈ moment.effects, effect.kind ∈ moment.input.kinds := by
  obtain ⟨engine, input⟩ := moment
  intro effect member
  cases input with
  | startBringUp supply => exact engine.kind_startBringUp supply effect member
  | proceedBringUp =>
      rw [effects_proceedBringUp] at member
      cases proceeds : engine.proceedBringUp? with
      | none => simp [proceeds] at member
      | some step =>
          rw [proceeds] at member
          exact engine.kind_proceedBringUp? proceeds effect member
  | answerPost refusal => exact engine.kind_answerPost refusal effect member
  | completeReceive transfer => exact engine.kind_completeReceive transfer effect member
  | startPass => simp at member
  | proceedPass memory =>
      rw [effects_proceedPass] at member
      cases proceeds : engine.proceedPass? memory with
      | none => simp [proceeds] at member
      | some step =>
          rw [proceeds] at member
          exact engine.kind_proceedPass? proceeds effect member
  | answerDelivery accepted => simp at member
  | answerRepost refusal =>
      simp [Input.kinds, engine.kind_answerRepost refusal effect member]
  | enqueue memory answer frame key queue =>
      exact engine.kind_enqueue memory answer frame key queue effect member
  | completeTransmit address transfer =>
      exact engine.kind_completeTransmit address transfer effect member
  | finishStatistics =>
      rw [effects_finishStatistics, Engine.finishStatistics] at member
      split at member
      · simp [List.mem_singleton.mp member, Effect.kind, Input.kinds]
      · simp at member
  | beginTeardown => simp [Input.kinds, engine.kind_beginTeardown effect member]
  | finishTeardown =>
      rw [effects_finishTeardown] at member
      cases finish : engine.finishTeardown? with
      | none => simp [finish] at member
      | some finished =>
          rw [finish] at member
          exact engine.kind_finishTeardown? finish effect member

/-! ## Observations of acts -/

/-- An observation sees acts of one kind only. -/
def Effect.Watches {Observation : Type} (observe : Effect → Option Observation)
    (kind : Effect.Kind) : Prop :=
  ∀ effect, effect.kind ≠ kind → observe effect = none

section

variable {Observation : Type} {observe : Effect → Option Observation} {kind : Effect.Kind}

theorem Effect.Watches.filterMap_eq_nil (watches : Watches observe kind) {effects : List Effect}
    (other : ∀ effect ∈ effects, effect.kind ≠ kind) : effects.filterMap observe = [] := by
  rw [List.filterMap_eq_nil_iff]
  intro effect member
  exact watches effect (other effect member)

/-- An observation of other acts sees nothing in lines of the log. -/
theorem Effect.Watches.filterMap_logs (watches : Watches observe kind) (other : kind ≠ .log)
    {effects : List Effect} (logs : ∀ effect ∈ effects, effect.kind = .log) :
    effects.filterMap observe = [] :=
  watches.filterMap_eq_nil fun effect member => logs effect member ▸ other.symm

/-- Nothing is seen at an input that cannot lead to an act of the kind. -/
theorem Effect.Watches.effects_eq_nil (watches : Watches observe kind) (moment : Moment)
    (other : kind ∉ moment.input.kinds) : moment.effects.filterMap observe = [] := by
  apply watches.filterMap_eq_nil
  rintro effect member rfl
  exact other (moment.kind_mem_kinds effect member)

end

/-! ## Handles in acts -/

/-- The handle that an act acquires. -/
def Effect.issued? : Effect → Option Handle
  | .allocate granted => granted
  | _ => none

/-- The handle that an act gives back. -/
def Effect.freed? : Effect → Option Handle
  | .free handle => some handle
  | _ => none

/-- The handle that an act poisons. -/
def Effect.poisoned? : Effect → Option Handle
  | .poison handle => some handle
  | _ => none

/-- The handle on which an act submits a transfer. -/
def Effect.submitted? : Effect → Option Handle
  | .submitReceive _ transfer => some transfer.handle
  | .submitTransmit _ transfer _ => some transfer.handle
  | _ => none

/-- The handles issued in a list of acts, in order. -/
def issued (effects : List Effect) : List Handle :=
  effects.filterMap Effect.issued?

/-- The handles given back in a list of acts, in order. -/
def freed (effects : List Effect) : List Handle :=
  effects.filterMap Effect.freed?

/-- The handles poisoned in a list of acts, in order. -/
def poisoned (effects : List Effect) : List Handle :=
  effects.filterMap Effect.poisoned?

theorem Effect.watches_issued? : Watches issued? .allocate := by
  intro effect other
  cases effect <;> simp_all [kind, issued?]

theorem Effect.watches_freed? : Watches freed? .free := by
  intro effect other
  cases effect <;> simp_all [kind, freed?]

theorem Effect.watches_poisoned? : Watches poisoned? .poison := by
  intro effect other
  cases effect <;> simp_all [kind, poisoned?]

section

variable {effects : List Effect}

@[simp]
theorem issued_nil : issued [] = [] := rfl

@[simp]
theorem freed_nil : freed [] = [] := rfl

@[simp]
theorem poisoned_nil : poisoned [] = [] := rfl

@[simp]
theorem issued_append (before after : List Effect) :
    issued (before ++ after) = issued before ++ issued after :=
  List.filterMap_append

@[simp]
theorem freed_append (before after : List Effect) :
    freed (before ++ after) = freed before ++ freed after :=
  List.filterMap_append

@[simp]
theorem poisoned_append (before after : List Effect) :
    poisoned (before ++ after) = poisoned before ++ poisoned after :=
  List.filterMap_append

@[simp]
theorem freed_map_free {Item : Type} (items : List Item) (handle : Item → Handle) :
    freed (items.map fun item => .free (handle item)) = items.map handle := by
  unfold freed
  rw [List.filterMap_map]
  rw [← List.filterMap_eq_map]
  rfl

@[simp]
theorem poisoned_map_poison {Item : Type} (items : List Item) (handle : Item → Handle) :
    poisoned (items.map fun item => .poison (handle item)) = items.map handle := by
  unfold poisoned
  rw [List.filterMap_map]
  rw [← List.filterMap_eq_map]
  rfl

theorem issued_eq_nil (other : ∀ effect ∈ effects, effect.kind ≠ .allocate) :
    issued effects = [] :=
  Effect.watches_issued?.filterMap_eq_nil other

theorem freed_eq_nil (other : ∀ effect ∈ effects, effect.kind ≠ .free) : freed effects = [] :=
  Effect.watches_freed?.filterMap_eq_nil other

theorem poisoned_eq_nil (other : ∀ effect ∈ effects, effect.kind ≠ .poison) :
    poisoned effects = [] :=
  Effect.watches_poisoned?.filterMap_eq_nil other

theorem issued_append_of_ne (trace : List Effect)
    (other : ∀ effect ∈ effects, effect.kind ≠ .allocate) :
    issued (trace ++ effects) = issued trace := by
  rw [issued_append, issued_eq_nil other, List.append_nil]

theorem freed_append_of_ne (trace : List Effect)
    (other : ∀ effect ∈ effects, effect.kind ≠ .free) : freed (trace ++ effects) = freed trace := by
  rw [freed_append, freed_eq_nil other, List.append_nil]

theorem poisoned_append_of_ne (trace : List Effect)
    (other : ∀ effect ∈ effects, effect.kind ≠ .poison) :
    poisoned (trace ++ effects) = poisoned trace := by
  rw [poisoned_append, poisoned_eq_nil other, List.append_nil]

end

end WlanDatapath
