import WlanDatapath.Proofs.Inertness
import WlanDatapath.Proofs.Overlays

/-!
# How overlays move

`Overlays` says, operation by operation, which overlay there is after it.  Here each of
these is a move of buffers between the slots, the pass, bringing up and the transport, and
what is written over a buffer goes with it.  `Reception.Moves` lists the moves.  A buffer
enters with a transfer that ends and leaves with a transfer that is submitted.

`Moment.shadowed` is the one fact about the engine that is needed from here on.  An engine
with an overlay takes an input as the engine without it does, and the overlay moves.
-/

namespace WlanDatapath

namespace Reception

/-! ## What the pass carries -/

/-- What the pass carries after a step it carried before, or took just now. -/
theorem Step.carried {reception next : Reception} {event : Event}
    (step : Step reception event next) (sound : reception.Sound) {work : Work}
    (has : next.pass.carried? = some work) :
    reception.pass.carried? = some work ∧ next.ring.handles = reception.ring.handles ∧
        next.ring.start = reception.ring.start ∨
      ∃ ring slot, reception.ring.retire? = some (work.index, ring) ∧
        ring.slots[work.index]? = some slot ∧ work.handle = slot.handle ∧
        next.ring = ring.vacate work.index := by
  cases step with
  | acquired created | acquisitionFailed created =>
      rw [sound.untouched created] at has
      cases has
  | drained begun quiet =>
      have idle : reception.pass = .idle := by
        by_contra active
        rw [sound.running.mpr active] at quiet
        contradiction
      rw [idle] at has
      cases has
  | posted => exact Or.inl ⟨has, Ring.handles_vacate _ _, rfl⟩
  | postRefused | dismissedTo => exact Or.inl ⟨has, Ring.handles_putBack _ _ _, rfl⟩
  | filed => exact Or.inl ⟨has, Ring.handles_file _ _, rfl⟩
  | opened _ retired found | setAside _ retired found =>
      cases has
      exact Or.inr ⟨_, _, retired, found, rfl, rfl⟩
  | nothingLeft | slotLost =>
      rw [leave] at has
      split at has <;> cases has
  | passStarted | kept | taken | refused => cases has
  | slotSkipped popping =>
      rw [popping] at has
      cases has
  | walked place | rejected place | dropped place | handedUp place | judged place
  | givenBack place =>
      rw [place]
      exact Or.inl ⟨has, rfl, rfl⟩
  | unchanged | passedOver | slotMissing | cameUp | postTaken | dismissed | closed =>
      exact Or.inl ⟨has, rfl, rfl⟩

/-- Nothing was filed, and no buffer is under way. -/
structure Vacant (reception : Reception) : Prop where
  window : reception.ring.window = []
  carried : reception.pass.carried? = none
  posted : ∀ work, reception.bringUp ≠ .submitting work

theorem vacant_untouched : untouched.Vacant :=
  ⟨rfl, rfl, fun _ submits => nomatch submits⟩

/-- The first step files nothing and moves no buffer. -/
theorem Step.vacant_of_untouched {next : Reception} {event : Event}
    (step : Step untouched event next) : next.Vacant := by
  cases step with
  | unchanged | acquired | acquisitionFailed | dismissed | passStarted | closed =>
      exact ⟨rfl, rfl, fun _ submits => nomatch submits⟩
  | filed expected => exact absurd expected.1 (by decide)
  | dismissedTo _ complete => exact absurd complete (by decide)
  | drained begun => exact absurd rfl begun
  | slotMissing waiting | postRefused waiting | posted waiting | passedOver waiting
  | cameUp waiting | postTaken waiting | nothingLeft waiting | slotLost waiting
  | slotSkipped waiting | opened waiting | setAside waiting | walked waiting | rejected waiting
  | dropped waiting | handedUp waiting | judged waiting | givenBack waiting | kept waiting
  | taken waiting | refused waiting => cases waiting

/-! ## Moves -/

/-- No buffer is under way that was not before, and nothing else is written over those that
are. -/
structure Within (next : Reception) (further : Overlay) (reception : Reception)
    (overlay : Overlay) : Prop where
  handles : ∀ (index : Nat) (handle : Handle), next.ring.handles[index]? = some handle →
    reception.ring.handles[index]? = some handle
  carried : ∀ work, next.pass.carried? = some work →
    reception.pass.carried? = some work ∧ further.carried = overlay.carried
  posted : ∀ work, next.bringUp = .submitting work →
    reception.bringUp = .submitting work ∧ further.posted = overlay.posted
  unposted : ∀ index ∈ next.bringUp.unposted, index ∈ reception.bringUp.unposted

/-- How what was written over the buffers moves with them.  The transfer that ends comes with
what was written over its buffer, and so do the transfers that are submitted. -/
inductive Moves (reception : Reception) (overlay : Overlay) :
    Option (Transfer Buffer × Octets) → Reception → Overlay →
      List (Transfer Buffer × Octets) → Prop where
  /-- Of the slots nothing changes, and the window does not grow. -/
  | kept {ended next further} (within : next.Within further reception overlay)
      (above : further.slots = overlay.slots) (slots : next.ring.slots = reception.ring.slots)
      (window : ∀ index ∈ next.ring.window, index ∈ reception.ring.window) :
      Moves reception overlay ended next further []
  /-- The ring is released. -/
  | released {ended next further} (within : next.Within further reception overlay)
      (window : next.ring.window = []) (shut : next.stage.accepts = false) :
      Moves reception overlay ended next further []
  /-- The pass puts its buffer back. -/
  | putBack {ended next further work} (within : next.Within further reception overlay)
      (carries : reception.pass.carried? = some work)
      (ring : next.ring = reception.ring.putBack work.index work.buffer)
      (above : further.slots =
        reception.ring.putBackOver overlay.slots work.index overlay.carried) :
      Moves reception overlay ended next further []
  /-- The buffer that was posted last is refused. -/
  | postRefused {ended next further work} (within : next.Within further reception overlay)
      (submitting : reception.bringUp = .submitting work)
      (ring : next.ring = reception.ring.putBack work.index work.buffer)
      (above : further.slots =
        reception.ring.putBackOver overlay.slots work.index overlay.posted)
      (shut : next.stage.accepts = false) :
      Moves reception overlay ended next further []
  /-- A transfer whose turn it is not goes to the slot with its handle. -/
  | dismissed {transfer octets next further index}
      (within : next.Within further reception overlay)
      (owner : (reception.ring.position? fun slot => slot.handle == transfer.handle) =
        some index)
      (ring : next.ring = reception.ring.putBack index transfer.content)
      (above : further.slots = reception.ring.putBackOver overlay.slots index octets) :
      Moves reception overlay (some (transfer, octets)) next further []
  /-- A transfer whose turn it is, is filed. -/
  | filed {transfer octets next further} (within : next.Within further reception overlay)
      (expected : reception.ring.Expects transfer.handle)
      (ring : next.ring = reception.ring.file transfer)
      (above : further.slots = Function.update overlay.slots reception.ring.stop octets) :
      Moves reception overlay (some (transfer, octets)) next further []
  /-- The pass takes the oldest buffer. -/
  | taken {ended next index ring slot buffer}
      (retired : reception.ring.retire? = some (index, ring))
      (found : ring.slots[index]? = some slot) (held : slot.buffer = some buffer)
      (vacated : next.ring = ring.vacate index) (bringUp : next.bringUp = reception.bringUp)
      (carried : next.pass.carried? = some ⟨index, slot.handle, buffer⟩) :
      Moves reception overlay ended next { overlay with carried := overlay.slots index } []
  /-- The next slot is posted. -/
  | posted {ended next index slot buffer} (posting : reception.bringUp = .posting index)
      (below : index < receiveSlots) (found : reception.ring.slots[index]? = some slot)
      (held : slot.buffer = some buffer) (ring : next.ring = reception.ring.vacate index)
      (bringUp : next.bringUp = .submitting ⟨index, slot.handle, buffer⟩)
      (pass : next.pass = reception.pass) :
      Moves reception overlay ended next { overlay with posted := overlay.slots index }
        [(.bind slot.handle buffer, overlay.slots index)]
  /-- The pass gives its buffer back. -/
  | given {ended work} (returning : reception.pass = .returning work) :
      Moves reception overlay ended { reception with pass := .submitting work } overlay
        [(.bind work.handle work.buffer, overlay.carried)]

variable {reception next : Reception} {overlay further : Overlay}
  {ended : Option (Transfer Buffer × Octets)}

theorem Within.of_eq (handles : next.ring.handles = reception.ring.handles)
    (bringUp : next.bringUp = reception.bringUp)
    (pass : ∀ work, next.pass.carried? = some work → reception.pass.carried? = some work)
    (carried : further.carried = overlay.carried) (posted : further.posted = overlay.posted) :
    next.Within further reception overlay where
  handles _ _ named := handles ▸ named
  carried work has := ⟨pass work has, carried⟩
  posted _ submits := ⟨bringUp ▸ submits, posted⟩
  unposted _ member := bringUp ▸ member

/-- The ring, bringing up and the pass stay as they are. -/
theorem Moves.of_eq (ring : next.ring = reception.ring)
    (bringUp : next.bringUp = reception.bringUp)
    (pass : ∀ work, next.pass.carried? = some work → reception.pass.carried? = some work) :
    reception.Moves overlay ended next overlay [] :=
  .kept (.of_eq (congrArg Ring.handles ring) bringUp pass rfl rfl) rfl
    (congrArg Ring.slots ring) fun _ member => ring ▸ member

/-- The pass puts its buffer back and carries nothing any more. -/
theorem Moves.returned {work : Work} (carries : reception.pass.carried? = some work)
    (ring : next.ring = reception.ring.putBack work.index work.buffer)
    (bringUp : next.bringUp = reception.bringUp) (free : next.pass.carried? = none) :
    reception.Moves overlay ended next
      { overlay with
        slots := reception.ring.putBackOver overlay.slots work.index overlay.carried } [] := by
  refine .putBack (.of_eq ?_ bringUp ?_ rfl rfl) carries ring rfl
  · rw [ring, Ring.handles_putBack]
  · intro other has
    rw [free] at has
    contradiction

/-- Once the pass carries nothing, it does not matter what is written over that. -/
theorem Moves.drop (slots : next.ring.slots = reception.ring.slots)
    (window : ∀ index ∈ next.ring.window, index ∈ reception.ring.window)
    (bringUp : next.bringUp = reception.bringUp) (free : next.pass.carried? = none)
    (carried : Octets) :
    reception.Moves overlay ended next { overlay with carried := carried } [] := by
  refine .kept ⟨?_, ?_, ?_, fun _ member => bringUp ▸ member⟩ rfl slots window
  · intro index handle named
    rwa [Ring.handles, slots] at named
  · intro work has
    rw [free] at has
    contradiction
  · exact fun _ submits => ⟨bringUp ▸ submits, rfl⟩

/-- While no buffer is being posted, it does not matter what is written over that. -/
theorem Moves.settle (ring : next.ring = reception.ring) (pass : next.pass = reception.pass)
    (unposted : ∀ index ∈ next.bringUp.unposted, index ∈ reception.bringUp.unposted)
    (free : ∀ work, next.bringUp ≠ .submitting work) (posted : Octets) :
    reception.Moves overlay ended next { overlay with posted := posted } [] := by
  refine .kept ⟨?_, ?_, ?_, unposted⟩ rfl (congrArg Ring.slots ring)
    fun _ member => ring ▸ member
  · exact fun _ _ named => ring ▸ named
  · exact fun _ has => ⟨pass ▸ has, rfl⟩
  · exact fun work submits => absurd submits (free work)

end Reception

/-! ## Every input -/

/-- The receive buffer that an act submits. -/
def Effect.submission? : Effect → Option (Transfer Buffer)
  | .submitReceive _ transfer => some transfer
  | _ => none

/-- The receive buffers that are submitted, in order. -/
def submissions (effects : List Effect) : List (Transfer Buffer) :=
  effects.filterMap Effect.submission?

theorem Effect.watches_submission? : Watches submission? .submitReceive := by
  intro effect other
  cases effect <;> simp_all [kind, submission?]

/-- They are submitted on the handles that are seen. -/
theorem Moment.reposted_eq_map (moment : Moment) :
    moment.reposted = (submissions moment.effects).map fun transfer => transfer.handle := by
  rw [reposted, submissions, List.map_filterMap]
  congr 1
  funext effect
  cases effect <;> rfl

theorem submissions_eq_nil {effects : List Effect}
    (silent : ∀ effect ∈ effects, effect.kind ≠ .submitReceive) : submissions effects = [] :=
  Effect.watches_submission?.filterMap_eq_nil silent

namespace Moment

/-- An engine whose buffers were written over takes an input as the engine itself takes its
own, and what is written over the buffers moves with them. -/
def Shadowed (moment : Moment) (overlay : Overlay) (ended : Option (Transfer Buffer × Octets))
    (input : Input) : Prop :=
  ∃ further octets,
    (moment.before.overlaid overlay).step input =
        (moment.after.overlaid further, moment.effects.map (Effect.overlaid octets),
          moment.reply) ∧
      moment.before.reception.Moves overlay ended moment.after.reception further
        ((submissions moment.effects).map fun transfer => (transfer, octets))

variable {moment : Moment} {overlay : Overlay} {ended : Option (Transfer Buffer × Octets)}
  {input : Input}

/-- No buffer is submitted. -/
theorem Shadowed.of_silent (further : Overlay)
    (silent : ∀ effect ∈ moment.effects, effect.kind ≠ .submitReceive)
    (same : (moment.before.overlaid overlay).step input =
      (moment.after.overlaid further, moment.effects, moment.reply))
    (moves : moment.before.reception.Moves overlay ended moment.after.reception further []) :
    moment.Shadowed overlay ended input := by
  refine ⟨further, [], ?_, ?_⟩
  · rw [same, Effect.map_overlaid silent]
  · rw [submissions_eq_nil silent]
    exact moves

/-- Nothing happens. -/
theorem Shadowed.of_ignored (reply : Reply)
    (ignored : moment.before.step moment.input = (moment.before, [], reply))
    (same : (moment.before.overlaid overlay).step input =
      (moment.before.overlaid overlay, [], reply)) : moment.Shadowed overlay ended input := by
  have after : moment.after = moment.before := congrArg Prod.fst ignored
  have effects : moment.effects = [] := congrArg (fun step => step.2.1) ignored
  have answer : moment.reply = reply := congrArg (fun step => step.2.2) ignored
  refine .of_silent overlay ?_ ?_ ?_
  · simp [effects]
  · rw [same, after, effects, answer]
  · rw [after]
    exact .of_eq rfl rfl fun _ has => has

theorem silent_of_kinds (other : Effect.Kind.submitReceive ∉ moment.input.kinds) :
    ∀ effect ∈ moment.effects, effect.kind ≠ .submitReceive := by
  rintro effect member kind
  exact other (kind ▸ moment.kind_mem_kinds effect member)

end Moment

namespace Engine

variable {engine : Engine} {overlay : Overlay} {ended : Option (Transfer Buffer × Octets)}

theorem shadowed_completeReceive (transfer : Transfer Buffer) (octets : Octets) :
    (Moment.mk engine (.completeReceive transfer)).Shadowed overlay (some (transfer, octets))
      (.completeReceive (transfer.overlaid octets)) := by
  have same : (engine.overlaid overlay).step (.completeReceive (transfer.overlaid octets)) =
      possible (overlaidWith
        { overlay with
          slots := engine.receive.completeOver overlay.slots transfer.handle octets }
        (engine.completeReceive transfer)) := by
    simp only [step, completeReceive_overlaid]
  refine .of_silent _ (Moment.silent_of_kinds (by simp [Input.kinds])) same ?_
  rw [Moment.after_completeReceive]
  by_cases expected : engine.receive.Expects transfer.handle
  · rw [Reception.completeReceive_of_expects engine expected,
      Ring.completeOver_of_expects expected]
    have ring : (engine.fileReceive transfer).1.receive = engine.receive.file transfer :=
      Reception.receive_fileReceive engine expected.2.1
    refine .filed ?_ expected ring rfl
    refine .of_eq ?_ rfl (fun _ has => has) rfl rfl
    exact (congrArg Ring.handles ring).trans (Ring.handles_file _ _)
  · rcases Reception.reception_completeReceive engine expected with
      ⟨incomplete, unchanged⟩ | ⟨complete, dismissed⟩
    · rw [unchanged, Ring.completeOver_of_incomplete incomplete]
      exact .of_eq rfl rfl fun _ has => has
    · rw [dismissed, Ring.completeOver_of_unexpected complete expected, putBackByHandle,
        Ring.dismissOver]
      cases owner : engine.receive.position? fun slot => slot.handle == transfer.handle with
      | none => exact .of_eq rfl rfl fun _ has => has
      | some index =>
          refine .dismissed ?_ owner rfl rfl
          refine .of_eq ?_ rfl (fun _ has => has) rfl rfl
          exact engine.receive.handles_putBack index transfer.content

theorem carried?_endPass : engine.endPass.pass.carried? = none := by
  unfold endPass
  cases engine.deferred.leave with
  | mk again deferred => cases again <;> rfl

theorem moves_popReceive (sound : engine.Sound)
    (popping : engine.pass = .popping) :
    engine.reception.Moves overlay ended engine.popReceive.reception
      { overlay with carried := overlay.slots engine.receive.start } [] := by
  unfold popReceive
  split
  next empty =>
    refine Reception.Moves.drop ?_ ?_ ?_ carried?_endPass _
    · rfl
    · exact fun _ member => member
    · rfl
  next index ring retired =>
    have window : engine.receive.window = index :: ring.window :=
      Ring.window_retire sound.reception.ring retired
    have inside : ∀ other ∈ ring.window, other ∈ engine.receive.window := by
      intro other member
      rw [window]
      exact List.mem_cons_of_mem _ member
    have start : index = engine.receive.start := (Ring.retire?_eq_some retired).2.1
    have slots : ring.slots = engine.receive.slots := by
      rw [(Ring.retire?_eq_some retired).2.2]
    split
    next missing =>
      refine Reception.Moves.drop ?_ ?_ ?_ carried?_endPass _
      · exact slots
      · exact inside
      · rfl
    next slot found =>
      split
      next vacant =>
        refine Reception.Moves.drop ?_ ?_ ?_ (congrArg Pass.carried? popping) _
        · exact slots
        · exact inside
        · rfl
      next buffer held =>
        rw [← start]
        refine .taken retired found held ?_ ?_ ?_
        · rfl
        · rfl
        · simp only [reception]
          split <;> rfl

/-- The walk over a buffer moves none. -/
theorem reception_walkReceive (engine : Engine) (memory : Memory) (work : Work)
    (walker : Walker) :
    ∃ pass : Pass, pass.carried? = some work ∧
      (engine.walkReceive memory work walker).1.reception =
        { engine.reception with pass := pass } := by
  unfold walkReceive
  split
  · exact ⟨.returning work, rfl, rfl⟩
  · exact ⟨.returning work, rfl, rfl⟩
  next segment next found =>
    unfold takeSegment
    split
    · exact ⟨.walking work next, rfl, rfl⟩
    · split
      · exact ⟨.walking work next, rfl, rfl⟩
      · exact ⟨.delivering work next, rfl, rfl⟩

/-- A step of the pass that submits no buffer. -/
theorem shadowed_of_proceeds (further : Overlay) {memory : Memory} {step : Engine × List Effect}
    (proceeds : engine.proceedPass? memory = some step)
    (silent : ∀ effect ∈ step.2, effect.kind ≠ .submitReceive)
    (same : (engine.overlaid overlay).proceedPass? memory = some (overlaidWith further step))
    (moves : engine.reception.Moves overlay ended step.1.reception further []) :
    (Moment.mk engine (.proceedPass memory)).Shadowed overlay ended
      (.proceedPass memory) := by
  refine .of_silent further ?_ ?_ ?_
  · rwa [Moment.effects_proceedPass, proceeds]
  · simp only [Moment.after, Moment.effects, Moment.reply, Engine.step, proceeds, same]
    rfl
  · rwa [Moment.after_proceedPass, proceeds]

theorem shadowed_returnReceive {work : Work}
    (returning : engine.pass = .returning work) (memory : Memory) :
    (Moment.mk engine (.proceedPass memory)).Shadowed overlay ended
      (.proceedPass memory) := by
  have proceeds : engine.proceedPass? memory = some (engine.returnReceive work) := by
    simp [proceedPass?, returning]
  have same : (engine.overlaid overlay).proceedPass? memory =
      some ((engine.overlaid overlay).returnReceive (work.overlaid overlay.carried)) := by
    simp [proceedPass?, returning, Pass.overlaid]
  have carries : engine.reception.pass.carried? = some work := congrArg Pass.carried? returning
  rw [returnReceive_overlaid] at same
  cases accepts : engine.device.accepts with
  | true =>
      rw [if_pos accepts] at same
      refine ⟨overlay, overlay.carried, ?_, ?_⟩
      · simp only [Moment.after, Moment.effects, Moment.reply, Engine.step, proceeds, same]
        rfl
      · rw [Moment.after_proceedPass, Moment.effects_proceedPass, proceeds]
        simp only [Option.getD_some, returnReceive, accepts, if_true]
        exact .given returning
  | false =>
      rw [if_neg (by simp [accepts])] at same
      refine shadowed_of_proceeds _ proceeds ?_ same ?_
      · simp [returnReceive, accepts]
      · simp only [returnReceive, accepts, Bool.false_eq_true, if_false]
        exact .returned carries rfl rfl rfl

theorem shadowed_proceedPass (sound : engine.Sound)
    (through : engine.ReadsThrough overlay.slots) (memory : Memory) :
    (Moment.mk engine (.proceedPass memory)).Shadowed overlay ended
      (.proceedPass memory) := by
  cases place : engine.pass with
  | idle | delivering | submitting =>
      have stuck : engine.proceedPass? memory = none := by simp [proceedPass?, place]
      have same : (engine.overlaid overlay).proceedPass? memory = none := by
        simp [proceedPass?, place, Pass.overlaid]
      exact .of_ignored _ (congrArg engine.unlessStuck stuck)
        (congrArg (engine.overlaid overlay).unlessStuck same)
  | popping =>
      have proceeds : engine.proceedPass? memory = some (engine.popReceive, []) := by
        simp [proceedPass?, place]
      refine shadowed_of_proceeds _ proceeds (by simp) ?_
        (moves_popReceive sound place)
      rw [overlaidWith, ← popReceive_overlaid place through]
      simp [proceedPass?, place, Pass.overlaid]
  | walking work walker =>
      have proceeds : engine.proceedPass? memory =
          some (engine.walkReceive memory work walker) := by
        simp [proceedPass?, place]
      obtain ⟨pass, carries, same⟩ := engine.reception_walkReceive memory work walker
      refine shadowed_of_proceeds overlay proceeds ?_ ?_ ?_
      · intro effect member kind
        simpa [kind] using engine.kind_walkReceive memory work walker effect member
      · rw [← walkReceive_overlaid]
        simp [proceedPass?, place, Pass.overlaid]
      · rw [same]
        refine Reception.Moves.of_eq rfl rfl fun other has => ?_
        rw [← has, carries]
        exact congrArg Pass.carried? place
  | returning work => exact shadowed_returnReceive place memory

/-- A step of bringing up is shadowed if it is taken alike. -/
theorem shadowed_of_brings {step : BringUpStep} (further : Overlay) (octets : Octets)
    (proceeds : engine.proceedBringUp? = some step)
    (same : (engine.overlaid overlay).proceedBringUp? =
      some (step.1.overlaid further, step.2.1.map (Effect.overlaid octets), step.2.2))
    (moves : engine.reception.Moves overlay ended step.1.reception further
      ((submissions step.2.1).map fun transfer => (transfer, octets))) :
    (Moment.mk engine .proceedBringUp).Shadowed overlay ended .proceedBringUp := by
  refine ⟨further, octets, ?_, ?_⟩
  · simp only [Moment.after, Moment.effects, Moment.reply, Engine.step, proceeds, same]
    rfl
  · rw [Moment.after_proceedBringUp, Moment.effects_proceedBringUp, proceeds]
    exact moves

/-- Releasing the rings closes the window. -/
theorem moves_finishTeardown? (sound : engine.Sound) {finished : Engine × List Effect}
    (finish : engine.finishTeardown? = some finished) {bringUp : BringUp}
    (waiting : bringUp = engine.bringUp ∨ bringUp = .idle) :
    engine.reception.Moves overlay ended { finished.1 with bringUp := bringUp }.reception
      overlay [] := by
  obtain ⟨begun, -, rfl⟩ := finishTeardown?_eq_some finish
  have dead : engine.device.stage = .dead := sound.reception.begun begun
  have shut : engine.device.stage.accepts = false := by
    rw [dead]
    rfl
  refine .released ⟨?_, fun _ has => ⟨has, rfl⟩, ?_, ?_⟩ rfl shut
  · intro index handle named
    cases named
  · rintro work submits
    rcases waiting with rfl | rfl
    · exact ⟨submits, rfl⟩
    · cases submits
  · intro index member
    rcases waiting with rfl | rfl
    · exact member
    · cases member

theorem shadowed_proceedBringUp (sound : engine.Sound) :
    (Moment.mk engine .proceedBringUp).Shadowed overlay ended .proceedBringUp := by
  have above := engine.proceedBringUp?_overlaid overlay
  cases proceeds : engine.proceedBringUp? with
  | none =>
      have same : (engine.overlaid overlay).proceedBringUp? = none := by
        rw [above, proceeds]
        cases engine.bringUp <;> rfl
      refine .of_ignored .inapplicable ?_ ?_
      · simp only [Engine.step, proceeds]
      · simp only [Engine.step, same]
  | some step =>
      rw [proceeds] at above
      cases bringUpMove_of_proceeds proceeds with
      | @posts index slot buffer posting below found held =>
          rw [posting] at above
          refine shadowed_of_brings _ _ proceeds above ?_
          exact .posted posting below found held rfl rfl rfl
      | @passes index slot posting below =>
          rw [posting] at above
          refine shadowed_of_brings _ _ proceeds above ?_
          rw [submissions_eq_nil (by simp)]
          refine Reception.Moves.settle ?_ ?_ ?_ ?_ _
          · rfl
          · rfl
          · intro other member
            show other ∈ engine.bringUp.unposted
            rw [posting, BringUp.unposted_posting below]
            exact List.mem_cons_of_mem _ member
          · rintro _ ⟨⟩
      | abandons posting =>
          rw [posting] at above
          refine shadowed_of_brings _ _ proceeds above ?_
          rw [submissions_eq_nil fun effect member kind => by
            simpa [kind] using engine.kind_abandon .notReady effect member]
          refine Reception.Moves.settle ?_ ?_ ?_ ?_ _
          · rfl
          · rfl
          · rintro _ ⟨⟩
          · rintro _ ⟨⟩
      | comesUp posting all =>
          rw [posting] at above
          refine shadowed_of_brings _ _ proceeds above ?_
          rw [submissions_eq_nil (by simp [Effect.kind])]
          refine Reception.Moves.settle ?_ ?_ ?_ ?_ _
          · rfl
          · rfl
          · rintro _ ⟨⟩
          · rintro _ ⟨⟩
      | @fails failure finished failing finish =>
          have silent : ∀ effect ∈ finished.2, effect.kind ≠ .submitReceive := by
            intro effect member kind
            simpa [kind] using engine.kind_finishTeardown? finish effect member
          rw [failing] at above
          refine shadowed_of_brings overlay [] proceeds ?_ ?_
          · rw [Effect.map_overlaid silent]
            exact above
          · rw [submissions_eq_nil silent]
            exact moves_finishTeardown? sound finish (Or.inr rfl)

theorem shadowed_answerPost (refusal : Option Refusal) :
    (Moment.mk engine (.answerPost refusal)).Shadowed overlay ended
      (.answerPost refusal) := by
  have silent : ∀ effect ∈ (Moment.mk engine (.answerPost refusal)).effects,
      effect.kind ≠ .submitReceive := Moment.silent_of_kinds (by simp [Input.kinds])
  cases place : engine.bringUp with
  | idle | posting | failing =>
      have ignored : engine.answerPost refusal = (engine, []) := by simp [answerPost, place]
      have same : (engine.overlaid overlay).answerPost refusal = (engine.overlaid overlay, []) := by
        simp [answerPost, place, BringUp.overlaid]
      exact .of_ignored _ (congrArg possible ignored) (congrArg possible same)
  | submitting work =>
      cases refusal with
      | none =>
          have taken : engine.answerPost none =
              ({ engine with bringUp := .posting (work.index + 1) }, []) := by
            simp [answerPost, place]
          have same : (engine.overlaid overlay).answerPost none =
              overlaidWith overlay (engine.answerPost none) := by
            rw [taken]
            simp [answerPost, place, BringUp.overlaid, overlaidWith, overlaid, Work.overlaid]
          refine .of_silent overlay silent ?_ ?_
          · simp only [Moment.after, Moment.effects, Moment.reply, Engine.step, same]
            rfl
          · rw [Moment.after_answerPost, taken]
            refine Reception.Moves.settle ?_ ?_ ?_ ?_ _
            · rfl
            · rfl
            · intro index member
              show index ∈ engine.bringUp.unposted
              rw [place]
              exact member
            · rintro _ ⟨⟩
      | some refusal =>
          have same := answerPost_overlaid place overlay refusal
          refine .of_silent { overlay with
            slots := engine.receive.putBackOver overlay.slots work.index overlay.posted }
            silent ?_ ?_
          · simp only [Moment.after, Moment.effects, Moment.reply, Engine.step, same]
            rfl
          · rw [Moment.after_answerPost, answerPost, place]
            refine .postRefused ⟨?_, ?_, ?_, ?_⟩ place rfl rfl rfl
            · have handles := engine.receive.handles_putBack work.index work.buffer
              exact fun _ _ named => handles ▸ named
            · exact fun _ has => ⟨has, rfl⟩
            · rintro _ ⟨⟩
            · rintro _ ⟨⟩

theorem shadowed_answerRepost (refusal : Option Refusal) :
    (Moment.mk engine (.answerRepost refusal)).Shadowed overlay ended
      (.answerRepost refusal) := by
  have silent : ∀ effect ∈ (Moment.mk engine (.answerRepost refusal)).effects,
      effect.kind ≠ .submitReceive := Moment.silent_of_kinds (by simp [Input.kinds])
  cases place : engine.pass with
  | idle | popping | walking | delivering | returning =>
      have ignored : engine.answerRepost refusal = (engine, []) := by simp [answerRepost, place]
      have same : (engine.overlaid overlay).answerRepost refusal =
          (engine.overlaid overlay, []) := by
        simp [answerRepost, place, Pass.overlaid]
      exact .of_ignored _ (congrArg possible ignored) (congrArg possible same)
  | submitting work =>
      cases refusal with
      | none =>
          have taken : engine.answerRepost none = ({ engine with pass := .popping }, []) := by
            simp [answerRepost, place]
          have same : (engine.overlaid overlay).answerRepost none =
              overlaidWith overlay (engine.answerRepost none) := by
            rw [taken]
            simp [answerRepost, place, Pass.overlaid, overlaidWith, overlaid]
          refine .of_silent overlay silent ?_ ?_
          · simp only [Moment.after, Moment.effects, Moment.reply, Engine.step, same]
            rfl
          · rw [Moment.after_answerRepost, taken]
            refine Reception.Moves.of_eq rfl rfl ?_
            rintro _ ⟨⟩
      | some refusal =>
          have same := answerRepost_overlaid place overlay refusal
          refine .of_silent { overlay with
            slots := engine.receive.putBackOver overlay.slots work.index overlay.carried }
            silent ?_ ?_
          · simp only [Moment.after, Moment.effects, Moment.reply, Engine.step, same]
            rfl
          · rw [Moment.after_answerRepost, answerRepost, place]
            have carries : engine.reception.pass.carried? = some work :=
              congrArg Pass.carried? place
            exact .returned carries rfl rfl rfl

/-- An input at which the ring, bringing up and the pass stay as they are. -/
theorem shadowed_of_reception_eq {input : Input} (silent : Effect.Kind.submitReceive ∉ input.kinds)
    (same : (engine.overlaid overlay).step input = overlaidWith overlay (engine.step input))
    (ring : (engine.step input).1.receive = engine.receive)
    (bringUp : (engine.step input).1.bringUp = engine.bringUp)
    (pass : ∀ work, (engine.step input).1.pass.carried? = some work →
      engine.pass.carried? = some work) :
    (Moment.mk engine input).Shadowed overlay ended input :=
  .of_silent overlay (Moment.silent_of_kinds silent) same (.of_eq ring bringUp pass)

theorem shadowed_startPass :
    (Moment.mk engine .startPass).Shadowed overlay ended .startPass := by
  refine shadowed_of_reception_eq (by simp [Input.kinds]) ?_ ?_ ?_ ?_
  · simp only [step, startPass_overlaid]
    rfl
  all_goals
    simp only [step, startPass]
    split
  · rfl
  · rfl
  · rfl
  · rfl
  · exact fun _ has => has
  · rintro _ ⟨⟩

theorem shadowed_answerDelivery (accepted : Bool) :
    (Moment.mk engine (.answerDelivery accepted)).Shadowed overlay ended
      (.answerDelivery accepted) := by
  refine shadowed_of_reception_eq (by simp [Input.kinds]) ?_ ?_ ?_ ?_
  · simp only [step, answerDelivery_overlaid]
    rfl
  all_goals
    simp only [step, possible, answerDelivery]
    split
  · rfl
  · rfl
  · rfl
  · rfl
  next place => exact fun _ has => (congrArg Pass.carried? place).trans has
  · exact fun _ has => has

theorem shadowed_enqueue (memory : Memory) (answer : Transfer Outgoing → Option Refusal)
    (frame : Outgoing) (key queue : UInt8) :
    (Moment.mk engine (.enqueue memory answer frame key queue)).Shadowed overlay ended
      (.enqueue memory answer frame key queue) := by
  obtain ⟨stage, -, same⟩ := Reception.reception_enqueue engine memory answer frame key queue
  refine shadowed_of_reception_eq (by simp [Input.kinds]) ?_ ?_ ?_ ?_
  · simp only [step, enqueue_overlaid]
    rfl
  · exact congrArg Reception.ring same
  · exact congrArg Reception.bringUp same
  · exact fun _ has => (congrArg (fun reception => reception.pass.carried?) same).symm.trans has

theorem shadowed_completeTransmit (address : UInt8) (transfer : Transfer Outgoing) :
    (Moment.mk engine (.completeTransmit address transfer)).Shadowed overlay ended
      (.completeTransmit address transfer) := by
  have same := Reception.reception_completeTransmit engine address transfer
  refine shadowed_of_reception_eq (by simp [Input.kinds]) ?_ ?_ ?_ ?_
  · simp only [step, completeTransmit_overlaid]
    rfl
  · exact congrArg Reception.ring same
  · exact congrArg Reception.bringUp same
  · exact fun _ has => (congrArg (fun reception => reception.pass.carried?) same).symm.trans has

theorem shadowed_finishStatistics :
    (Moment.mk engine .finishStatistics).Shadowed overlay ended .finishStatistics := by
  refine shadowed_of_reception_eq (by simp [Input.kinds]) ?_ ?_ ?_ ?_
  · simp only [step, finishStatistics_overlaid]
    rfl
  all_goals
    simp only [step, possible, finishStatistics]
    split
  · rfl
  · rfl
  · rfl
  · rfl
  · exact fun _ has => has
  · exact fun _ has => has

theorem shadowed_beginTeardown :
    (Moment.mk engine .beginTeardown).Shadowed overlay ended .beginTeardown := by
  refine shadowed_of_reception_eq (by simp [Input.kinds]) ?_ rfl rfl fun _ has => has
  simp only [step, beginTeardown_overlaid]
  rfl

theorem shadowed_finishTeardown (sound : engine.Sound) :
    (Moment.mk engine .finishTeardown).Shadowed overlay ended .finishTeardown := by
  have above := engine.finishTeardown?_overlaid overlay
  have silent : ∀ effect ∈ (Moment.mk engine .finishTeardown).effects,
      effect.kind ≠ .submitReceive := Moment.silent_of_kinds (by simp [Input.kinds])
  refine .of_silent overlay silent ?_ ?_
  · simp only [Moment.after, Moment.effects, Moment.reply, step, above]
    cases engine.finishTeardown? <;> rfl
  · rw [Moment.after_finishTeardown]
    cases finish : engine.finishTeardown? with
    | none => exact .of_eq rfl rfl fun _ has => has
    | some finished =>
        have waiting : finished.1.bringUp = engine.bringUp := by
          rw [(finishTeardown?_eq_some finish).2.2]
        exact moves_finishTeardown? sound finish (Or.inl waiting)

theorem shadowed_startBringUp (begun : engine.device.stage ≠ .created) (supply : Supply) :
    (Moment.mk engine (.startBringUp supply)).Shadowed overlay ended
      (.startBringUp supply) := by
  have refused : engine.startBringUp supply = (engine, [], some (.error .notReady)) :=
    if_pos begun
  have same : (engine.overlaid overlay).startBringUp supply =
      (engine.overlaid overlay, [], some (.error .notReady)) := if_pos begun
  exact .of_ignored _ (congrArg ofBringUpStep refused) (congrArg ofBringUpStep same)

end Engine

namespace Moment

variable {moment : Moment}

/-- An engine that was only created submits nothing. -/
theorem submissions_of_created (sound : moment.before.Sound)
    (created : moment.before.device.stage = .created) : submissions moment.effects = [] := by
  cases awake : moment.awakens with
  | true =>
      obtain ⟨engine, input⟩ := moment
      cases input with
      | startBringUp => exact submissions_eq_nil (silent_of_kinds (by simp [Input.kinds]))
      | _ => cases awake
  | false =>
      obtain ⟨-, inert⟩ := (sound.inert_of_created created).step awake
      refine submissions_eq_nil fun effect member kind => ?_
      simp [inert.silent effect member] at kind

/-- An engine that accepts after an input accepted before, unless this brought it up. -/
theorem accepts_of_asleep (sound : moment.before.Sound) (asleep : moment.awakens = false)
    (accepts : moment.after.device.accepts = true) : moment.before.device.accepts = true := by
  obtain ⟨event, step, -⟩ := moment.reception_step
  have after : moment.after.reception.stage.accepts = true := accepts
  rcases step.stage_eq with follows | ⟨created, -, -⟩ | dead
  · exact follows.accepts_eq.symm.trans after
  · obtain ⟨inert, -⟩ := (sound.inert_of_created created).step asleep
    rw [inert.shut] at accepts
    contradiction
  · rw [dead] at after
    contradiction

end Moment

/-- **What was written over the buffers only moves with them** at an input that does not
bring the device up, if the pass does not read it. -/
theorem Moment.shadowed {moment : Moment} {overlay : Overlay} (sound : moment.before.Sound)
    (asleep : moment.awakens = false) (through : moment.before.ReadsThrough overlay.slots)
    (octets : Octets) :
    moment.Shadowed overlay (moment.ended?.map fun transfer => (transfer, octets))
      (moment.input.overlaid octets) := by
  obtain ⟨engine, input⟩ := moment
  cases input with
  | startBringUp supply =>
      refine Engine.shadowed_startBringUp ?_ supply
      simpa [Moment.awakens] using asleep
  | proceedBringUp => exact Engine.shadowed_proceedBringUp sound
  | answerPost refusal => exact Engine.shadowed_answerPost refusal
  | completeReceive transfer => exact Engine.shadowed_completeReceive transfer octets
  | startPass => exact Engine.shadowed_startPass
  | proceedPass memory => exact Engine.shadowed_proceedPass sound through memory
  | answerDelivery accepted => exact Engine.shadowed_answerDelivery accepted
  | answerRepost refusal => exact Engine.shadowed_answerRepost refusal
  | enqueue memory answer frame key queue =>
      exact Engine.shadowed_enqueue memory answer frame key queue
  | completeTransmit address transfer => exact Engine.shadowed_completeTransmit address transfer
  | finishStatistics => exact Engine.shadowed_finishStatistics
  | beginTeardown => exact Engine.shadowed_beginTeardown
  | finishTeardown => exact Engine.shadowed_finishTeardown sound

end WlanDatapath
