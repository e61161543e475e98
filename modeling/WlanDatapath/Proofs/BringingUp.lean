import WlanDatapath.Proofs.Movements
import WlanDatapath.Proofs.Provisions

/-!
# Bringing up is all or nothing

Bringing up can fail at more than four hundred places: at each thing that is acquired, and at
each receive buffer that is posted.  `BringUpEnding` lists how it ends, with everything that
an observer sees of it: the results, the handles that were asked for, the buffers that were
submitted and those that the transport took.

A failure ends in one way, wherever it happens: `Engine.record_failing` says that the teardown
is finished and the failure reported once, and that nothing is asked for or submitted
afterwards.  The buffers are posted one after another, in slot order, from the state
`Engine.posted`.
-/

namespace WlanDatapath

/-! ## The inputs -/

/-- The inputs that post the buffers of slots, with the transport's answers. -/
def postingInputs (answers : Nat → Option Refusal) (indices : List Nat) : List Input :=
  indices.flatMap fun index => [.proceedBringUp, .answerPost (answers index)]

/-- The inputs that bring a device up from a supply, with the transport's answers.  Those
behind a failure find nothing to do. -/
def bringingUp (supply : Supply) (answers : Nat → Option Refusal) : List Input :=
  .startBringUp supply :: (postingInputs answers (List.range receiveSlots) ++ [.proceedBringUp])

/-- The transfers that post buffers of zeros on handles. -/
def posts (size : Nat) (handles : List Handle) : List (Transfer Buffer) :=
  handles.map fun handle => .bind handle (.zeroed size)

theorem posts_take_succ (size : Nat) {handles : List Handle} {count : Nat}
    (below : count < handles.length) :
    posts size (handles.take (count + 1)) =
      posts size (handles.take count) ++ [.bind handles[count] (.zeroed size)] := by
  rw [List.take_succ_eq_append_getElem below, posts, List.map_append]
  rfl

/-- An input of bringing up behind the first one. -/
def Input.isFurther : Input → Bool
  | .proceedBringUp | .answerPost _ => true
  | _ => false

/-- Bringing up goes on with the next step, whatever is still to be posted. -/
theorem exists_further (answers : Nat → Option Refusal) (indices : List Nat) :
    ∃ inputs, postingInputs answers indices ++ [.proceedBringUp] = .proceedBringUp :: inputs ∧
      ∀ input ∈ inputs, input.isFurther = true := by
  have all : ∀ input ∈ postingInputs answers indices ++ [.proceedBringUp],
      input.isFurther = true := by
    intro input member
    rcases List.mem_append.mp member with inPosts | last
    · obtain ⟨index, -, inPair⟩ := List.mem_flatMap.mp inPosts
      rcases List.mem_pair.mp inPair with rfl | rfl <;> rfl
    · rw [List.mem_singleton.mp last]
      rfl
  cases indices with
  | nil => exact ⟨[], rfl, by simp⟩
  | cons index indices =>
      exact ⟨_, rfl, fun input member => all input (List.mem_cons_of_mem _ member)⟩

/-- The posts up to one of them are followed by those behind it. -/
theorem postingInputs_range (answers : Nat → Option Refusal) {index count : Nat}
    (below : index < count) :
    ∃ later, postingInputs answers (List.range count) =
      postingInputs answers (List.range index) ++
        ([.proceedBringUp, .answerPost (answers index)] ++ postingInputs answers later) := by
  obtain ⟨rest, rfl⟩ := Nat.exists_eq_add_of_lt below
  refine ⟨(List.range rest).map fun offset => index + (offset + 1), ?_⟩
  rw [Nat.add_assoc, List.range_add, List.range_succ_eq_map]
  simp [postingInputs, List.flatMap_map, Function.comp_def]

/-- Of several posts that are not all taken, one is the first to be refused. -/
theorem exists_first_refusal {answers : Nat → Option Refusal} {count : Nat}
    (refuses : ¬ ∀ index < count, answers index = none) :
    ∃ index < count, (∀ earlier < index, answers earlier = none) ∧
      ∃ refusal, answers index = some refusal := by
  have some : ∃ index, index < count ∧ answers index ≠ none := by
    by_contra all
    exact refuses fun index below => by_contra fun refused => all ⟨index, below, refused⟩
  obtain ⟨below, refused⟩ := Nat.find_spec some
  refine ⟨Nat.find some, below, fun earlier before => ?_, Option.ne_none_iff_exists'.mp refused⟩
  by_contra early
  exact Nat.find_min some before ⟨before.trans below, early⟩

/-! ## What is seen of it -/

/-- The answer to an act that asks for a handle. -/
def Effect.asked? : Effect → Option (Option Handle)
  | .allocate granted => some granted
  | _ => none

theorem Effect.watches_asked? : Watches asked? .allocate := by
  intro effect other
  cases effect <;> simp_all [kind, asked?]

namespace Moment

/-- The result of bringing up, if it is over. -/
def broughtUp? (moment : Moment) : Option (Except Fault Unit) :=
  match moment.input, moment.reply with
  | .startBringUp _, .over result | .proceedBringUp, .over result => some result
  | _, _ => none

/-- The post that the transport takes. -/
def postTaken? (moment : Moment) : Option (Transfer Buffer) :=
  match moment.input, moment.before.bringUp with
  | .answerPost none, .submitting work => some (.bind work.handle work.buffer)
  | _, _ => none

end Moment

/-- What is seen of bringing up. -/
structure BringUpRecord where
  /-- Its results. -/
  results : List (Except Fault Unit) := []
  /-- The answers to requests for handles. -/
  asked : List (Option Handle) := []
  /-- The receive buffers that were submitted. -/
  submitted : List (Transfer Buffer) := []
  /-- The posts that the transport took. -/
  taken : List (Transfer Buffer) := []

/-- One record behind another. -/
instance : Append BringUpRecord where
  append early late :=
    { results := early.results ++ late.results
      asked := early.asked ++ late.asked
      submitted := early.submitted ++ late.submitted
      taken := early.taken ++ late.taken }

theorem BringUpRecord.append_eq (early late : BringUpRecord) :
    early ++ late =
      { results := early.results ++ late.results
        asked := early.asked ++ late.asked
        submitted := early.submitted ++ late.submitted
        taken := early.taken ++ late.taken } := rfl

namespace History

/-- What is seen of bringing up in a history. -/
def bringUpRecord (history : History) : BringUpRecord where
  results := history.filterMap Moment.broughtUp?
  asked := (history.flatMap Moment.effects).filterMap Effect.asked?
  submitted := submissions (history.flatMap Moment.effects)
  taken := history.filterMap Moment.postTaken?

theorem bringUpRecord_append (front back : History) :
    bringUpRecord (front ++ back) = bringUpRecord front ++ bringUpRecord back := by
  simp [bringUpRecord, submissions, BringUpRecord.append_eq]

end History

namespace Engine

variable {engine : Engine}

/-- Releasing handles and writing lines of the log is not seen. -/
theorem unseen {effects : List Effect}
    (kinds : ∀ effect ∈ effects, effect.kind ∈ [Effect.Kind.free, .poison, .log]) :
    effects.filterMap Effect.asked? = [] ∧ submissions effects = [] := by
  constructor
  · apply Effect.watches_asked?.filterMap_eq_nil
    intro effect member allocates
    simpa [allocates] using kinds effect member
  · apply submissions_eq_nil
    intro effect member submits
    simpa [submits] using kinds effect member

/-- Every ring is populated and nothing is in flight; the receive slots have given handles. -/
structure IsReady (engine : Engine) (handles : List Handle) : Prop where
  stage : engine.device.stage = .running
  bringUp : engine.bringUp = .idle
  complete : engine.receive.isComplete = true
  receive : engine.receive.used = 0
  handles : engine.receive.handles = handles
  transmit : ∀ lane : Lane, (engine.transmit.get lane).isComplete = true ∧
    (engine.transmit.get lane).used = 0

/-- The device is dead, and every ring is empty. -/
structure IsDown (engine : Engine) : Prop where
  stage : engine.device.stage = .dead
  receive : engine.receive = .empty receiveSlots
  transmit : ∀ lane : Lane, engine.transmit.get lane = .empty transmitSlots

/-- Without a pass, none of its runners is at work. -/
theorem Sound.free (sound : engine.Sound) (quiet : engine.pass = .idle) :
    engine.deferred.running = false := by
  rw [← Bool.not_eq_true]
  exact fun running => sound.reception.running.mp running quiet

/-! ## Nothing to do -/

theorem bringUpRecord_cons (input : Input) (later : List Input) :
    (engine.history (input :: later)).bringUpRecord =
      History.bringUpRecord [⟨engine, input⟩] ++
        ((Moment.mk engine input).after.history later).bringUpRecord :=
  History.bringUpRecord_append [_] _

/-- Without bringing up under way, its further inputs find nothing to do. -/
theorem run_idle (idle : engine.bringUp = .idle) {inputs : List Input}
    (further : ∀ input ∈ inputs, input.isFurther = true) :
    (engine.run inputs).1 = engine ∧ (engine.history inputs).bringUpRecord = {} := by
  induction inputs with
  | nil => exact ⟨rfl, rfl⟩
  | cons input later hypothesis =>
      obtain ⟨same, silent⟩ := hypothesis fun other member => further other (by simp [member])
      have still : (Moment.mk engine input).after = engine ∧
          History.bringUpRecord [⟨engine, input⟩] = {} := by
        have first := further input (by simp)
        cases input with
        | proceedBringUp =>
          have stuck : engine.proceedBringUp? = none := by simp [proceedBringUp?, idle]
          simp [History.bringUpRecord, Moment.broughtUp?, Moment.reply, step, stuck, submissions,
            Moment.postTaken?]
        | answerPost answer =>
          have stuck : engine.answerPost answer = (engine, []) := by simp [answerPost, idle]
          simp [History.bringUpRecord, Moment.broughtUp?, stuck, submissions,
            Moment.postTaken?, idle]
        | _ => simp [Input.isFurther] at first
      rw [bringUpRecord_cons, run_cons, still.2]
      show ((Moment.mk engine input).after.run later).1 = engine ∧ _
      rw [still.1, same, silent]
      exact ⟨rfl, rfl⟩

/-! ## Failing -/

/-- A teardown that is finished leaves nothing behind. -/
theorem isDown_of_finished (sound : engine.Sound) {finished : Engine × List Effect}
    (finish : engine.finishTeardown? = some finished) : finished.1.IsDown := by
  obtain ⟨begun, -, rfl⟩ := finishTeardown?_eq_some finish
  refine ⟨sound.reception.begun begun, ?_, fun lane => ?_⟩
  · exact congrArg Ring.empty sound.reception.capacity
  · rw [Lane.get_map]
    exact congrArg Ring.empty (sound.transmission.capacity lane)

/-- Bringing up that failed tells so once its teardown can be finished. -/
theorem proceedBringUp?_failing {failure : Failure} (failing : engine.bringUp = .failing failure)
    (begun : engine.teardowns ≠ 0) (free : engine.deferred.running = false) :
    ∃ finished, engine.finishTeardown? = some finished ∧
      engine.proceedBringUp? =
        some ({ finished.1 with bringUp := .idle }, finished.2, some (.error failure)) := by
  obtain ⟨finished, finish⟩ :=
    Option.isSome_iff_exists.mp (isSome_finishTeardown? begun free)
  exact ⟨finished, finish, by simp [proceedBringUp?, failing, finish]⟩

/-- A failure is reported once, when the teardown is finished; nothing is asked for or
submitted any more. -/
theorem run_failing {failure : Failure} (sound : engine.Sound)
    (failing : engine.bringUp = .failing failure) (begun : engine.teardowns ≠ 0)
    (quiet : engine.pass = .idle) {inputs : List Input}
    (further : ∀ input ∈ inputs, input.isFurther = true) :
    (engine.run (.proceedBringUp :: inputs)).1.IsDown ∧
      (engine.history (.proceedBringUp :: inputs)).bringUpRecord =
        { results := [.error (.failure failure)] } := by
  obtain ⟨finished, finish, ended⟩ := proceedBringUp?_failing failing begun (sound.free quiet)
  have down := isDown_of_finished sound finish
  obtain ⟨unasked, unsubmitted⟩ := unseen (engine.kind_finishTeardown? finish)
  have reported : History.bringUpRecord [⟨engine, .proceedBringUp⟩] =
      { results := [.error (.failure failure)] } := by
    simp [History.bringUpRecord, Moment.broughtUp?, Moment.reply, step, ended, ofBringUpStep,
      unasked, unsubmitted, Moment.postTaken?, Except.mapError]
  have idle : ({ finished.1 with bringUp := .idle } : Engine).bringUp = .idle := rfl
  obtain ⟨same, silent⟩ := run_idle idle further
  have after : (Moment.mk engine .proceedBringUp).after = { finished.1 with bringUp := .idle } := by
    simp [ended]
  rw [bringUpRecord_cons, reported, run_cons, after, silent]
  show ((Moment.mk engine .proceedBringUp).after.run inputs).1.IsDown ∧ _
  rw [after, same]
  exact ⟨⟨down.stage, down.receive, down.transmit⟩, rfl⟩

/-! ## Posting -/

/-- The engine once the buffers of the first slots were posted. -/
def posted (engine : Engine) (count : Nat) : Engine :=
  { engine with
    receive := { engine.receive with
      slots := engine.receive.slots.mapIdx fun index slot =>
        if index < count then slot.vacate else slot }
    bringUp := .posting count }

theorem posted_zero (posting : engine.bringUp = .posting 0) : engine.posted 0 = engine := by
  have slots : (engine.receive.slots.mapIdx fun index slot =>
      if index < 0 then slot.vacate else slot) = engine.receive.slots :=
    List.ext_getElem? fun place => by simp
  rw [posted, slots, ← posting]

section

variable {index size : Nat} {handle : Handle}

theorem getElem?_posted :
    (engine.posted index).receive.slots[index]? = engine.receive.slots[index]? := by
  simp [posted]

/-- The slot that is posted next is vacated like those before. -/
theorem vacate_posted :
    ((engine.posted index).receive.modify index ReceiveSlot.vacate) =
      (engine.posted (index + 1)).receive := by
  simp only [posted, Ring.modify, Ring.mk.injEq, and_true, true_and]
  apply List.ext_getElem?
  intro place
  rw [List.getElem?_modify, List.getElem?_mapIdx, List.getElem?_mapIdx]
  cases engine.receive.slots[place]? with
  | none => simp
  | some slot =>
      by_cases same : index = place
      · simp [same]
      · have next : place < index + 1 ↔ place < index := by omega
        simp [same, next]

/-- The buffer of the next slot is submitted. -/
theorem proceedBringUp?_posted (below : index < receiveSlots)
    (found : engine.receive.slots[index]? = some (.fresh size handle)) :
    (engine.posted index).proceedBringUp? =
      some ({ engine.posted (index + 1) with
          bringUp := .submitting ⟨index, handle, .zeroed size⟩ },
        [.submitReceive engine.config.inEndpoint (.bind handle (.zeroed size))], none) := by
  have found : (engine.posted index).receive.slots[index]? = some (.fresh size handle) :=
    getElem?_posted.trans found
  have next : (engine.posted index).bringUp = .posting index := rfl
  simp only [proceedBringUp?, next, if_neg (Nat.not_le.mpr below), found, ReceiveSlot.fresh,
    vacate_posted]
  rfl

/-- Of an answer to a post, no more is seen than that the transport took it. -/
theorem bringUpRecord_answerPost (engine : Engine) (answer : Option Refusal) :
    History.bringUpRecord [⟨engine, .answerPost answer⟩] =
      { taken := (Moment.mk engine (.answerPost answer)).postTaken?.toList } := by
  obtain ⟨unasked, unsubmitted⟩ := unseen fun effect member =>
    List.mem_cons_of_mem .free (engine.kind_answerPost answer effect member)
  have results : (Moment.mk engine (.answerPost answer)).broughtUp? = none := rfl
  cases taken : (Moment.mk engine (.answerPost answer)).postTaken? <;>
    simp [History.bringUpRecord, results, unasked, unsubmitted, taken]

/-- A slot is posted, and the transport answers. -/
theorem bringUpRecord_post (below : index < receiveSlots)
    (found : engine.receive.slots[index]? = some (.fresh size handle))
    (answer : Option Refusal) :
    let transfer := Transfer.bind handle (.zeroed size)
    ((engine.posted index).history [.proceedBringUp, .answerPost answer]).bringUpRecord =
      { submitted := [transfer], taken := if answer.isNone then [transfer] else [] } := by
  have proceeds := proceedBringUp?_posted below found
  have submitted : History.bringUpRecord [⟨engine.posted index, .proceedBringUp⟩] =
      { submitted := [.bind handle (.zeroed size)] } := by
    simp [History.bringUpRecord, Moment.broughtUp?, Moment.reply, step, proceeds, ofBringUpStep,
      Moment.postTaken?, submissions, Effect.asked?, Effect.submission?]
  have after : (Moment.mk (engine.posted index) .proceedBringUp).after =
      { engine.posted (index + 1) with bringUp := .submitting ⟨index, handle, .zeroed size⟩ } := by
    simp [proceeds]
  rw [bringUpRecord_cons, submitted, after]
  refine (congrArg (_ ++ ·) (bringUpRecord_answerPost _ answer)).trans ?_
  cases answer <;> rfl

/-- A post that the transport takes is followed by the next one. -/
theorem run_post_taken (below : index < receiveSlots)
    (found : engine.receive.slots[index]? = some (.fresh size handle)) :
    ((engine.posted index).run [.proceedBringUp, .answerPost none]).1 =
      engine.posted (index + 1) := by
  simp only [run_cons, run_nil, step, proceedBringUp?_posted below found, ofBringUpStep,
    possible, answerPost]
  rfl

/-- A post that the transport refuses begins a teardown. -/
theorem run_post_refused (below : index < receiveSlots)
    (found : engine.receive.slots[index]? = some (.fresh size handle)) (refusal : Refusal) :
    let after := ((engine.posted index).run [.proceedBringUp, .answerPost (some refusal)]).1
    after.bringUp = .failing (.ofStatus refusal.status) ∧ after.teardowns ≠ 0 ∧
      after.pass = engine.pass := by
  simp only [run_cons, run_nil, step, proceedBringUp?_posted below found, ofBringUpStep,
    possible, answerPost]
  exact ⟨rfl, Nat.succ_ne_zero _, rfl⟩

end

/-! ## All posts -/

section

variable {handles : List Handle} {size : Nat} {answers : Nat → Option Refusal}

/-- The first posts, while the transport takes them. -/
theorem run_posts (slots : engine.receive.slots = handles.map (.fresh size))
    (count_le : handles.length ≤ receiveSlots) (posting : engine.bringUp = .posting 0)
    {count : Nat} (below : count ≤ handles.length) (taken : ∀ index < count, answers index = none) :
    let inputs := postingInputs answers (List.range count)
    let transfers := posts size (handles.take count)
    (engine.run inputs).1 = engine.posted count ∧
      (engine.history inputs).bringUpRecord = { submitted := transfers, taken := transfers } := by
  induction count with
  | zero => exact ⟨(posted_zero posting).symm, rfl⟩
  | succ count hypothesis =>
      obtain ⟨run, record⟩ := hypothesis (by omega) fun index before => taken index (by omega)
      have found : engine.receive.slots[count]? = some (.fresh size handles[count]) := by
        rw [slots, List.getElem?_map, List.getElem?_eq_getElem below, Option.map_some]
      have within : count < receiveSlots := by omega
      have accepts : answers count = none := taken count (by omega)
      have inputs : postingInputs answers (List.range (count + 1)) =
          postingInputs answers (List.range count) ++ [.proceedBringUp, .answerPost none] := by
        simp [postingInputs, List.range_succ, accepts]
      dsimp only
      rw [inputs, run_append, history_append, History.bringUpRecord_append, run, record,
        run_post_taken within found, bringUpRecord_post within found]
      exact ⟨rfl, posts_take_succ size below ▸ rfl⟩

/-- Every post is taken, and the device is up. -/
theorem run_posting_taken (slots : engine.receive.slots = handles.map (.fresh size))
    (length : handles.length = receiveSlots) (posting : engine.bringUp = .posting 0)
    (taken : ∀ index < receiveSlots, answers index = none) :
    let inputs := postingInputs answers (List.range receiveSlots) ++ [.proceedBringUp]
    (engine.run inputs).1 = { engine.posted receiveSlots with bringUp := .idle } ∧
      (engine.history inputs).bringUpRecord =
        { results := [.ok ()], submitted := posts size handles, taken := posts size handles } := by
  obtain ⟨run, record⟩ := run_posts slots length.le posting length.ge taken
  have up : (engine.posted receiveSlots).proceedBringUp? =
      some ({ engine.posted receiveSlots with bringUp := .idle },
        [.log (.up engine.config.bufferSize engine.config.inEndpoint)], some (.ok ())) := by
    simp [proceedBringUp?, posted]
  have last : History.bringUpRecord [⟨engine.posted receiveSlots, .proceedBringUp⟩] =
      { results := [.ok ()] } := by
    simp [History.bringUpRecord, Moment.broughtUp?, Moment.reply, step, up, ofBringUpStep,
      Moment.postTaken?, submissions, Effect.asked?, Effect.submission?, Except.mapError]
  dsimp only
  rw [run_append, history_append, History.bringUpRecord_append, run, record, ← length,
    List.take_length, length]
  constructor
  · simp [step, up, ofBringUpStep]
  · refine (congrArg (_ ++ ·) last).trans ?_
    simp [BringUpRecord.append_eq]

/-- The posts up to the first one that the transport refuses. -/
theorem run_posting_refused (sound : engine.Sound) (quiet : engine.pass = .idle)
    (slots : engine.receive.slots = handles.map (.fresh size))
    (length : handles.length = receiveSlots) (posting : engine.bringUp = .posting 0)
    {index : Nat} {refusal : Refusal} (below : index < receiveSlots)
    (taken : ∀ earlier < index, answers earlier = none) (refused : answers index = some refusal) :
    let inputs := postingInputs answers (List.range receiveSlots) ++ [.proceedBringUp]
    (engine.run inputs).1.IsDown ∧
      (engine.history inputs).bringUpRecord =
        { results := [.error (.failure (.ofStatus refusal.status))]
          submitted := posts size (handles.take (index + 1))
          taken := posts size (handles.take index) } := by
  have inHandles : index < handles.length := length.symm ▸ below
  have found : engine.receive.slots[index]? = some (.fresh size handles[index]) := by
    rw [slots, List.getElem?_map, List.getElem?_eq_getElem inHandles, Option.map_some]
  obtain ⟨run, record⟩ := run_posts slots length.le posting inHandles.le taken
  obtain ⟨later, split⟩ := postingInputs_range answers below
  obtain ⟨inputs, next, further⟩ := exists_further answers later
  obtain ⟨failing, begun, pass⟩ := run_post_refused below found refusal
  have seen := bringUpRecord_post below found (some refusal)
  dsimp only
  rw [split, List.append_assoc, List.append_assoc, next, refused, run_append, run_append,
    history_append, history_append, History.bringUpRecord_append, History.bringUpRecord_append,
    run, record, seen]
  have torn := run_failing ?_ failing begun (pass.trans quiet) further
  · refine ⟨torn.1, ?_⟩
    rw [torn.2, posts_take_succ size inHandles]
    simp [BringUpRecord.append_eq]
  · exact (run ▸ sound.run (postingInputs answers (List.range index))).run _

end

/-! ## The beginning -/

section

variable {supply : Supply}

/-- An engine that was only created has nothing in its rings, and nothing under way. -/
theorem Sound.of_created (sound : engine.Sound) (created : engine.device.stage = .created) :
    engine.receive = .empty receiveSlots ∧ engine.pass = .idle ∧
      ∀ lane : Lane, engine.transmit.get lane = .empty transmitSlots :=
  ⟨congrArg Reception.ring (sound.reception.untouched created),
    congrArg Reception.pass (sound.reception.untouched created),
    sound.transmission.untouched created⟩

theorem asked_issues (supply : Supply) (count : Nat) :
    (supply.issues count).filterMap Effect.asked? = (supply.handles.take count).map some := by
  rw [Supply.issues, List.filterMap_map, ← List.filterMap_eq_map]
  rfl

/-- Of the beginning, the requests for handles are seen. -/
theorem bringUpRecord_startBringUp {effects : List Effect}
    (acts : (engine.startBringUp supply).2 = (effects, none)) :
    History.bringUpRecord [⟨engine, .startBringUp supply⟩] =
      { asked := effects.filterMap Effect.asked? } := by
  have unsubmitted : submissions (Moment.mk engine (.startBringUp supply)).effects = [] :=
    Effect.watches_submission?.effects_eq_nil _ (by simp [Input.kinds])
  rw [Moment.effects_startBringUp, acts] at unsubmitted
  simp [History.bringUpRecord, Moment.broughtUp?, Moment.postTaken?, Moment.reply, step,
    ofBringUpStep, acts, unsubmitted]

/-- A supply that suffices populates every ring, and the posts begin. -/
theorem startBringUp_enough (sound : engine.Sound) (created : engine.device.stage = .created)
    (enough : supply.Suffices acquisitions) :
    let started := (Moment.mk engine (.startBringUp supply)).after
    (started.receive = (Ring.empty receiveSlots).extend
        (supply.receiveHandles.map (.fresh engine.config.bufferSize)) ∧
      started.bringUp = .posting 0 ∧ started.device.stage = .running ∧ started.pass = .idle ∧
      ∀ lane : Lane, ∃ handles, handles.length = transmitSlots ∧
        started.transmit.get lane = (Ring.empty transmitSlots).extend handles) ∧
    History.bringUpRecord [⟨engine, .startBringUp supply⟩] =
      { asked := (supply.handles.take (laneCount * transmitSlots + receiveSlots)).map some } := by
  obtain ⟨receive, pass, transmit⟩ := sound.of_created created
  obtain ⟨succeeded, slots, lanes, others⟩ :=
    acquire_acquisitions enough (room_of_created sound created)
  generalize result : engine.acquire supply acquisitions = acquired at succeeded slots lanes others
  have device : acquired.1.device = engine.device := by rw [others]
  have started : engine.startBringUp supply =
      ({ acquired.1 with device := acquired.1.device.start.2, bringUp := .posting 0 },
        supply.issues (laneCount * transmitSlots + receiveSlots), none) := by
    rw [startBringUp, if_neg (not_not.mpr created), result,
      show acquired = (acquired.1, _, none) from Prod.ext rfl succeeded]
  refine ⟨⟨?_, ?_, ?_, ?_, ?_⟩, ?_⟩
  · simp [started, slots, receive]
  · simp [started]
  · simp [started, device, Device.start, created]
  · simp only [Moment.after_startBringUp, started]
    rw [others]
    exact pass
  · intro lane
    obtain ⟨handles, count, extended⟩ := lanes lane
    exact ⟨handles, count, by simp [started, extended, transmit lane]⟩
  · rw [bringUpRecord_startBringUp (congrArg Prod.snd started), asked_issues]

/-- A supply that does not suffice begins a teardown. -/
theorem startBringUp_short (sound : engine.Sound) (created : engine.device.stage = .created)
    {past later : List Acquisition} {item : Acquisition}
    (split : acquisitions = past ++ item :: later) (enough : supply.Suffices past)
    (short : ¬ supply.Suffices (past ++ [item])) :
    let started := (Moment.mk engine (.startBringUp supply)).after
    (started.bringUp = .failing .outOfMemory ∧ started.teardowns ≠ 0 ∧ started.pass = .idle) ∧
    History.bringUpRecord [⟨engine, .startBringUp supply⟩] =
      { asked := (supply.handles.take (past.countP Acquisition.needsHandle)).map some ++
          if item.needsMemory && !supply.grants item then [] else [none] } := by
  obtain ⟨slots, handles, accounted⟩ := engine.acquire_accounted supply acquisitions
  have failed : (engine.acquire supply acquisitions).2 = _ :=
    split ▸ acquire_shortage enough short (split ▸ room_of_created sound created)
  generalize result : engine.acquire supply acquisitions = acquired at failed accounted
  have started : engine.startBringUp supply =
      ((acquired.1.abandon .outOfMemory).1,
        supply.issues (past.countP Acquisition.needsHandle) ++ supply.asksInVain item ++
          (acquired.1.abandon .outOfMemory).2, none) := by
    rw [startBringUp, if_neg (not_not.mpr created), result,
      show acquired = (acquired.1, _, some .outOfMemory) from Prod.ext rfl failed]
  have pass : acquired.1.pass = .idle := by
    rw [accounted.acquired.others]
    exact (sound.of_created created).2.1
  refine ⟨⟨?_, ?_, ?_⟩, ?_⟩
  · simp [started, abandon]
  · simp [started, abandon, beginTeardown]
  · simp [started, abandon, beginTeardown, pass]
  · have unasked := (unseen fun effect member =>
      List.mem_cons_of_mem .free (acquired.1.kind_abandon .outOfMemory effect member)).1
    rw [bringUpRecord_startBringUp (congrArg Prod.snd started), List.filterMap_append,
      List.filterMap_append, unasked, List.append_nil, asked_issues, Supply.asksInVain]
    split <;> rfl

end

end Engine

/-! ## The whole of it -/

/-- How bringing up ends, and what is seen of it by then: it comes up, or the first
acquisition fails for which the supply does not suffice, or the first post fails that the
transport refuses. -/
inductive BringUpEnding (supply : Supply) (answers : Nat → Option Refusal) (size : Nat) :
    BringUpRecord → Prop where
  | up (enough : supply.Suffices acquisitions)
      (taken : ∀ index < receiveSlots, answers index = none) :
      BringUpEnding supply answers size
        { results := [.ok ()]
          asked := (supply.handles.take (laneCount * transmitSlots + receiveSlots)).map some
          submitted := posts size (supply.receiveHandles)
          taken := posts size (supply.receiveHandles) }
  | short {past later : List Acquisition} {item : Acquisition}
      (split : acquisitions = past ++ item :: later) (enough : supply.Suffices past)
      (short : ¬ supply.Suffices (past ++ [item])) :
      BringUpEnding supply answers size
        { results := [.error (.failure .outOfMemory)]
          asked := (supply.handles.take (past.countP Acquisition.needsHandle)).map some ++
            if item.needsMemory && !supply.grants item then [] else [none] }
  | refused {index : Nat} {refusal : Refusal} (enough : supply.Suffices acquisitions)
      (below : index < receiveSlots) (taken : ∀ earlier < index, answers earlier = none)
      (refuses : answers index = some refusal) :
      BringUpEnding supply answers size
        { results := [.error (.failure (.ofStatus refusal.status))]
          asked := (supply.handles.take (laneCount * transmitSlots + receiveSlots)).map some
          submitted := posts size (supply.receiveHandles.take (index + 1))
          taken := posts size (supply.receiveHandles.take index) }

/-- Only bringing up from a supply that suffices, with posts that are all taken, comes up. -/
theorem BringUpEnding.results_iff {supply : Supply} {answers : Nat → Option Refusal} {size : Nat}
    {record : BringUpRecord} (ending : BringUpEnding supply answers size record) :
    record.results = [.ok ()] ↔
      supply.Suffices acquisitions ∧ ∀ index < receiveSlots, answers index = none := by
  cases ending with
  | up enough taken => exact ⟨fun _ => ⟨enough, taken⟩, fun _ => rfl⟩
  | @short past later item split enough short =>
      refine ⟨by simp, fun fine => ?_⟩
      rw [split, List.append_cons] at fine
      exact absurd (Supply.suffices_append_iff.mp fine.1).1 short
  | refused enough below taken refuses =>
      refine ⟨by simp, fun fine => ?_⟩
      rw [fine.2 _ below] at refuses
      contradiction

namespace Engine

variable {engine : Engine}

/-- Once every buffer was posted, the device is ready. -/
theorem isReady_posted {handles : List Handle} {size : Nat}
    (stage : engine.device.stage = .running) (length : handles.length = receiveSlots)
    (receive : engine.receive = (Ring.empty receiveSlots).extend (handles.map (.fresh size)))
    (transmit : ∀ lane : Lane, ∃ handles, handles.length = transmitSlots ∧
      engine.transmit.get lane = (Ring.empty transmitSlots).extend handles) :
    IsReady { engine.posted receiveSlots with bringUp := .idle } handles where
  stage := stage
  bringUp := rfl
  complete := by simp [posted, receive, Ring.isComplete, Ring.extend, Ring.empty, length]
  receive := by simp [posted, receive, Ring.extend, Ring.empty]
  handles := by
    apply List.ext_getElem?
    intro index
    simp only [posted, receive, Ring.handles, Ring.extend, Ring.empty, List.nil_append,
      List.getElem?_map, List.getElem?_mapIdx]
    cases handles[index]? with
    | none => rfl
    | some handle => simp [apply_ite, ReceiveSlot.vacate, ReceiveSlot.fresh]
  transmit := by
    intro lane
    obtain ⟨handles, count, same⟩ := transmit lane
    have unchanged : (engine.posted receiveSlots).transmit = engine.transmit := rfl
    simp [unchanged, same, Ring.isComplete, Ring.extend, Ring.empty, count]

/-- Bringing up comes to one of its ends. -/
theorem bringingUp_ends (sound : engine.Sound) (created : engine.device.stage = .created)
    (supply : Supply) (answers : Nat → Option Refusal) :
    let after := (engine.run (bringingUp supply answers)).1
    let record := (engine.history (bringingUp supply answers)).bringUpRecord
    BringUpEnding supply answers engine.config.bufferSize record ∧
      (record.results = [.ok ()] → after.IsReady supply.receiveHandles) ∧
      (record.results ≠ [.ok ()] → after.IsDown) := by
  have after : ∀ inputs, (engine.run (.startBringUp supply :: inputs)).1 =
      ((Moment.mk engine (.startBringUp supply)).after.run inputs).1 := fun _ => rfl
  have startedSound : (Moment.mk engine (.startBringUp supply)).after.Sound := by
    have before : (Moment.mk engine (.startBringUp supply)).before.Sound := sound
    exact before.after
  dsimp only [bringingUp]
  rw [after, bringUpRecord_cons]
  by_cases enough : supply.Suffices acquisitions
  case neg =>
    obtain ⟨past, item, later, split, before, short⟩ := Supply.exists_shortage enough
    obtain ⟨⟨failing, begun, quiet⟩, asked⟩ := startBringUp_short sound created split before short
    obtain ⟨inputs, next, further⟩ := exists_further answers (List.range receiveSlots)
    obtain ⟨down, reported⟩ := run_failing startedSound failing begun quiet further
    rw [next, asked, reported]
    simp only [BringUpRecord.append_eq, List.nil_append, List.append_nil]
    exact ⟨.short split before short, fun up => by simp at up, fun _ => down⟩
  obtain ⟨⟨receive, posting, running, quiet, transmit⟩, asked⟩ :=
    startBringUp_enough sound created enough
  have slots : (Moment.mk engine (.startBringUp supply)).after.receive.slots =
      supply.receiveHandles.map (.fresh engine.config.bufferSize) := by
    rw [receive]
    rfl
  have length := Supply.length_receiveHandles enough
  rw [asked]
  by_cases taken : ∀ index < receiveSlots, answers index = none
  · obtain ⟨run, posted⟩ := run_posting_taken slots length posting taken
    rw [run, posted]
    simp only [BringUpRecord.append_eq, List.nil_append, List.append_nil]
    exact ⟨.up enough taken, fun _ => isReady_posted running length receive transmit,
      fun down => absurd rfl down⟩
  · obtain ⟨index, below, earlier, refusal, refuses⟩ := exists_first_refusal taken
    obtain ⟨down, posted⟩ :=
      run_posting_refused startedSound quiet slots length posting below earlier refuses
    rw [posted]
    simp only [BringUpRecord.append_eq, List.nil_append, List.append_nil]
    exact ⟨.refused enough below earlier refuses, fun up => by simp at up, fun _ => down⟩

/-- **Bringing up is all or nothing.**

Whatever the supply, and whatever the transport answers, bringing up a device that was only
created has one result.  It succeeds if and only if the supply suffices for everything and
the transport takes all posts; then the device runs, every ring is populated and nothing is
in flight, and the transport has the buffers of all receive slots, in slot order.

Otherwise the result tells the first thing that failed.  Nothing was asked for or submitted
behind it, exactly the posts before it stay with the transport, the device is dead and every
ring is empty.

Whatever happens afterwards, the device is not brought up again. -/
theorem bringUp_all_or_nothing (config : Config) (before : List Input)
    (created : ((fresh config).run before).1.device.stage = .created) (supply : Supply)
    (answers : Nat → Option Refusal) :
    let engine := ((fresh config).run before).1
    let after := (engine.run (bringingUp supply answers)).1
    let record := (engine.history (bringingUp supply answers)).bringUpRecord
    BringUpEnding supply answers config.bufferSize record ∧
      (record.results = [.ok ()] ↔
        supply.Suffices acquisitions ∧ ∀ index < receiveSlots, answers index = none) ∧
      (record.results = [.ok ()] → after.IsReady supply.receiveHandles) ∧
      (record.results ≠ [.ok ()] → after.IsDown) ∧
      ∀ later more, (Moment.mk (after.run later).1 (.startBringUp more)).broughtUp? =
        some (.error (.failure .notReady)) := by
  intro engine after record
  have sound : engine.Sound := sound_run config before
  obtain ⟨ending, ready, down⟩ := bringingUp_ends sound created supply answers
  rw [show engine.config = config from config_run config before] at ending
  refine ⟨ending, ending.results_iff, ready, down, fun later more => ?_⟩
  have begun : after.device.stage ≠ .created := by
    by_cases up : record.results = [.ok ()]
    · rw [(ready up).stage]
      decide
    · rw [(down up).stage]
      decide
  have refused := started_run begun later
  simp [Moment.broughtUp?, Moment.reply, step, startBringUp, refused, ofBringUpStep,
    Except.mapError]

/-- The transport refuses the fourth post. -/
theorem bringUp_all_or_nothing_refused :
    let engine := ((fresh .small).run []).1
    let answers : Nat → Option Refusal := fun index =>
      if index = 3 then some ⟨.io (-71), false⟩ else none
    let after := (engine.run (bringingUp .ample answers)).1
    let record := (engine.history (bringingUp .ample answers)).bringUpRecord
    engine.device.stage = .created ∧
      record.results = [.error (.failure (.submit (.io (-71))))] ∧
      record.submitted.map (·.handle) = [384, 385, 386, 387] ∧
      record.taken.map (·.handle) = [384, 385, 386] ∧ after.IsDown := by
  intro engine answers after record
  obtain ⟨-, comesUp, -, down, -⟩ := bringUp_all_or_nothing .small [] rfl .ample answers
  have refused : record.results ≠ [.ok ()] := fun up =>
    absurd ((comesUp.mp up).2 3 (by decide)) (by simp [answers])
  exact ⟨rfl, by decide +kernel, by decide +kernel, by decide +kernel, down refused⟩

end Engine

end WlanDatapath
