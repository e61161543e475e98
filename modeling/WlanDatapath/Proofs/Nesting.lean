import WlanDatapath.Bench.Run
import WlanDatapath.Proofs.CutOff

/-!
# Calls on a bench nest

Whatever a bench does to an engine is a run of it.  In such a run an operation that is
performed in a call of the engine is over before the call is, and a teardown that has to
wait for a pass is finished as soon as the pass is over.  So a bringing up in one of whose
calls a pass was run goes on only when no teardown waits any more
(`Machine.reaches_operations`).

The argument is about the order of the agenda.  `Task.Fits` says what has to stand in
front of a task that goes on with bringing up or with a pass, and every task leaves an
agenda whose tasks fit (`Machine.Fits.step`).
-/

namespace WlanDatapath

/-! ## Bringing up, the pass and the teardowns -/

/-- An input that leaves bringing up, the pass and the teardowns alone. -/
def Input.isAside : Input → Bool
  | .completeReceive _ | .enqueue _ _ _ _ _ | .completeTransmit _ _ | .finishStatistics => true
  | _ => false

namespace Engine

variable {engine : Engine}

/-- Where bringing up and the pass stand, and how many teardowns wait. -/
def stand (engine : Engine) : BringUp × Pass × Nat :=
  (engine.bringUp, engine.pass, engine.teardowns)

/-- Buffers are posted after a step of bringing up only if they were before, and no
teardown has begun. -/
theorem isPosting_proceedBringUp? {step : BringUpStep}
    (proceeds : engine.proceedBringUp? = some step) (posting : step.1.bringUp.isPosting = true) :
    engine.bringUp.isPosting = true ∧ step.1.teardowns = engine.teardowns := by
  cases bringUpMove_of_proceeds proceeds with
  | posts before | passes before => exact ⟨by rw [before]; rfl, rfl⟩
  | abandons | comesUp | fails => cases posting

theorem isPosting_answerPost {refusal : Option Refusal}
    (posting : (engine.answerPost refusal).1.bringUp.isPosting = true) :
    engine.bringUp.isPosting = true ∧
      (engine.answerPost refusal).1.teardowns = engine.teardowns := by
  unfold answerPost at posting ⊢
  cases place : engine.bringUp with
  | submitting work =>
      simp only [place] at posting ⊢
      cases refusal with
      | none => exact ⟨rfl, rfl⟩
      | some refusal => cases posting
  | idle | posting | failing =>
      simp only [place] at posting
      exact ⟨posting, rfl⟩

/-- Bringing up begins with an engine that nothing has happened to. -/
theorem stand_of_created (sound : engine.Sound) (created : engine.device.stage = .created) :
    engine.stand = (.idle, .idle, 0) := by
  have untouched : engine.reception = .untouched := sound.reception.untouched created
  show (engine.reception.bringUp, engine.reception.pass, engine.reception.teardowns) = _
  rw [untouched]
  rfl

/-- Where buffers are being posted that bringing up has just begun with, no teardown
waits. -/
theorem teardowns_startBringUp (sound : engine.Sound) (created : engine.device.stage = .created)
    {supply : Supply} (posting : (engine.startBringUp supply).1.bringUp.isPosting = true) :
    (engine.startBringUp supply).1.teardowns = 0 := by
  obtain ⟨slots, handles, accounted⟩ := engine.acquire_accounted supply acquisitions
  have others := accounted.acquired.others
  have none : engine.teardowns = 0 := congrArg (·.2.2) (stand_of_created sound created)
  rw [startBringUp, if_neg (not_not.mpr created)] at posting ⊢
  split at posting
  · cases posting
  next acquired effects result =>
    rw [result] at others
    exact (congrArg Engine.teardowns others).trans none

/-- Reception neither begins to post nor to tear down. -/
theorem Receives.posting {before after : Engine} (receives : before.Receives after)
    (posting : after.bringUp.isPosting = true) :
    before.bringUp.isPosting = true ∧ after.teardowns = before.teardowns :=
  ⟨receives.bringUp ▸ posting, receives.teardowns⟩

theorem bringUp_finishTeardown (engine : Engine) :
    (engine.finishTeardown?.getD (engine, [])).1.bringUp = engine.bringUp := by
  unfold finishTeardown?
  split <;> rfl

/-- Without a pass one teardown less waits, if any did. -/
theorem teardowns_finishTeardown (sound : engine.Sound) (idle : engine.pass = .idle) :
    (engine.finishTeardown?.getD (engine, [])).1.teardowns = engine.teardowns - 1 := by
  have quiet : engine.deferred.running = false := by
    rw [← Bool.not_eq_true]
    exact fun running => sound.reception.running.mp running idle
  by_cases begun : engine.teardowns = 0
  · simp [finishTeardown?, begun]
  · simp [finishTeardown?, begun, quiet]

/-- A verdict is taken if the pass awaits one, and ignored otherwise. -/
theorem pass_answerDelivery (engine : Engine) (accepted : Bool) :
    (∃ work walker, engine.pass = .delivering work walker ∧
        (engine.answerDelivery accepted).pass = .walking work walker) ∨
      (∀ work walker, engine.pass ≠ .delivering work walker) ∧
        engine.answerDelivery accepted = engine := by
  unfold answerDelivery
  split
  next work walker delivering => exact Or.inl ⟨work, walker, delivering, rfl⟩
  next elsewhere => exact Or.inr ⟨elsewhere, rfl⟩

/-- An answer is taken if the pass awaits one, and ignored otherwise. -/
theorem pass_answerRepost (engine : Engine) (refusal : Option Refusal) :
    (∃ work, engine.pass = .submitting work ∧
        (engine.answerRepost refusal).1.pass = .popping) ∨
      (∀ work, engine.pass ≠ .submitting work) ∧ (engine.answerRepost refusal).1 = engine := by
  unfold answerRepost
  split
  next work submitting =>
    refine Or.inl ⟨work, submitting, ?_⟩
    cases refusal <;> rfl
  next elsewhere => exact Or.inr ⟨elsewhere, rfl⟩

end Engine

namespace Reception

variable {reception next : Reception} {event : Event}

/-- A frame is handed up where the pass comes to wait for the verdict on it. -/
theorem Step.handsUp (step : Step reception event next) {work : Work} {walker : Walker}
    (before : ∀ work walker, reception.pass ≠ .delivering work walker)
    (after : next.pass = .delivering work walker) :
    ∃ segment memory frame, event = .asked segment memory ∧
      segment.delivery? memory = some frame := by
  cases step with
  | handedUp _ _ _ copied => exact ⟨_, _, _, rfl, copied⟩
  | nothingLeft | slotLost =>
      simp only [leave] at after
      split at after <;> cases after
  | passStarted | opened | setAside | walked | rejected | dropped | judged | givenBack | kept
  | taken | refused => cases after
  | _ => exact absurd after (before _ _)

/-- A buffer is submitted where the pass comes to wait for the answer to it. -/
theorem Step.givesBack (step : Step reception event next) {work : Work}
    (before : ∀ work, reception.pass ≠ .submitting work)
    (after : next.pass = .submitting work) : ∃ handle, event = .submitted handle := by
  cases step with
  | givenBack => exact ⟨_, rfl⟩
  | nothingLeft | slotLost =>
      simp only [leave] at after
      split at after <;> cases after
  | passStarted | opened | setAside | walked | rejected | dropped | handedUp | judged | kept
  | taken | refused => cases after
  | _ => exact absurd after (before _)

end Reception

namespace Moment

/-- The pass comes to wait for a verdict by an act that hands up a frame. -/
theorem delivers {moment : Moment} {work : Work} {walker : Walker}
    (before : ∀ work walker, moment.before.pass ≠ .delivering work walker)
    (after : moment.after.pass = .delivering work walker) :
    ∃ frame descriptor, .deliver frame descriptor ∈ moment.effects := by
  obtain ⟨event, step, tells⟩ := moment.reception_step
  obtain ⟨segment, memory, frame, rfl, copied⟩ := step.handsUp before after
  have delivered : moment.delivered = [frame] := by
    rw [tells.delivered]
    simp [Reception.Event.asked?, copied]
  have member : frame ∈ moment.delivered := by simp [delivered]
  obtain ⟨effect, inEffects, same⟩ := List.mem_filterMap.mp member
  cases effect with
  | deliver frame descriptor => exact ⟨frame, descriptor, inEffects⟩
  | _ => cases same

/-- The pass comes to wait for an answer by an act that submits a buffer. -/
theorem givesBack {moment : Moment} {work : Work}
    (before : ∀ work, moment.before.pass ≠ .submitting work)
    (after : moment.after.pass = .submitting work) :
    ∃ endpoint transfer, .submitReceive endpoint transfer ∈ moment.effects := by
  obtain ⟨event, step, tells⟩ := moment.reception_step
  obtain ⟨handle, rfl⟩ := step.givesBack before after
  have member : handle ∈ moment.reposted := by simp [tells.reposted, Reception.Event.submitted?]
  obtain ⟨effect, inEffects, same⟩ := List.mem_filterMap.mp member
  cases effect with
  | submitReceive endpoint transfer => exact ⟨endpoint, transfer, inEffects⟩
  | _ => cases same

/-- What happens aside changes nothing for bringing up, the pass and the teardowns. -/
theorem stand_of_isAside {moment : Moment} (aside : moment.input.isAside = true) :
    moment.after.stand = moment.before.stand := by
  obtain ⟨engine, input⟩ := moment
  cases input with
  | completeReceive transfer =>
      have receives := engine.receives_completeReceive transfer
      have pass := engine.pass_completeReceive transfer
      exact Prod.ext receives.bringUp (Prod.ext pass receives.teardowns)
  | enqueue memory answer frame key queue =>
      obtain ⟨stage, -, same⟩ :=
        Reception.reception_enqueue engine memory answer frame key queue
      exact congrArg (fun reception : Reception =>
        (reception.bringUp, reception.pass, reception.teardowns)) same
  | completeTransmit address transfer =>
      exact congrArg (fun reception : Reception =>
        (reception.bringUp, reception.pass, reception.teardowns))
        (Reception.reception_completeTransmit engine address transfer)
  | finishStatistics =>
      rw [after_finishStatistics, Engine.finishStatistics]
      split <;> rfl
  | startBringUp | proceedBringUp | answerPost | startPass | proceedPass | answerDelivery
  | answerRepost | beginTeardown | finishTeardown => cases aside

end Moment

namespace Bench

/-! ## What tasks are about -/

namespace Task

/-- Goes on with a pass. -/
def isPass : Task → Bool
  | .drive (.proceedPass _) _ _ => true
  | _ => false

/-- Finishes a teardown. -/
def isFinish : Task → Bool
  | .feed .finishTeardown => true
  | _ => false

/-- Gives the verdict on a frame. -/
def isVerdict : Task → Bool
  | .feed (.answerDelivery _) => true
  | _ => false

/-- Gives the answer to a buffer that the pass submitted. -/
def isRepost : Task → Bool
  | .feed (.answerRepost _) => true
  | _ => false

/-- Neither goes on with a pass, nor finishes a teardown, nor answers to a pass. -/
def isPlain (task : Task) : Bool :=
  !(task.isPass || task.isFinish || task.isVerdict || task.isRepost)

theorem isPlain_iff {task : Task} :
    task.isPlain = true ↔ task.isPass = false ∧ task.isFinish = false ∧
      task.isVerdict = false ∧ task.isRepost = false := by
  simp [isPlain, and_assoc]

/-- May stand anywhere on an agenda. -/
def isLoose : Task → Bool
  | .feed (.answerPost _) | .feed (.answerDelivery _) | .feed (.answerRepost _)
  | .feed .finishTeardown => true
  | .feed _ | .drive _ _ _ => false
  | .perform _ _ | .announce _ _ | .conclude _ _ => true

theorem isLoose_conclude (answer : Answer) (nested : Bool) :
    ∀ task ∈ [Task.conclude answer nested], task.isLoose = true := by
  simp [isLoose]

end Task

/-! ## What an act puts on the agenda -/

namespace Machine

theorem isLoose_hookTasks (occasion : Occasion) (call : Nat) (hooks : List Hook) :
    ∀ task ∈ hookTasks occasion call hooks, task.isLoose = true := by
  intro task member
  obtain ⟨hook, -, inHook⟩ := List.mem_flatMap.mp member
  rcases List.mem_cons.mp inHook with rfl | inOperations
  · rfl
  · obtain ⟨operation, -, rfl⟩ := List.mem_map.mp inOperations
    rfl

theorem isLoose_replyTasks (surroundings : Surroundings) (posting : Bool) (effect : Effect) :
    ∀ task ∈ replyTasks surroundings posting effect, task.isLoose = true := by
  cases effect <;> cases posting <;> simp [replyTasks, Task.isLoose]

theorem isLoose_absorb (surroundings : Surroundings) (posting : Bool) (effect : Effect) :
    ∀ task ∈ (absorb surroundings posting effect).2, task.isLoose = true := by
  have replies := isLoose_replyTasks surroundings posting effect
  unfold absorb
  split
  · exact replies
  · exact List.forall_mem_append.mpr ⟨isLoose_hookTasks _ _ _, replies⟩

/-- The answers that an act asks for are among the tasks that it leads to. -/
theorem replyTasks_subset_absorb (surroundings : Surroundings) (posting : Bool)
    (effect : Effect) :
    replyTasks surroundings posting effect ⊆ (absorb surroundings posting effect).2 := by
  unfold absorb
  split
  · exact List.Subset.refl _
  · exact List.subset_append_right _ _

theorem isLoose_absorbAll (surroundings : Surroundings) (posting : Bool)
    (effects : List Effect) :
    ∀ task ∈ (absorbAll surroundings posting effects).2, task.isLoose = true := by
  induction effects generalizing surroundings with
  | nil => simp [absorbAll]
  | cons effect later hypothesis =>
      exact List.forall_mem_append.mpr
        ⟨isLoose_absorb surroundings posting effect, hypothesis _⟩

theorem replyTasks_subset_absorbAll {effects : List Effect} {effect : Effect}
    (member : effect ∈ effects) (surroundings : Surroundings) (posting : Bool) :
    ∃ met, replyTasks met posting effect ⊆ (absorbAll surroundings posting effects).2 := by
  induction effects generalizing surroundings with
  | nil => cases member
  | cons first later hypothesis =>
      rcases List.mem_cons.mp member with rfl | inLater
      · exact ⟨surroundings, fun task inReplies => List.mem_append_left _
          (replyTasks_subset_absorb surroundings posting effect inReplies)⟩
      · obtain ⟨met, subset⟩ := hypothesis inLater (absorb surroundings posting first).1
        exact ⟨met, fun task inReplies => List.mem_append_right _ (subset inReplies)⟩

/-- The tasks that the acts at an input lead to. -/
def entailed (machine : Machine) (input : Input) : List Task :=
  let posting := match input with
    | .proceedBringUp => true
    | _ => false
  (absorbAll machine.surroundings posting (machine.engine.step input).2.1).2

theorem isLoose_entailed (machine : Machine) (input : Input) :
    ∀ task ∈ machine.entailed input, task.isLoose = true :=
  isLoose_absorbAll _ _ _

theorem agenda_feed (machine : Machine) (input : Input) (further : Reply → List Task) :
    (machine.feed input further).agenda =
      (machine.entailed input ++ further (machine.engine.step input).2.2) ++ machine.agenda :=
  rfl

end Machine

/-! ## Agendas whose tasks fit -/

/-- Behind these tasks bringing up goes on only when no teardown waits: no buffers are being
posted, or a pass goes on in front, or the teardowns that wait are finished in front. -/
def CanPost (engine : Engine) (front : List Task) : Prop :=
  engine.bringUp.isPosting = true →
    (∃ task ∈ front, task.isPass = true) ∨
      engine.pass = .idle ∧ engine.teardowns ≤ front.countP Task.isFinish

/-- Behind these tasks the pass goes on only when it has the answer that it awaits. -/
structure CanPass (engine : Engine) (front : List Task) : Prop where
  verdict : ∀ work walker, engine.pass = .delivering work walker →
    ∃ task ∈ front, task.isVerdict = true
  answer : ∀ work, engine.pass = .submitting work → ∃ task ∈ front, task.isRepost = true

/-- A task may stand behind these on the agenda for an engine. -/
def Task.Fits (engine : Engine) (front : List Task) : Task → Prop
  | .drive .proceedBringUp _ _ => CanPost engine front
  | .drive (.proceedPass _) _ _ => CanPass engine front
  | task => task.isLoose = true

variable {engine next : Engine} {task : Task} {front fresh later : List Task}

theorem Task.fits_of_isLoose (loose : task.isLoose = true) : task.Fits engine front := by
  unfold Fits
  split
  · cases loose
  · cases loose
  · exact loose

theorem Task.Fits.imp {behind : List Task} (fits : task.Fits engine front)
    (post : CanPost engine front → CanPost next behind)
    (pass : CanPass engine front → CanPass next behind) : task.Fits next behind := by
  unfold Fits at fits ⊢
  split at fits
  · exact post fits
  · exact pass fits
  · exact fits

namespace CanPost

/-- More may stand in front. -/
theorem append (can : CanPost engine front) (fresh : List Task) :
    CanPost engine (fresh ++ front) := by
  intro posting
  rcases can posting with ⟨task, member, passes⟩ | ⟨idle, enough⟩
  · exact Or.inl ⟨task, List.mem_append_right _ member, passes⟩
  · rw [List.countP_append]
    exact Or.inr ⟨idle, enough.trans (Nat.le_add_left _ _)⟩

/-- A task in front that is neither a pass nor finishes a teardown does not matter. -/
theorem tail (can : CanPost engine (task :: front)) (unpass : task.isPass = false)
    (unfinish : task.isFinish = false) : CanPost engine front := by
  intro posting
  simpa [unpass, unfinish, List.countP_cons] using can posting

/-- The engine has not begun to post, or to tear down. -/
theorem after (can : CanPost engine front)
    (posting : next.bringUp.isPosting = true →
      engine.bringUp.isPosting = true ∧ next.teardowns = engine.teardowns)
    (idle : engine.pass = .idle → next.pass = .idle) : CanPost next front := by
  intro still
  obtain ⟨posts, same⟩ := posting still
  rw [same]
  exact (can posts).imp_right fun ⟨quiet, enough⟩ => ⟨idle quiet, enough⟩

end CanPost

namespace CanPass

/-- More may stand in front. -/
theorem append (can : CanPass engine front) (fresh : List Task) :
    CanPass engine (fresh ++ front) where
  verdict work walker delivering := by
    obtain ⟨task, member, answers⟩ := can.verdict work walker delivering
    exact ⟨task, List.mem_append_right _ member, answers⟩
  answer work submitting := by
    obtain ⟨task, member, answers⟩ := can.answer work submitting
    exact ⟨task, List.mem_append_right _ member, answers⟩

/-- A task in front that answers nothing does not matter. -/
theorem tail (can : CanPass engine (task :: front)) (unjudged : task.isVerdict = false)
    (unanswered : task.isRepost = false) (pass : next.pass = engine.pass) :
    CanPass next front where
  verdict work walker delivering := by
    simpa [unjudged] using can.verdict work walker (pass ▸ delivering)
  answer work submitting := by
    simpa [unanswered] using can.answer work (pass ▸ submitting)

/-- A pass that awaits nothing goes on behind any tasks. -/
theorem of_free (undelivered : ∀ work walker, engine.pass ≠ .delivering work walker)
    (unsubmitted : ∀ work, engine.pass ≠ .submitting work) : CanPass engine front where
  verdict work walker delivering := absurd delivering (undelivered work walker)
  answer work submitting := absurd submitting (unsubmitted work)

theorem of_idle (idle : engine.pass = .idle) : CanPass engine front :=
  of_free (by simp [idle]) (by simp [idle])

/-- A pass that has nothing in front of it, and nothing to do, is over. -/
theorem idle (can : CanPass engine []) {memory : Memory}
    (stuck : engine.proceedPass? memory = none) : engine.pass = .idle := by
  cases place : engine.pass with
  | idle => rfl
  | delivering work walker =>
      obtain ⟨task, member, -⟩ := can.verdict work walker place
      cases member
  | submitting work =>
      obtain ⟨task, member, -⟩ := can.answer work place
      cases member
  | popping | walking | returning => simp [Engine.proceedPass?, place] at stuck

end CanPass

theorem throughout_of_isLoose (loose : ∀ task ∈ fresh, task.isLoose = true) :
    Throughout (Task.Fits engine) fresh := by
  intro past task later split
  exact Task.fits_of_isLoose (loose task (by simp [split]))

/-- A task is done and leaves others in its place. -/
structure Turns (engine next : Engine) (task : Task) (fresh : List Task) : Prop where
  post : ∀ front, CanPost engine (task :: front) → CanPost next (fresh ++ front)
  pass : ∀ front, CanPass engine (task :: front) → CanPass next (fresh ++ front)
  fits : Throughout (Task.Fits next) fresh

namespace Turns

/-- The tasks of the agenda still fit. -/
theorem agenda (turns : Turns engine next task fresh)
    (before : Throughout (Task.Fits engine) (task :: later)) :
    Throughout (Task.Fits next) (fresh ++ later) := by
  rw [Throughout.append_iff]
  refine ⟨turns.fits, ?_⟩
  exact (Throughout.cons_iff.mp before).2.imp fun front task fits =>
    fits.imp (turns.post front) (turns.pass front)

/-- A task that neither goes on with a pass nor finishes a teardown, after which the pass
awaits what it has awaited before, unless the task was the answer to it. -/
theorem of_tail (unpass : task.isPass = false) (unfinish : task.isFinish = false)
    (posting : next.bringUp.isPosting = true →
      engine.bringUp.isPosting = true ∧ next.teardowns = engine.teardowns)
    (idle : engine.pass = .idle → next.pass = .idle)
    (verdict : ∀ work walker, next.pass = .delivering work walker →
      task.isVerdict = false ∧ engine.pass = .delivering work walker)
    (answer : ∀ work, next.pass = .submitting work →
      task.isRepost = false ∧ engine.pass = .submitting work)
    (fits : Throughout (Task.Fits next) fresh) : Turns engine next task fresh where
  post front can := ((can.tail unpass unfinish).after posting idle).append fresh
  pass front can := by
    refine CanPass.append ⟨fun work walker delivering => ?_, fun work submitting => ?_⟩ fresh
    · obtain ⟨unjudged, before⟩ := verdict work walker delivering
      simpa [unjudged] using can.verdict work walker before
    · obtain ⟨unanswered, before⟩ := answer work submitting
      simpa [unanswered] using can.answer work before
  fits := fits

/-- A plain task leaves the pass alone, and does not begin to post. -/
theorem of_plain (plain : task.isPlain = true)
    (posting : next.bringUp.isPosting = true →
      engine.bringUp.isPosting = true ∧ next.teardowns = engine.teardowns)
    (pass : next.pass = engine.pass) (fits : Throughout (Task.Fits next) fresh) :
    Turns engine next task fresh := by
  obtain ⟨unpass, unfinish, unjudged, unanswered⟩ := Task.isPlain_iff.mp plain
  exact of_tail unpass unfinish posting pass.trans
    (fun _ _ delivering => ⟨unjudged, pass ▸ delivering⟩)
    (fun _ submitting => ⟨unanswered, pass ▸ submitting⟩) fits

/-- A plain task leaves bringing up, the pass and the teardowns alone. -/
theorem of_stand (plain : task.isPlain = true) (stand : next.stand = engine.stand)
    (loose : ∀ task ∈ fresh, task.isLoose = true) : Turns engine next task fresh := by
  have bringUp : next.bringUp = engine.bringUp := congrArg Prod.fst stand
  have rest := congrArg Prod.snd stand
  refine of_plain plain (fun posting => ⟨bringUp ▸ posting, congrArg Prod.snd rest⟩)
    (congrArg Prod.fst rest) (throughout_of_isLoose loose)

end Turns

/-! ## Tasks -/

/-- An engine stays as it is, or takes an input at which bringing up does not outrun a
teardown. -/
def Moves (engine next : Engine) : Prop :=
  next = engine ∨ ∃ input, next = (Moment.mk engine input).after ∧
    (Moment.mk engine input).outruns = false

namespace Machine

/-- A machine that was to do a task has done it. -/
structure Does (machine : Machine) (task : Task) (done : Machine) : Prop where
  moves : Moves machine.engine done.engine
  turns : ∃ fresh, done.agenda = fresh ++ machine.agenda ∧
    Turns machine.engine done.engine task fresh

variable {machine done : Machine}

/-- The engine is not reached. -/
theorem Does.of_still (fresh : List Task) (plain : task.isPlain = true)
    (same : done.engine = machine.engine) (agenda : done.agenda = fresh ++ machine.agenda)
    (loose : ∀ other ∈ fresh, other.isLoose = true) : machine.Does task done where
  moves := Or.inl same
  turns := ⟨fresh, agenda, .of_stand plain (congrArg Engine.stand same) loose⟩

/-- What is around the engine does not matter. -/
theorem Does.of_surroundings {surroundings : Surroundings}
    (does : Does { machine with surroundings := surroundings } task done) :
    machine.Does task done :=
  ⟨does.moves, does.turns⟩

/-- The engine takes an input. -/
theorem Does.of_feed (input : Input) (further : Reply → List Task)
    (behind : (Moment.mk machine.engine input).outruns = false)
    (turns : Turns machine.engine (Moment.mk machine.engine input).after task
      (machine.entailed input ++ further (machine.engine.step input).2.2)) :
    machine.Does task (machine.feed input further) where
  moves := Or.inr ⟨input, rfl, behind⟩
  turns := ⟨_, machine.agenda_feed input further, turns⟩

theorem isLoose_feed {input : Input} {further : Reply → List Task}
    (loose : ∀ reply, ∀ other ∈ further reply, other.isLoose = true) :
    ∀ other ∈ machine.entailed input ++ further (machine.engine.step input).2.2,
      other.isLoose = true :=
  List.forall_mem_append.mpr ⟨machine.isLoose_entailed input, loose _⟩

theorem Does.of_aside (input : Input) (further : Reply → List Task)
    (aside : input.isAside = true) (plain : task.isPlain = true)
    (loose : ∀ reply, ∀ other ∈ further reply, other.isLoose = true) :
    machine.Does task (machine.feed input further) := by
  refine .of_feed input further ?_ (.of_stand plain ?_ (isLoose_feed loose))
  · cases input <;> first | rfl | cases aside
  · exact Moment.stand_of_isAside aside

/-- Bringing up begins. -/
theorem does_bringUp (sound : machine.engine.Sound) (nested : Bool) :
    machine.Does (.perform .bringUp nested) (machine.perform .bringUp nested) := by
  simp only [perform]
  refine .of_feed (.startBringUp machine.supply) _ rfl ?_
  by_cases created : machine.engine.device.stage = .created
  · have stand := Engine.stand_of_created sound created
    have pass : (Moment.mk machine.engine (.startBringUp machine.supply)).after.pass = .idle :=
      (Moment.keepsRecords rfl).pass.trans (congrArg (·.2.1) stand)
    have post : ∀ front,
        CanPost (Moment.mk machine.engine (.startBringUp machine.supply)).after front := by
      intro front posting
      have none := Engine.teardowns_startBringUp sound created posting
      exact Or.inr ⟨pass, none.trans_le (Nat.zero_le _)⟩
    refine ⟨fun _ _ => post _, fun _ _ => .of_idle pass, ?_⟩
    · rw [Throughout.append_iff]
      refine ⟨throughout_of_isLoose (machine.isLoose_entailed _), ?_⟩
      split
      · exact Throughout.singleton_iff.mpr (Task.fits_of_isLoose rfl)
      · exact Throughout.singleton_iff.mpr (post _)
  · have refused : machine.engine.startBringUp machine.supply =
        (machine.engine, [], some (.error .notReady)) := if_pos created
    have reply : (machine.engine.step (.startBringUp machine.supply)).2.2 =
        .over (.error (.failure .notReady)) := by
      simp only [Engine.step, refused, Engine.ofBringUpStep]
      rfl
    refine .of_stand rfl ?_ ?_
    · rw [Moment.after_startBringUp, refused]
    · rw [reply]
      exact List.forall_mem_append.mpr ⟨machine.isLoose_entailed _, Task.isLoose_conclude _ _⟩

/-- A teardown begins, and is to be finished first of all. -/
theorem does_tearDown (machine : Machine) (operation : Operation) (nested : Bool) :
    machine.Does (.perform operation nested)
      (machine.feed .beginTeardown fun _ =>
        [.feed .finishTeardown, .conclude .nothing nested]) := by
  refine .of_feed .beginTeardown _ rfl ⟨?_, ?_, ?_⟩
  · intro front can posting
    rcases can.tail rfl rfl posting with ⟨other, inFront, passes⟩ | ⟨idle, enough⟩
    · exact Or.inl ⟨other, List.mem_append_right _ inFront, passes⟩
    · refine Or.inr ⟨idle, ?_⟩
      have one : (Moment.mk machine.engine .beginTeardown).after.teardowns =
          machine.engine.teardowns + 1 := rfl
      rw [one, List.countP_append, List.countP_append]
      show _ ≤ _ + 1 + _
      omega
  · intro front can
    have same : (Moment.mk machine.engine .beginTeardown).after.pass = machine.engine.pass := rfl
    exact (can.tail rfl rfl same).append _
  · exact throughout_of_isLoose
      (List.forall_mem_append.mpr ⟨machine.isLoose_entailed _, by simp [Task.isLoose]⟩)

/-- A pass begins, if it can. -/
theorem does_runPass (machine : Machine) (nested : Bool) :
    machine.Does (.perform .runPass nested) (machine.perform .runPass nested) := by
  simp only [perform]
  refine .of_feed .startPass _ rfl ?_
  cases entered : machine.engine.deferred.enter? with
  | none =>
      have refused : machine.engine.startPass = (false, machine.engine) := by
        simp only [Engine.startPass, entered]
      have reply : (machine.engine.step .startPass).2.2 = .started false := by
        simp only [Engine.step, refused]
      refine .of_stand rfl ?_ ?_
      · rw [Moment.after_startPass, refused]
      · rw [reply]
        exact List.forall_mem_append.mpr ⟨machine.isLoose_entailed _, Task.isLoose_conclude _ _⟩
  | some deferred =>
      have started : machine.engine.startPass =
          (true, { machine.engine with deferred := deferred, pass := .popping }) := by
        simp only [Engine.startPass, entered]
      have reply : (machine.engine.step .startPass).2.2 = .started true := by
        simp only [Engine.step, started]
      have free : ∀ front, CanPass (Moment.mk machine.engine .startPass).after front := by
        rw [Moment.after_startPass, started]
        exact fun front => .of_free (by simp) (by simp)
      rw [reply]
      refine ⟨?_, fun _ _ => free _, ?_⟩
      · exact fun front _ _ => Or.inl ⟨.drive (.proceedPass machine.memory) (.flag true) nested,
          by simp, rfl⟩
      · rw [Throughout.append_iff]
        exact ⟨throughout_of_isLoose (machine.isLoose_entailed _),
          Throughout.singleton_iff.mpr (free _)⟩

theorem does_perform (sound : machine.engine.Sound) (operation : Operation) (nested : Bool) :
    machine.Does (.perform operation nested) (machine.perform operation nested) := by
  have concluded : ∀ {done : Machine} (answer : Answer), done.engine = machine.engine →
      done.agenda = .conclude answer nested :: machine.agenda →
      machine.Does (.perform operation nested) done := fun answer same agenda =>
    .of_still [.conclude answer nested] rfl same agenda (Task.isLoose_conclude _ _)
  have aside : ∀ {met : Machine} (input : Input) (further : Reply → List Task),
      input.isAside = true →
      (∀ reply, ∀ other ∈ further reply, other.isLoose = true) →
      met.Does (.perform operation nested) (met.feed input further) :=
    fun input further aside loose => .of_aside input further aside rfl loose
  cases operation with
  | bringUp => exact does_bringUp sound nested
  | tearDown | tearDownMeanwhile => exact machine.does_tearDown _ nested
  | runPass => exact machine.does_runPass nested
  | finishStatistics =>
      exact .of_aside .finishStatistics _ rfl rfl fun _ => Task.isLoose_conclude _ _
  | config | occupancy | refuseReceive | refuseTransmit | reject | limitMemory =>
      exact concluded _ rfl rfl
  | receive nth octets length status =>
      simp only [perform]
      split
      · exact concluded _ rfl rfl
      · exact .of_surroundings (aside (.completeReceive _) _ rfl fun _ => Task.isLoose_conclude _ _)
  | loseReceive nth =>
      simp only [perform]
      split <;> exact concluded _ rfl rfl
  | forgeReceive handle size octets length status =>
      exact aside (.completeReceive _) _ rfl fun _ => Task.isLoose_conclude _ _
  | send octets queue key hardwareQueue =>
      simp only [perform]
      refine aside (.enqueue _ _ _ _ _) _ rfl fun reply => ?_
      split <;> exact Task.isLoose_conclude _ _
  | sent nth status endpoint =>
      simp only [perform]
      split
      · exact concluded _ rfl rfl
      · exact .of_surroundings
          (aside (.completeTransmit _ _) _ rfl fun _ => Task.isLoose_conclude _ _)
  | forgeSent endpoint handle octets queue wrapped status =>
      exact aside (.completeTransmit _ _) _ rfl fun _ => Task.isLoose_conclude _ _

/-- The engine takes an answer, and nothing is to be done about its reply. -/
theorem Does.of_answer {input : Input}
    (behind : (Moment.mk machine.engine input).outruns = false)
    (turns : ∀ fresh, Throughout (Task.Fits (Moment.mk machine.engine input).after) fresh →
      Turns machine.engine (Moment.mk machine.engine input).after task fresh) :
    machine.Does task (machine.feed input fun _ => []) := by
  refine .of_feed input _ behind (turns _ (throughout_of_isLoose ?_))
  rw [List.append_nil]
  exact machine.isLoose_entailed input

theorem does_answerPost (machine : Machine) (refusal : Option Refusal) :
    machine.Does (.feed (.answerPost refusal)) (machine.feed (.answerPost refusal) fun _ => []) :=
  .of_answer rfl fun _ fits =>
    .of_plain rfl Engine.isPosting_answerPost (Moment.keepsRecords rfl).pass fits

theorem does_answerDelivery (machine : Machine) (accepted : Bool) :
    machine.Does (.feed (.answerDelivery accepted))
      (machine.feed (.answerDelivery accepted) fun _ => []) := by
  refine .of_answer rfl fun fresh fits => ?_
  have posting := (machine.engine.receives_answerDelivery accepted).posting
  rw [Moment.after_answerDelivery] at fits ⊢
  rcases machine.engine.pass_answerDelivery accepted with
    ⟨work, walker, before, after⟩ | ⟨undelivered, same⟩
  · exact .of_tail rfl rfl posting (by simp [before]) (by simp [after]) (by simp [after]) fits
  · exact .of_tail rfl rfl posting (by simp [same])
      (fun work walker delivering => absurd (same ▸ delivering) (undelivered work walker))
      (fun work submitting => ⟨rfl, same ▸ submitting⟩) fits

theorem does_answerRepost (machine : Machine) (refusal : Option Refusal) :
    machine.Does (.feed (.answerRepost refusal))
      (machine.feed (.answerRepost refusal) fun _ => []) := by
  refine .of_answer rfl fun fresh fits => ?_
  have posting := (machine.engine.receives_answerRepost refusal).posting
  rw [Moment.after_answerRepost] at fits ⊢
  rcases machine.engine.pass_answerRepost refusal with
    ⟨work, before, after⟩ | ⟨unsubmitted, same⟩
  · exact .of_tail rfl rfl posting (by simp [before]) (by simp [after]) (by simp [after]) fits
  · exact .of_tail rfl rfl posting (by simp [same])
      (fun work walker delivering => ⟨rfl, same ▸ delivering⟩)
      (fun work submitting => absurd (same ▸ submitting) (unsubmitted work)) fits

/-- A teardown that waits is finished, unless a pass goes on. -/
theorem does_finishTeardown (sound : machine.engine.Sound) :
    machine.Does (.feed .finishTeardown) (machine.feed .finishTeardown fun _ => []) := by
  refine .of_answer rfl fun fresh fits => ?_
  have pass : (Moment.mk machine.engine .finishTeardown).after.pass = machine.engine.pass :=
    (Moment.keepsRecords rfl).pass
  refine ⟨fun front can posting => ?_, fun front can => (can.tail rfl rfl pass).append fresh, fits⟩
  rw [Moment.after_finishTeardown] at posting pass ⊢
  rcases can (machine.engine.bringUp_finishTeardown ▸ posting) with
    ⟨other, member, passes⟩ | ⟨idle, enough⟩
  · rcases List.mem_cons.mp member with rfl | inFront
    · cases passes
    · exact Or.inl ⟨other, List.mem_append_right _ inFront, passes⟩
  · refine Or.inr ⟨pass.trans idle, ?_⟩
    have one : (Task.feed .finishTeardown :: front).countP Task.isFinish =
        front.countP Task.isFinish + 1 := List.countP_cons_of_pos rfl
    rw [Engine.teardowns_finishTeardown sound idle, List.countP_append]
    omega

/-- The tasks of an activity that is over, with the teardowns that waited for it. -/
theorem isLoose_waitingTeardowns (machine : Machine) (answer : Answer) (nested : Bool) :
    ∀ task ∈ .conclude answer nested :: machine.waitingTeardowns, task.isLoose = true := by
  intro task member
  rcases List.mem_cons.mp member with rfl | waiting
  · rfl
  · rw [List.eq_of_mem_replicate waiting]
    rfl

/-- Bringing up goes on. -/
theorem does_driveBringUp (can : CanPost machine.engine []) (whenIdle : Answer) (nested : Bool) :
    machine.Does (.drive .proceedBringUp whenIdle nested)
      (machine.feed .proceedBringUp fun
        | .over result => [.conclude (.result result) nested]
        | .inapplicable => .conclude whenIdle nested :: machine.waitingTeardowns
        | .done | .started _ => [.drive .proceedBringUp whenIdle nested]) := by
  have behind : (Moment.mk machine.engine .proceedBringUp).outruns = false := by
    cases posting : machine.engine.bringUp.isPosting with
    | false => simp [Moment.outruns, posting]
    | true =>
        rcases can posting with ⟨other, member, -⟩ | ⟨-, none⟩
        · cases member
        · simpa [Moment.outruns, posting] using none
  have pass : (Moment.mk machine.engine .proceedBringUp).after.pass = machine.engine.pass :=
    (Moment.keepsRecords rfl).pass
  have posting :
      (Moment.mk machine.engine .proceedBringUp).after.bringUp.isPosting = true →
        machine.engine.bringUp.isPosting = true ∧
          (Moment.mk machine.engine .proceedBringUp).after.teardowns =
            machine.engine.teardowns := by
    rw [Moment.after_proceedBringUp]
    cases proceeds : machine.engine.proceedBringUp? with
    | none => exact fun posting => ⟨posting, rfl⟩
    | some step => exact Engine.isPosting_proceedBringUp? proceeds
  have again := (can.after posting pass.trans).append (machine.entailed .proceedBringUp)
  rw [List.append_nil] at again
  refine .of_feed _ _ behind (.of_plain rfl posting pass ?_)
  split
  · exact throughout_of_isLoose
      (List.forall_mem_append.mpr ⟨machine.isLoose_entailed _, Task.isLoose_conclude _ _⟩)
  · exact throughout_of_isLoose (List.forall_mem_append.mpr
      ⟨machine.isLoose_entailed _, machine.isLoose_waitingTeardowns _ _⟩)
  all_goals
    rw [Throughout.concat_iff]
    exact ⟨throughout_of_isLoose (machine.isLoose_entailed _), again⟩

/-- A pass that is over leaves the teardowns that waited for it to be finished. -/
theorem does_drivePass_idle (idle : machine.engine.pass = .idle) (memory : Memory)
    (whenIdle : Answer) (nested : Bool) :
    machine.Does (.drive (.proceedPass memory) whenIdle nested)
      (machine.feed (.proceedPass memory) fun
        | .over result => [.conclude (.result result) nested]
        | .inapplicable => .conclude whenIdle nested :: machine.waitingTeardowns
        | .done | .started _ => [.drive (.proceedPass memory) whenIdle nested]) := by
  have stuck : machine.engine.proceedPass? memory = none := by
    simp only [Engine.proceedPass?, idle]
  have step : machine.engine.step (.proceedPass memory) =
      (machine.engine, [], .inapplicable) := by
    simp only [Engine.step, stuck]
    rfl
  refine .of_feed _ _ rfl ?_
  rw [Moment.after_proceedPass, stuck, step]
  refine ⟨fun front _ _ => Or.inr ⟨idle, ?_⟩, fun _ _ => .of_idle idle,
    throughout_of_isLoose (List.forall_mem_append.mpr
      ⟨machine.isLoose_entailed _, machine.isLoose_waitingTeardowns _ _⟩)⟩
  have all : machine.waitingTeardowns.countP Task.isFinish = machine.engine.teardowns := by
    rw [waitingTeardowns, List.countP_replicate]
    rfl
  have concluded : (Task.conclude whenIdle nested :: machine.waitingTeardowns).countP
      Task.isFinish = machine.engine.teardowns :=
    (List.countP_cons_of_neg (by simp [Task.isFinish])).trans all
  rw [List.countP_append, List.countP_append, concluded]
  show machine.engine.teardowns ≤ _
  omega

/-- A pass goes on that awaits nothing. -/
theorem does_drivePass {memory : Memory} {step : Engine × List Effect}
    (can : CanPass machine.engine [])
    (proceeds : machine.engine.proceedPass? memory = some step) (whenIdle : Answer)
    (nested : Bool) :
    machine.Does (.drive (.proceedPass memory) whenIdle nested)
      (machine.feed (.proceedPass memory) fun
        | .over result => [.conclude (.result result) nested]
        | .inapplicable => .conclude whenIdle nested :: machine.waitingTeardowns
        | .done | .started _ => [.drive (.proceedPass memory) whenIdle nested]) := by
  have reply : (machine.engine.step (.proceedPass memory)).2.2 = .done := by
    simp only [Engine.step, proceeds]
    rfl
  -- the answer to an act that asks for one stands among the tasks that the act leads to
  have asks : ∀ effect ∈ (Moment.mk machine.engine (.proceedPass memory)).effects,
      ∃ met, replyTasks met false effect ⊆ machine.entailed (.proceedPass memory) :=
    fun _ member => replyTasks_subset_absorbAll member machine.surroundings false
  have ready : ∀ behind, CanPass (Moment.mk machine.engine (.proceedPass memory)).after
      (machine.entailed (.proceedPass memory) ++ behind) := by
    refine fun behind => ⟨fun work walker delivering => ?_, fun work submitting => ?_⟩
    · obtain ⟨frame, descriptor, member⟩ := Moment.delivers (fun work walker before => by
        obtain ⟨other, member, -⟩ := can.verdict work walker before
        cases member) delivering
      obtain ⟨met, subset⟩ := asks _ member
      exact ⟨.feed (.answerDelivery (met.accepts frame)),
        List.mem_append_left _ (subset (List.mem_singleton_self _)), rfl⟩
    · obtain ⟨endpoint, transfer, member⟩ := Moment.givesBack (fun work before => by
        obtain ⟨other, member, -⟩ := can.answer work before
        cases member) submitting
      obtain ⟨met, subset⟩ := asks _ member
      exact ⟨.feed (.answerRepost (met.answerReceive transfer)),
        List.mem_append_left _ (subset (List.mem_singleton_self _)), rfl⟩
  refine .of_feed _ _ rfl ?_
  rw [reply]
  refine ⟨fun front _ _ => Or.inl ⟨.drive (.proceedPass memory) whenIdle nested, by simp, rfl⟩,
    fun front _ => ?_, ?_⟩
  · rw [List.append_assoc]
    exact ready _
  · rw [Throughout.concat_iff]
    have free := ready []
    rw [List.append_nil] at free
    exact ⟨throughout_of_isLoose (machine.isLoose_entailed _), free⟩

/-- An agenda for an engine that is sound, all of whose tasks fit. -/
structure Fits (machine : Machine) : Prop where
  sound : machine.engine.Sound
  agenda : Throughout (Task.Fits machine.engine) machine.agenda

/-- A task that is done leaves an agenda whose tasks fit. -/
theorem Does.fits (does : machine.Does task done) (sound : machine.engine.Sound)
    (before : Throughout (Task.Fits machine.engine) (task :: machine.agenda)) : done.Fits where
  sound := by
    rcases does.moves with same | ⟨input, same, -⟩
    · exact same ▸ sound
    · exact same ▸ sound.after
  agenda := by
    obtain ⟨fresh, agenda, turns⟩ := does.turns
    rw [agenda]
    exact turns.agenda before

/-- A task at the front of the agenda is done, if it fits there. -/
theorem does_of_step? {next : Machine} (sound : machine.engine.Sound)
    (first : task.Fits machine.engine [])
    (step : { machine with agenda := task :: machine.agenda }.step? = some next) :
    machine.Does task next := by
  simp only [step?, Option.some.injEq] at step
  subst step
  cases task with
  | perform operation nested => exact does_perform sound operation nested
  | announce occasion call => exact .of_still [] rfl rfl rfl (by simp)
  | conclude answer nested => cases nested <;> exact .of_still [] rfl rfl rfl (by simp)
  | feed input =>
      cases input with
      | answerPost refusal => exact does_answerPost _ refusal
      | answerDelivery accepted => exact does_answerDelivery _ accepted
      | answerRepost refusal => exact does_answerRepost _ refusal
      | finishTeardown => exact does_finishTeardown sound
      | startBringUp | proceedBringUp | completeReceive | startPass | proceedPass | enqueue
      | completeTransmit | finishStatistics | beginTeardown => cases first
  | drive input whenIdle nested =>
      cases input with
      | proceedBringUp => exact does_driveBringUp first whenIdle nested
      | proceedPass memory =>
          cases proceeds : machine.engine.proceedPass? memory with
          | some step => exact does_drivePass first proceeds whenIdle nested
          | none => exact does_drivePass_idle (first.idle proceeds) memory whenIdle nested
      | startBringUp | answerPost | completeReceive | startPass | answerDelivery | answerRepost
      | enqueue | completeTransmit | finishStatistics | beginTeardown | finishTeardown =>
          cases first

/-- **Every task leaves an agenda whose tasks fit**, and bringing up does not outrun a
teardown. -/
theorem Fits.step {next : Machine} (fits : machine.Fits) (step : machine.step? = some next) :
    next.Fits ∧ Moves machine.engine next.engine := by
  obtain ⟨engine, surroundings, memoryLimit, agenda, answer⟩ := machine
  cases agenda with
  | nil => cases step
  | cons task later =>
      have first := (Throughout.cons_iff.mp fits.agenda).1
      have does : Does ⟨engine, surroundings, memoryLimit, later, answer⟩ task next :=
        does_of_step? fits.sound first step
      exact ⟨does.fits fits.sound fits.agenda, does.moves⟩

end Machine

/-! ## Runs -/

/-- An engine comes to be another by a run in which bringing up never outruns a
teardown. -/
def Reaches (engine final : Engine) : Prop :=
  ∃ inputs, final = (engine.run inputs).1 ∧
    ∀ moment ∈ engine.history inputs, moment.outruns = false

namespace Reaches

variable {final : Engine}

theorem refl (engine : Engine) : Reaches engine engine :=
  ⟨[], rfl, by simp⟩

theorem trans (first : Reaches engine next) (second : Reaches next final) :
    Reaches engine final := by
  obtain ⟨before, rfl, early⟩ := first
  obtain ⟨after, rfl, late⟩ := second
  refine ⟨before ++ after, by rw [Engine.run_append], ?_⟩
  rw [Engine.history_append]
  exact List.forall_mem_append.mpr ⟨early, late⟩

theorem of_moves (moves : Moves engine next) : Reaches engine next := by
  rcases moves with rfl | ⟨input, rfl, behind⟩
  · exact .refl _
  · exact ⟨[input], rfl, by simpa [Engine.history] using behind⟩

end Reaches

namespace Machine

variable {machine : Machine}

/-- Tasks are done in a run in which bringing up never outruns a teardown. -/
theorem Fits.settle (fits : machine.Fits) (bound : Nat) :
    (machine.settle bound).engine.Sound ∧
      Reaches machine.engine (machine.settle bound).engine := by
  induction bound generalizing machine with
  | zero => exact ⟨fits.sound, .refl _⟩
  | succ bound hypothesis =>
      rw [Machine.settle]
      cases step : machine.step? with
      | none => exact ⟨fits.sound, .refl _⟩
      | some next =>
          obtain ⟨fitsNext, moves⟩ := fits.step step
          obtain ⟨sound, reaches⟩ := hypothesis fitsNext
          exact ⟨sound, (Reaches.of_moves moves).trans reaches⟩

/-- An operation, with all that is performed in its calls, is such a run. -/
theorem reaches_runOperation (sound : machine.engine.Sound) (operation : Operation) :
    (machine.runOperation operation).2.engine.Sound ∧
      Reaches machine.engine (machine.runOperation operation).2.engine := by
  have begun : Fits { machine with agenda := [.perform operation false] } :=
    ⟨sound, Throughout.singleton_iff.mpr (Task.fits_of_isLoose rfl)⟩
  exact begun.settle _

/-- **Whatever operations do to the engine of a bench is a run of it in which bringing up
never outruns a teardown.** -/
theorem reaches_operations (config : Config) (surroundings : Surroundings)
    (operations : List Operation) :
    let machine : Machine := { engine := .fresh config, surroundings := surroundings }
    Reaches machine.engine (operations.foldl
      (fun machine operation => (machine.runOperation operation).2) machine).engine := by
  intro machine
  have sound : machine.engine.Sound := Engine.sound_fresh config
  generalize machine = machine at sound ⊢
  induction operations generalizing machine with
  | nil => exact .refl _
  | cons operation later hypothesis =>
      obtain ⟨next, reaches⟩ := reaches_runOperation sound operation
      exact reaches.trans (hypothesis _ next)

end Machine

end Bench

end WlanDatapath
