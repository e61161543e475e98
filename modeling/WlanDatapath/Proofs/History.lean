import Mathlib.Data.List.Induction
import WlanDatapath.Engine.Step

/-!
# The history of a run

A run leaves a history: for each input, in order, the engine that took it.
What a step answered and where it led are functions of that `Moment`, so every
observation of a run is a function of its history.

Properties of a run are proved one moment at a time.  `History.invariant` says
once how: a property of an engine and its history that holds at the beginning
and is kept by every moment holds after every run.
-/

namespace WlanDatapath

/-! ## Conditions on every place of a list -/

/-- A condition holds of every element of a list and of those before it. -/
def Throughout {Item : Type} (condition : List Item → Item → Prop) (items : List Item) : Prop :=
  ∀ past item later, items = past ++ item :: later → condition past item

namespace Throughout

variable {Item : Type} {condition : List Item → Item → Prop}

@[simp]
theorem nil : Throughout condition [] := by
  intro past item later split
  simp at split

/-- A longer list adds the conditions of the places behind the shorter one. -/
theorem append_iff {front back : List Item} :
    Throughout condition (front ++ back) ↔
      Throughout condition front ∧
        Throughout (fun past item => condition (front ++ past) item) back := by
  constructor
  · intro whole
    constructor
    · rintro past item later rfl
      exact whole past item (later ++ back) (by simp)
    · rintro past item later rfl
      exact whole (front ++ past) item later (by simp)
  · rintro ⟨early, late⟩ past item later split
    rcases List.append_eq_append_iff.mp split with
      ⟨middle, rfl, rest⟩ | ⟨middle, rfl, rest⟩
    · exact late middle item later rest
    · cases middle with
      | nil =>
          simpa using late [] item later (by simpa using rest.symm)
      | cons head tail =>
          rw [List.cons_append, List.cons.injEq] at rest
          obtain ⟨rfl, rfl⟩ := rest
          exact early past item tail rfl

@[simp]
theorem singleton_iff {item : Item} : Throughout condition [item] ↔ condition [] item := by
  constructor
  · intro whole
    exact whole [] item [] rfl
  · intro holds past other later split
    rcases List.singleton_eq_append_iff.mp split with ⟨rfl, rest⟩ | ⟨-, impossible⟩
    · rw [List.cons.injEq] at rest
      obtain ⟨rfl, -⟩ := rest
      exact holds
    · simp at impossible

/-- One more element adds one condition. -/
theorem concat_iff {items : List Item} {item : Item} :
    Throughout condition (items ++ [item]) ↔
      Throughout condition items ∧ condition items item := by
  rw [append_iff, singleton_iff, List.append_nil]

theorem cons_iff {items : List Item} {item : Item} :
    Throughout condition (item :: items) ↔
      condition [] item ∧ Throughout (fun past other => condition (item :: past) other) items := by
  rw [← List.singleton_append, append_iff, singleton_iff]
  rfl

/-- A condition that can be decided at every place can be decided throughout. -/
instance decidable (condition : List Item → Item → Prop)
    [decides : ∀ past item, Decidable (condition past item)] :
    ∀ items, Decidable (Throughout condition items)
  | [] => .isTrue nil
  | item :: items =>
      have : Decidable (Throughout (fun past other => condition (item :: past) other) items) :=
        decidable _ items
      decidable_of_iff _ cons_iff.symm

/-- A weaker condition holds wherever a stronger one does. -/
theorem imp {weaker : List Item → Item → Prop} {items : List Item}
    (whole : Throughout condition items)
    (implies : ∀ past item, condition past item → weaker past item) :
    Throughout weaker items := by
  intro past item later split
  exact implies past item (whole past item later split)

/-- A condition that more elements before do not break holds throughout a list
of lists if it does in each of them. -/
theorem flatMap {Source : Type} {spread : Source → List Item}
    (monotone : ∀ earlier past item, condition past item → condition (earlier ++ past) item)
    (sources : List Source) (each : ∀ source ∈ sources, Throughout condition (spread source)) :
    Throughout condition (sources.flatMap spread) := by
  induction sources with
  | nil => exact nil
  | cons first later hypothesis =>
      rw [List.flatMap_cons, append_iff]
      constructor
      · exact each first (by simp)
      · exact (hypothesis fun source member => each source (by simp [member])).imp
          (monotone (spread first))

end Throughout

/-! ## Moments -/

/-- An engine and the input that it takes. -/
structure Moment where
  /-- The engine before the input. -/
  before : Engine
  /-- The input. -/
  input : Input

namespace Moment

/-- The engine after the input. -/
def after (moment : Moment) : Engine :=
  (moment.before.step moment.input).1

/-- The acts of the engine at the input. -/
def effects (moment : Moment) : List Effect :=
  (moment.before.step moment.input).2.1

/-- The reply to the input. -/
def reply (moment : Moment) : Reply :=
  (moment.before.step moment.input).2.2

end Moment

/-! ## What each input leads to -/

namespace Engine

theorem fst_unlessStuck (engine : Engine) (step : Option (Engine × List Effect)) :
    (engine.unlessStuck step).1 = (step.getD (engine, [])).1 := by
  cases step <;> rfl

theorem effects_unlessStuck (engine : Engine) (step : Option (Engine × List Effect)) :
    (engine.unlessStuck step).2.1 = (step.getD (engine, [])).2 := by
  cases step <;> rfl

end Engine

namespace Moment

variable (engine : Engine)

@[simp]
theorem after_startBringUp (supply : Supply) :
    (mk engine (.startBringUp supply)).after = (engine.startBringUp supply).1 := rfl

@[simp]
theorem effects_startBringUp (supply : Supply) :
    (mk engine (.startBringUp supply)).effects = (engine.startBringUp supply).2.1 := rfl

@[simp]
theorem after_proceedBringUp :
    (mk engine .proceedBringUp).after =
      (engine.proceedBringUp?.getD (engine, [], none)).1 := by
  unfold after Engine.step
  cases engine.proceedBringUp? <;> rfl

@[simp]
theorem effects_proceedBringUp :
    (mk engine .proceedBringUp).effects =
      (engine.proceedBringUp?.getD (engine, [], none)).2.1 := by
  unfold effects Engine.step
  cases engine.proceedBringUp? <;> rfl

@[simp]
theorem after_answerPost (refusal : Option Refusal) :
    (mk engine (.answerPost refusal)).after = (engine.answerPost refusal).1 := rfl

@[simp]
theorem effects_answerPost (refusal : Option Refusal) :
    (mk engine (.answerPost refusal)).effects = (engine.answerPost refusal).2 := rfl

@[simp]
theorem after_completeReceive (transfer : Transfer Buffer) :
    (mk engine (.completeReceive transfer)).after = (engine.completeReceive transfer).1 := rfl

@[simp]
theorem effects_completeReceive (transfer : Transfer Buffer) :
    (mk engine (.completeReceive transfer)).effects = (engine.completeReceive transfer).2 := rfl

@[simp]
theorem after_startPass : (mk engine .startPass).after = engine.startPass.2 := rfl

@[simp]
theorem effects_startPass : (mk engine .startPass).effects = [] := rfl

@[simp]
theorem after_proceedPass (memory : Memory) :
    (mk engine (.proceedPass memory)).after =
      ((engine.proceedPass? memory).getD (engine, [])).1 :=
  engine.fst_unlessStuck _

@[simp]
theorem effects_proceedPass (memory : Memory) :
    (mk engine (.proceedPass memory)).effects =
      ((engine.proceedPass? memory).getD (engine, [])).2 :=
  engine.effects_unlessStuck _

@[simp]
theorem after_answerDelivery (accepted : Bool) :
    (mk engine (.answerDelivery accepted)).after = engine.answerDelivery accepted := rfl

@[simp]
theorem effects_answerDelivery (accepted : Bool) :
    (mk engine (.answerDelivery accepted)).effects = [] := rfl

@[simp]
theorem after_answerRepost (refusal : Option Refusal) :
    (mk engine (.answerRepost refusal)).after = (engine.answerRepost refusal).1 := rfl

@[simp]
theorem effects_answerRepost (refusal : Option Refusal) :
    (mk engine (.answerRepost refusal)).effects = (engine.answerRepost refusal).2 := rfl

@[simp]
theorem after_enqueue (memory : Memory) (answer : Transfer Outgoing → Option Refusal)
    (frame : Outgoing) (key queue : UInt8) :
    (mk engine (.enqueue memory answer frame key queue)).after =
      (engine.enqueue memory answer frame key queue).1 := rfl

@[simp]
theorem effects_enqueue (memory : Memory) (answer : Transfer Outgoing → Option Refusal)
    (frame : Outgoing) (key queue : UInt8) :
    (mk engine (.enqueue memory answer frame key queue)).effects =
      (engine.enqueue memory answer frame key queue).2.1 := rfl

@[simp]
theorem after_completeTransmit (address : UInt8) (transfer : Transfer Outgoing) :
    (mk engine (.completeTransmit address transfer)).after =
      (engine.completeTransmit address transfer).1 := rfl

@[simp]
theorem effects_completeTransmit (address : UInt8) (transfer : Transfer Outgoing) :
    (mk engine (.completeTransmit address transfer)).effects =
      (engine.completeTransmit address transfer).2 := rfl

@[simp]
theorem after_finishStatistics :
    (mk engine .finishStatistics).after = engine.finishStatistics.1 := rfl

@[simp]
theorem effects_finishStatistics :
    (mk engine .finishStatistics).effects = engine.finishStatistics.2 := rfl

@[simp]
theorem after_beginTeardown : (mk engine .beginTeardown).after = engine.beginTeardown.1 := rfl

@[simp]
theorem effects_beginTeardown :
    (mk engine .beginTeardown).effects = engine.beginTeardown.2 := rfl

@[simp]
theorem after_finishTeardown :
    (mk engine .finishTeardown).after = (engine.finishTeardown?.getD (engine, [])).1 :=
  engine.fst_unlessStuck _

@[simp]
theorem effects_finishTeardown :
    (mk engine .finishTeardown).effects = (engine.finishTeardown?.getD (engine, [])).2 :=
  engine.effects_unlessStuck _

end Moment

/-- The moments of a run, in order. -/
abbrev History := List Moment

namespace Engine

/-- An engine that was just made. -/
def fresh (config : Config) : Engine where
  config := config

/-- The history of a run. -/
def history (engine : Engine) : List Input → History
  | [] => []
  | input :: later => ⟨engine, input⟩ :: (engine.step input).1.history later

@[simp]
theorem history_nil (engine : Engine) : engine.history [] = [] := rfl

/-- A history in two parts. -/
theorem history_append (engine : Engine) (before after : List Input) :
    engine.history (before ++ after) =
      engine.history before ++ (engine.run before).1.history after := by
  induction before generalizing engine with
  | nil => rfl
  | cons input later hypothesis =>
      simp only [List.cons_append, history, hypothesis, run_cons]

/-- One more input adds one moment. -/
theorem history_concat (engine : Engine) (inputs : List Input) (input : Input) :
    engine.history (inputs ++ [input]) =
      engine.history inputs ++ [⟨(engine.run inputs).1, input⟩] := by
  rw [history_append]
  rfl

/-- One input of several is the moment between those before it and those behind. -/
theorem history_append_cons (engine : Engine) (before : List Input) (input : Input)
    (after : List Input) :
    engine.history (before ++ input :: after) =
      engine.history before ++ ⟨(engine.run before).1, input⟩ ::
        (Moment.mk (engine.run before).1 input).after.history after :=
  history_append engine before (input :: after)

/-- The engine after one more input. -/
theorem run_concat (engine : Engine) (inputs : List Input) (input : Input) :
    (engine.run (inputs ++ [input])).1 =
      (Moment.mk (engine.run inputs).1 input).after := by
  rw [run_append]
  rfl

/-- A moment of a run stands behind the inputs of the moments before it and is
followed by the run that it leads to. -/
theorem history_eq_append_cons {engine : Engine} {inputs : List Input} {past later : History}
    {moment : Moment} (split : engine.history inputs = past ++ moment :: later) :
    ∃ before input after, inputs = before ++ input :: after ∧ past = engine.history before ∧
      moment = ⟨(engine.run before).1, input⟩ ∧ later = moment.after.history after := by
  induction past generalizing engine inputs with
  | nil =>
      cases inputs with
      | nil => contradiction
      | cons input after =>
          rw [history, List.nil_append, List.cons.injEq] at split
          obtain ⟨rfl, rfl⟩ := split
          exact ⟨[], input, after, rfl, rfl, rfl, rfl⟩
  | cons first past hypothesis =>
      cases inputs with
      | nil => contradiction
      | cons early inputs =>
          rw [history, List.cons_append, List.cons.injEq] at split
          obtain ⟨rfl, rest⟩ := split
          obtain ⟨before, input, after, rfl, rfl, same, rfl⟩ := hypothesis rest
          exact ⟨early :: before, input, after, rfl, rfl, same, rfl⟩

/-- A run goes on from each of its moments. -/
theorem run_of_mem {engine : Engine} {inputs : List Input} {moment : Moment}
    (member : moment ∈ engine.history inputs) :
    ∃ later, (engine.run inputs).1 = (moment.after.run later).1 := by
  obtain ⟨past, behind, split⟩ := List.append_of_mem member
  obtain ⟨before, input, later, rfl, -, rfl, -⟩ := history_eq_append_cons split
  refine ⟨later, ?_⟩
  rw [run_append, run_cons]
  rfl

/-- The acts of a run are those of its moments. -/
theorem run_effects (engine : Engine) (inputs : List Input) :
    (engine.run inputs).2 = (engine.history inputs).flatMap Moment.effects := by
  induction inputs generalizing engine with
  | nil => rfl
  | cons input later hypothesis =>
      rw [run_cons, hypothesis]
      rfl

end Engine

/-! ## Invariants -/

/-- A property of an engine and its history that every moment keeps holds after
every run. -/
theorem History.invariant (property : Engine → History → Prop) {engine : Engine}
    (initially : property engine [])
    (kept : ∀ history moment, property moment.before history →
      property moment.after (history ++ [moment]))
    (inputs : List Input) :
    property (engine.run inputs).1 (engine.history inputs) := by
  induction inputs using List.reverseRecOn with
  | nil => exact initially
  | append_singleton inputs input hypothesis =>
      rw [Engine.run_concat, Engine.history_concat]
      exact kept _ _ hypothesis

end WlanDatapath
