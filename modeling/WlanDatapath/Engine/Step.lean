import WlanDatapath.Engine.BringUp
import WlanDatapath.Engine.Reception
import WlanDatapath.Engine.Teardown
import WlanDatapath.Engine.Transmission

/-!
# Steps and runs of the engine

Everything that can happen to an engine is an `Input`: a call from outside, the
answer to a call that the engine made, or one step further in an activity that
waits for nobody.  A step takes one input and answers with the next engine, its
effects in order and a reply to whoever made the input.

A run is a list of inputs.  Since an engine that awaits an answer takes any other
input meanwhile, runs cover calls made from inside calls and calls made by
others at the same time.
-/

namespace WlanDatapath

/-- Something that happens to the engine. -/
inductive Input where
  | startBringUp (supply : Supply)
  | proceedBringUp
  | answerPost (refusal : Option Refusal)
  | completeReceive (transfer : Transfer Buffer)
  | startPass
  | proceedPass (memory : Memory)
  | answerDelivery (accepted : Bool)
  | answerRepost (refusal : Option Refusal)
  /-- A frame is to be sent from a hardware queue; the transport's answer to the
  transfer is given. -/
  | enqueue (memory : Memory) (answer : Transfer Outgoing → Option Refusal)
      (frame : Outgoing) (key queue : UInt8)
  /-- A transmit transfer has ended on the endpoint with an address. -/
  | completeTransmit (address : UInt8) (transfer : Transfer Outgoing)
  | finishStatistics
  | beginTeardown
  | finishTeardown

/-- The reply to an input. -/
inductive Reply where
  | done
  /-- There was nothing to do, or it has to wait. -/
  | inapplicable
  | started (whether : Bool)
  /-- An operation is over, and this is its result. -/
  | over (result : Except Fault Unit)

namespace Engine

/-- A step that is always possible. -/
def possible (step : Engine × List Effect) : Engine × List Effect × Reply :=
  (step.1, step.2, .done)

/-- A step that leaves the engine as it is unless it is possible. -/
def unlessStuck (engine : Engine) :
    Option (Engine × List Effect) → Engine × List Effect × Reply
  | some step => possible step
  | none => (engine, [], .inapplicable)

/-- A step of bringing up, whose answer is the result once there is one. -/
def ofBringUpStep (step : BringUpStep) : Engine × List Effect × Reply :=
  (step.1, step.2.1,
    match step.2.2 with
    | some result => .over (result.mapError .failure)
    | none => .done)

/-- What happens to the engine at an input. -/
def step (engine : Engine) : Input → Engine × List Effect × Reply
  | .startBringUp supply => ofBringUpStep (engine.startBringUp supply)
  | .proceedBringUp =>
      match engine.proceedBringUp? with
      | some step => ofBringUpStep step
      | none => (engine, [], .inapplicable)
  | .answerPost refusal => possible (engine.answerPost refusal)
  | .completeReceive transfer => possible (engine.completeReceive transfer)
  | .startPass =>
      let start := engine.startPass
      (start.2, [], .started start.1)
  | .proceedPass memory => engine.unlessStuck (engine.proceedPass? memory)
  | .answerDelivery accepted => possible (engine.answerDelivery accepted, [])
  | .answerRepost refusal => possible (engine.answerRepost refusal)
  | .enqueue memory answer frame key queue =>
      let step := engine.enqueue memory answer frame key queue
      (step.1, step.2.1, .over step.2.2)
  | .completeTransmit address transfer => possible (engine.completeTransmit address transfer)
  | .finishStatistics => possible engine.finishStatistics
  | .beginTeardown => possible engine.beginTeardown
  | .finishTeardown => engine.unlessStuck engine.finishTeardown?

/-- What happens to the engine at inputs one after another. -/
def run (engine : Engine) : List Input → Engine × List Effect
  | [] => (engine, [])
  | input :: later =>
      let first := engine.step input
      let rest := first.1.run later
      (rest.1, first.2.1 ++ rest.2)

@[simp]
theorem run_nil (engine : Engine) : engine.run [] = (engine, []) := rfl

@[simp]
theorem run_cons (engine : Engine) (input : Input) (later : List Input) :
    engine.run (input :: later) =
      (((engine.step input).1.run later).1,
        (engine.step input).2.1 ++ ((engine.step input).1.run later).2) := rfl

/-- A run in two parts. -/
theorem run_append (engine : Engine) (before after : List Input) :
    engine.run (before ++ after) =
      (((engine.run before).1.run after).1,
        (engine.run before).2 ++ ((engine.run before).1.run after).2) := by
  induction before generalizing engine with
  | nil => simp
  | cons input later hypothesis => simp [hypothesis]

end Engine

end WlanDatapath
