import Mathlib.Data.List.Induction
import WlanDatapath.DeferredWork.Shared

/-!
# Runners exclude each other and stay out for good

However the accesses of any number of calls are interleaved, at most one runner is
inside, and the flag says whether there is one.  After a call that disables the work
has returned there is none, no request is open, and later requests and runners are
turned away at their first access.

The invariant (`Shared.Sound`) counts the runners inside and says what each call of
the disabling kind has brought about so far (`Call.Demands`).  What one such call
has brought about no other call can undo (`Calms`).
-/

namespace WlanDatapath.DeferredWork

/-! ## What one access does to the flags -/

/-- Disabled work stays disabled, and then no other flag is set any more. -/
structure Calms (before after : DeferredWork) : Prop where
  disabled : before.disabled = true → after.disabled = true
  running : before.disabled = true → before.running = false → after.running = false
  scheduled : before.disabled = true → before.scheduled = false → after.scheduled = false

namespace Calms

variable {before after : DeferredWork}

theorem refl (work : DeferredWork) : Calms work work where
  disabled := id
  running _ := id
  scheduled _ := id

/-- Before the work is disabled nothing is said. -/
theorem of_enabled (enabled : before.disabled = false) : Calms before after where
  disabled disabled := absurd disabled (by simp [enabled])
  running disabled := absurd disabled (by simp [enabled])
  scheduled disabled := absurd disabled (by simp [enabled])

end Calms

theorem Requestable.enabled (seen : Requestable) : seen.1.disabled = false := by
  have admits := seen.2
  simp only [admitsRequest, Bool.and_eq_true, Bool.not_eq_true'] at admits
  exact admits.2

theorem Enterable.enabled (seen : Enterable) : seen.1.disabled = false := by
  have admits := seen.2
  simp only [admitsRunner, Bool.and_eq_true, Bool.not_eq_true'] at admits
  exact admits.2

theorem Enterable.still (seen : Enterable) : seen.1.running = false := by
  have admits := seen.2
  simp only [admitsRunner, Bool.and_eq_true, Bool.not_eq_true'] at admits
  exact admits.1

namespace Call

variable {call : Call} {before after : DeferredWork}

/-- What a call of the disabling kind has brought about. -/
def Demands (work : DeferredWork) : Call → Prop
  | .waiting => work.disabled = true
  | .dropping => work.disabled = true ∧ work.running = false
  | .killed => work.disabled = true ∧ work.running = false ∧ work.scheduled = false
  | _ => True

theorem Demands.mono (demands : call.Demands before) (calms : Calms before after) :
    call.Demands after := by
  cases call with
  | waiting => exact calms.disabled demands
  | dropping => exact ⟨calms.disabled demands.1, calms.running demands.1 demands.2⟩
  | killed =>
      obtain ⟨disabled, still, closed⟩ := demands
      exact ⟨calms.disabled disabled, calms.running disabled still,
        calms.scheduled disabled closed⟩
  | _ => trivial

theorem demands_start (operation : Operation) (work : DeferredWork) :
    operation.start.Demands work := by
  cases operation <;> trivial

variable (spurious : Bool) (work : DeferredWork)

theorem demands_request : (request work).Demands work := by
  unfold request
  split <;> trivial

theorem demands_enter (ran : Bool) : (enter ran work).Demands work := by
  unfold enter
  split <;> trivial

@[simp]
theorem holds_request : (request work).holds = false := by
  unfold request
  split <;> rfl

@[simp]
theorem holds_enter (ran : Bool) : (enter ran work).holds = false := by
  unfold enter
  split <;> rfl

theorem access_calms : Calms work (call.access spurious work).2 := by
  cases call with
  | committing seen | claiming ran seen =>
      simp only [access]
      split
      next same => exact .of_enabled (same.1 ▸ seen.enabled)
      next => exact .refl work
  | taking | dropping => exact ⟨id, fun _ => id, fun _ _ => rfl⟩
  | retreating | passing => exact ⟨id, fun _ _ => rfl, fun _ => id⟩
  | disabling => exact ⟨fun _ => rfl, fun _ => id, fun _ => id⟩
  | requesting | requested | entering | finished | waiting | killed => exact .refl work

/-- A call of the disabling kind has brought about what it has to after its access. -/
theorem demands_access (demands : call.Demands work) :
    (call.access spurious work).1.Demands (call.access spurious work).2 := by
  cases call with
  | requesting => exact demands_request work
  | entering ran => exact demands_enter work ran
  | committing | claiming =>
      simp only [access]
      split
      · trivial
      · first | exact demands_request work | exact demands_enter work _
  | taking | passing =>
      simp only [access]
      split <;> trivial
  | disabling => rfl
  | waiting =>
      simp only [access]
      split
      next => exact demands
      next still => exact ⟨demands, by simpa using still⟩
  | dropping => exact ⟨demands.1, demands.2, rfl⟩
  | requested | retreating | finished => trivial
  | killed => exact demands

/-- The flag changes as a runner is let in or leaves. -/
theorem holds_access (inside : call.holds = true → work.running = true) :
    (call.access spurious work).1.holds.toNat + work.running.toNat =
      call.holds.toNat + (call.access spurious work).2.running.toNat := by
  cases call with
  | claiming ran seen =>
      simp only [access]
      split
      next same =>
        have still : work.running = false := same.1 ▸ seen.still
        rw [still]
        rfl
      next =>
        rw [holds_enter]
        rfl
  | committing seen =>
      simp only [access]
      split
      next => rfl
      next =>
        rw [holds_request]
        rfl
  | requesting =>
      rw [access, holds_request]
      rfl
  | entering ran =>
      rw [access, holds_enter]
      rfl
  | taking | waiting =>
      simp only [access]
      split <;> rfl
  | retreating =>
      rw [inside rfl]
      rfl
  | passing =>
      rw [access, inside rfl]
      dsimp only
      split <;> rfl
  | requested | finished | disabling | dropping | killed => rfl

/-- A call that has returned stays as it is. -/
theorem access_of_isOver (ended : call.isOver = true) :
    call.access spurious work = (call, work) := by
  cases call <;> first | rfl | contradiction

end Call

/-! ## What one turn does -/

namespace Shared

/-- What a turn can do: add a call, nothing, or one access of one call. -/
inductive Stepped : Shared → Turn → Shared → Prop
  | called (shared : Shared) (operation : Operation) :
      Stepped shared (.call operation)
        { shared with calls := shared.calls ++ [operation.start] }
  | idle (shared : Shared) (index : Nat) (spurious : Bool) (nobody : shared.calls[index]? = none) :
      Stepped shared (.access index spurious) shared
  | accessed (work : DeferredWork) (front : List Call) (call : Call) (back : List Call)
      (spurious : Bool) :
      Stepped ⟨work, front ++ call :: back⟩ (.access front.length spurious)
        ⟨(call.access spurious work).2, front ++ (call.access spurious work).1 :: back⟩

theorem stepped (shared : Shared) (turn : Turn) : Stepped shared turn (shared.step turn) := by
  cases turn with
  | call operation => exact .called shared operation
  | access index spurious =>
      obtain ⟨work, calls⟩ := shared
      simp only [step]
      cases stands : calls[index]? with
      | none => exact .idle ⟨work, calls⟩ index spurious stands
      | some call =>
          obtain ⟨within, here⟩ := List.getElem?_eq_some_iff.mp stands
          obtain ⟨front, back, whole, length, set⟩ : ∃ front back,
              calls = front ++ calls[index] :: back ∧ front.length = index ∧
                calls.set index (call.access spurious work).1 =
                  front ++ (call.access spurious work).1 :: back :=
            List.exists_of_set within
          rw [here] at whole
          subst whole length
          have accessed := Stepped.accessed work front call back spurious
          rwa [← set] at accessed

/-- Where a call may stand after a turn: where it stood, where its access led, or at
its beginning. -/
theorem getElem?_step {shared : Shared} {turn : Turn} {index : Nat} {next : Call}
    (stands : (shared.step turn).calls[index]? = some next) :
    shared.calls[index]? = some next ∨
      (∃ call spurious, shared.calls[index]? = some call ∧
        next = (call.access spurious shared.work).1) ∨
      ∃ operation : Operation, shared.calls.length ≤ index ∧ next = operation.start := by
  cases turn with
  | call operation =>
      simp only [step, List.getElem?_append] at stands
      split at stands
      next => exact Or.inl stands
      next behind =>
        rw [List.getElem?_singleton] at stands
        split at stands
        next =>
          have new : next = operation.start := by simpa using stands.symm
          exact Or.inr (Or.inr ⟨operation, Nat.le_of_not_lt behind, new⟩)
        next => contradiction
  | access place spurious =>
      simp only [step] at stands
      cases found : shared.calls[place]? with
      | none =>
          rw [found] at stands
          exact Or.inl stands
      | some call =>
          rw [found] at stands
          dsimp only at stands
          by_cases same : place = index
          · subst same
            obtain ⟨within, -⟩ := List.getElem?_eq_some_iff.mp found
            rw [List.getElem?_set_self within] at stands
            exact Or.inr (Or.inl ⟨call, spurious, found, (Option.some.inj stands).symm⟩)
          · rw [List.getElem?_set_ne same] at stands
            exact Or.inl stands

/-! ## The invariant -/

/-- The flag counts the runners inside, and every call of the disabling kind has
brought about what it has to. -/
structure Sound (shared : Shared) : Prop where
  holders : shared.calls.countP Call.holds = shared.work.running.toNat
  demands : ∀ call ∈ shared.calls, call.Demands shared.work

variable {shared next : Shared} {turn : Turn}

theorem sound_fresh : fresh.Sound where
  holders := rfl
  demands _ member := by simp [fresh] at member

/-- A runner inside has set the flag. -/
theorem Sound.running_of_holds (sound : shared.Sound) {call : Call} (member : call ∈ shared.calls)
    (holds : call.holds = true) : shared.work.running = true := by
  have inside : 0 < shared.calls.countP Call.holds := List.countP_pos_iff.mpr ⟨call, member, holds⟩
  rw [sound.holders] at inside
  by_contra still
  rw [Bool.not_eq_true] at still
  rw [still] at inside
  exact Nat.lt_irrefl 0 inside

/-- The flag is set exactly when a runner is inside. -/
theorem Sound.running_iff (sound : shared.Sound) :
    shared.work.running = true ↔ ∃ call ∈ shared.calls, call.holds = true := by
  constructor
  · intro running
    rw [← List.countP_pos_iff, sound.holders, running]
    exact Nat.one_pos
  · rintro ⟨call, member, holds⟩
    exact sound.running_of_holds member holds

theorem Sound.stepped (sound : shared.Sound) (stepped : Stepped shared turn next) :
    next.Sound := by
  have weight : ∀ call : Call, (if call.holds = true then 1 else 0) = call.holds.toNat := by
    intro call
    cases call.holds <;> rfl
  cases stepped with
  | called _ operation =>
      constructor
      · have outside : operation.start.holds = false := by cases operation <;> rfl
        rw [List.countP_append, List.countP_singleton, outside]
        exact sound.holders
      · rw [List.forall_mem_append, List.forall_mem_singleton]
        exact ⟨sound.demands, Call.demands_start operation shared.work⟩
  | idle => exact sound
  | accessed work front call back spurious =>
      constructor
      · have counted := sound.holders
        have inside : call.holds = true → work.running = true := sound.running_of_holds (by simp)
        have balance := Call.holds_access spurious work inside
        simp only [List.countP_append, List.countP_cons, weight] at counted ⊢
        omega
      · have demands := sound.demands
        have calms := call.access_calms spurious work
        rw [List.forall_mem_append, List.forall_mem_cons] at demands ⊢
        obtain ⟨early, here, late⟩ := demands
        exact ⟨fun other member => (early other member).mono calms,
          Call.demands_access spurious work here,
          fun other member => (late other member).mono calms⟩

theorem Sound.run (sound : shared.Sound) (turns : List Turn) : (shared.run turns).Sound := by
  induction turns generalizing shared with
  | nil => exact sound
  | cons turn later hypothesis => exact hypothesis (sound.stepped (shared.stepped turn))

/-! ## After the end -/

/-- A call stays where it is, unless it is the one that accesses the flags. -/
theorem mem_calls_step (turn : Turn) {call : Call} (member : call ∈ shared.calls) :
    call ∈ (shared.step turn).calls ∨
      ∃ index spurious, turn = .access index spurious ∧ shared.calls[index]? = some call ∧
        (call.access spurious shared.work).1 ∈ (shared.step turn).calls := by
  have stepped := shared.stepped turn
  generalize shared.step turn = next at stepped ⊢
  cases stepped with
  | called => exact Or.inl (List.mem_append_left _ member)
  | idle => exact Or.inl member
  | accessed work front other back spurious =>
      rcases List.mem_append.mp member with early | behind
      · exact Or.inl (List.mem_append_left _ early)
      · rcases List.mem_cons.mp behind with rfl | late
        · exact Or.inr ⟨front.length, spurious, rfl, by simp, by simp⟩
        · exact Or.inl (List.mem_append_right _ (List.mem_cons_of_mem _ late))

/-- A call that has returned does not move any more. -/
theorem mem_calls_step_of_isOver (turn : Turn) {call : Call} (member : call ∈ shared.calls)
    (ended : call.isOver = true) : call ∈ (shared.step turn).calls := by
  rcases mem_calls_step turn member with stays | ⟨_, spurious, -, -, moved⟩
  · exact stays
  · rwa [Call.access_of_isOver spurious shared.work ended] at moved

theorem mem_calls_run (turns : List Turn) {call : Call} (member : call ∈ shared.calls)
    (ended : call.isOver = true) : call ∈ (shared.run turns).calls := by
  induction turns generalizing shared with
  | nil => exact member
  | cons turn later hypothesis =>
      exact hypothesis (mem_calls_step_of_isOver turn member ended)

theorem run_concat (shared : Shared) (turns : List Turn) (turn : Turn) :
    shared.run (turns ++ [turn]) = (shared.run turns).step turn := by
  rw [run, List.foldl_append]
  rfl

end Shared

namespace Call

/-- The call disables the work, or it has not achieved anything. -/
def isFutile : Call → Bool
  | .requesting | .requested false | .entering false | .finished false => true
  | .disabling | .waiting | .dropping | .killed => true
  | _ => false

theorem isFutile_start (operation : Operation) : operation.start.isFutile = true := by
  cases operation <;> rfl

variable {call : Call} {work : DeferredWork}

/-- Disabled work turns everybody away. -/
theorem request_of_disabled (disabled : work.disabled = true) :
    request work = .requested false := by
  unfold request
  rw [dif_neg]
  simp [admitsRequest, disabled]

theorem enter_of_disabled (ran : Bool) (disabled : work.disabled = true) :
    enter ran work = .finished ran := by
  unfold enter
  rw [dif_neg]
  simp [admitsRunner, disabled]

/-- A call that has not achieved anything before the work was disabled never will. -/
theorem isFutile_access (spurious : Bool) (futile : call.isFutile = true)
    (disabled : work.disabled = true) : (call.access spurious work).1.isFutile = true := by
  cases call with
  | requesting => rw [access, request_of_disabled disabled]; rfl
  | entering ran =>
      rw [access, enter_of_disabled ran disabled]
      cases ran <;> first | rfl | contradiction
  | waiting =>
      simp only [access]
      split <;> rfl
  | requested | finished => exact futile
  | disabling | dropping | killed => rfl
  | _ => contradiction

/-- Its next access makes it answer so, if it did not answer already. -/
theorem answer?_access (spurious : Bool) (futile : call.isFutile = true)
    (disabled : work.disabled = true) (other : call.operation ≠ .kill) :
    (call.access spurious work).1.answer? = some false := by
  cases call with
  | requesting => rw [access, request_of_disabled disabled]; rfl
  | entering ran =>
      rw [access, enter_of_disabled ran disabled]
      cases ran <;> first | rfl | contradiction
  | requested answer | finished answer =>
      cases answer <;> first | rfl | contradiction
  | disabling | waiting | dropping | killed => exact absurd rfl other
  | _ => contradiction

end Call

namespace Shared

variable {shared : Shared}

theorem Sound.demands_killed (sound : shared.Sound) (killed : .killed ∈ shared.calls) :
    shared.work.disabled = true ∧ shared.work.running = false ∧ shared.work.scheduled = false :=
  sound.demands _ killed

/-- Calls that are made after the work was disabled for good achieve nothing. -/
theorem isFutile_run (sound : shared.Sound) (killed : .killed ∈ shared.calls)
    (turns : List Turn) {index : Nat} {call : Call} (late : shared.calls.length ≤ index)
    (stands : (shared.run turns).calls[index]? = some call) : call.isFutile = true := by
  induction turns using List.reverseRecOn generalizing call with
  | nil =>
      have nobody : shared.calls[index]? = none := List.getElem?_eq_none late
      exact absurd (nobody.symm.trans stands) (by simp)
  | append_singleton turns turn hypothesis =>
      rw [run_concat] at stands
      have disabled := ((sound.run turns).demands_killed (mem_calls_run turns killed rfl)).1
      rcases getElem?_step stands with stays | ⟨before, spurious, stood, rfl⟩ | ⟨operation, -, rfl⟩
      · exact hypothesis stays
      · exact Call.isFutile_access spurious (hypothesis stood) disabled
      · exact Call.isFutile_start operation

/-- However the accesses of any number of calls are interleaved: at most one runner is
between being let in and leaving, and the flag is set exactly when there is one.  Once
a call has disabled the work and returned, whatever happens later, no runner is inside
and no request is open, and every further request and runner is answered with no at
its first access. -/
theorem runners_exclusive_until_killed (turns : List Turn) :
    let shared := fresh.run turns
    shared.calls.countP Call.holds ≤ 1 ∧
      (shared.work.running = true ↔ ∃ call ∈ shared.calls, call.holds = true) ∧
      (.killed ∈ shared.calls → ∀ later : List Turn,
        let final := shared.run later
        (∀ call ∈ final.calls, call.holds = false) ∧ final.work.scheduled = false ∧
          ∀ index call, shared.calls.length ≤ index → final.calls[index]? = some call →
            call.operation ≠ .kill →
              ∀ spurious, (call.access spurious final.work).1.answer? = some false) := by
  intro shared
  have sound : shared.Sound := sound_fresh.run turns
  refine ⟨?_, sound.running_iff, ?_⟩
  · rw [sound.holders]
    exact Bool.toNat_le _
  · intro killed later final
    have last : final.Sound := sound.run later
    obtain ⟨disabled, still, closed⟩ := last.demands_killed (mem_calls_run later killed rfl)
    refine ⟨?_, closed, ?_⟩
    · intro call member
      rw [← Bool.not_eq_true]
      intro holds
      have running := last.running_of_holds member holds
      rw [still] at running
      contradiction
    · intro index call late stands other spurious
      have futile := isFutile_run sound killed later late stands
      exact Call.answer?_access spurious futile disabled other

/-- Somebody disables the work during a pass for which a further request was made, and
returns after the pass. -/
def killTurns : List Turn :=
  [.call .schedule, .access 0 false, .access 0 false,
    .call .run, .access 1 false, .access 1 true, .access 1 false, .access 1 false,
    .call .schedule, .access 2 false, .access 2 false,
    .call .kill, .access 3 false, .access 3 false, .access 1 false, .access 3 false,
    .access 3 false]

/-- After those turns another request and another runner are turned away. -/
theorem runners_exclusive_until_killed_pass :
    let shared := fresh.run killTurns
    shared.calls = [.requested true, .finished true, .requested true, .killed] ∧
      ∀ spurious, (Call.requesting.access spurious
        (shared.run [.call .schedule, .call .run]).work).1.answer? = some false := by
  intro shared
  have calls : shared.calls = [.requested true, .finished true, .requested true, .killed] := by
    decide
  refine ⟨calls, ?_⟩
  obtain ⟨-, -, ended⟩ := runners_exclusive_until_killed killTurns
  have killed : .killed ∈ (fresh.run killTurns).calls := by decide
  obtain ⟨-, -, refused⟩ := ended killed [.call .schedule, .call .run]
  exact refused 4 .requesting (by decide) (by decide) (by decide)

end Shared

end WlanDatapath.DeferredWork
