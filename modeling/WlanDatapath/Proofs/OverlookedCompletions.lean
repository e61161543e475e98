import WlanDatapath.Proofs.AbandonedRequests
import WlanDatapath.Statistics.Shared

/-!
# Completions that are overlooked

A completion that finds statistics being read leaves them to the reading that is
outstanding, and the end of that reading looks for its note.  But the note is taken
before the claim is given up.  A frame that is noted in between finds the claim held,
schedules nothing and returns, and then the claim is given up without another look:
the note stays, although no reading is outstanding (`completion_overlooked`).

That is the only way in which a completion is lost.  On a device that accepts, and when
no call is left, a note without a reading outstanding is one that was overlooked in that
way, and no reading was scheduled since
(`completions_read_unless_overlooked`).

`Shared.Sound` counts the readings for which the claim stands, and `Shared.Accounted`
says where each note is seen.
-/

namespace WlanDatapath.Statistics

open DeferredWork (FollowedBy followedBy_concat)

/-! ## What one access does -/

namespace Call

variable {call : Call} (config : Config) (device : Device)

/-- The claim stands for the readings that are outstanding and for those that are over
and not through. -/
theorem holds_access (held : call.holds = true → device.readingStatistics = true) :
    (call.access config device).2.2.toList.length + (call.access config device).1.holds.toNat +
        device.readingStatistics.toNat =
      call.holds.toNat + (call.access config device).2.1.readingStatistics.toNat := by
  cases call with
  | noting | asking | completed | finished => simp [access, holds, Device.noteCompletion]
  | claiming =>
      cases reading : device.readingStatistics <;>
        simp [access, holds, Device.claimReading, reading]
  | taking =>
      cases more : device.moreStatistics <;>
        simp [access, holds, Device.takeCompletions, more]
  | looking => cases accepts : device.accepts <;> simp [access, holds, accepts]
  | releasing => simp [access, holds, Device.releaseReading, held rfl]

/-- No access changes the stage of the device. -/
theorem accepts_access : (call.access config device).2.1.accepts = device.accepts := by
  cases call <;> rfl

end Call

/-! ## What one turn does -/

namespace Shared

/-- What a turn can do: add a call, nothing, end the device, or one access of one call. -/
inductive Stepped : Shared → Turn → Shared → Prop
  | completed (shared : Shared) :
      Stepped shared .complete { shared with calls := shared.calls ++ [.noting] }
  | unfinished (shared : Shared) (nothing : shared.outstanding = 0) :
      Stepped shared .finish shared
  | finished (config : Config) (device : Device) (outstanding : Nat) (calls : List Call) :
      Stepped ⟨config, device, outstanding + 1, calls⟩ .finish
        ⟨config, device, outstanding, calls ++ [.taking]⟩
  | idle (shared : Shared) (index : Nat) (nobody : shared.calls[index]? = none) :
      Stepped shared (.access index) shared
  | accessed (config : Config) (device : Device) (outstanding : Nat) (front : List Call)
      (call : Call) (back : List Call) :
      Stepped ⟨config, device, outstanding, front ++ call :: back⟩ (.access front.length)
        ⟨config, (call.access config device).2.1,
          outstanding + (call.access config device).2.2.toList.length,
          front ++ (call.access config device).1 :: back⟩
  | killed (shared : Shared) : Stepped shared .kill { shared with device := shared.device.kill }

theorem stepped (shared : Shared) (turn : Turn) : Stepped shared turn (shared.step turn) := by
  obtain ⟨config, device, outstanding, calls⟩ := shared
  cases turn with
  | complete => exact .completed _
  | finish =>
      cases outstanding with
      | zero => exact .unfinished _ rfl
      | succ outstanding => exact .finished config device outstanding calls
  | access index =>
      simp only [step]
      cases stands : calls[index]? with
      | none => exact .idle ⟨config, device, outstanding, calls⟩ index stands
      | some call =>
          obtain ⟨within, here⟩ := List.getElem?_eq_some_iff.mp stands
          obtain ⟨front, back, whole, length, set⟩ : ∃ front back,
              calls = front ++ calls[index] :: back ∧ front.length = index ∧
                calls.set index (call.access config device).1 =
                  front ++ (call.access config device).1 :: back :=
            List.exists_of_set within
          rw [here] at whole
          subst whole length
          have accessed := Stepped.accessed config device outstanding front call back
          rwa [← set] at accessed
  | kill => exact .killed _

/-! ## The claim -/

/-- The claim stands for the readings that are outstanding and for those that are over
and not through. -/
def Sound (shared : Shared) : Prop :=
  shared.outstanding + shared.calls.countP Call.holds = shared.device.readingStatistics.toNat

variable {shared next : Shared} {turn : Turn}

theorem sound_fresh (config : Config) : (fresh config).Sound := rfl

/-- A reading that is over and not through holds the claim, and no other one is
outstanding. -/
theorem Sound.of_holds (sound : shared.Sound) {call : Call} (member : call ∈ shared.calls)
    (holds : call.holds = true) :
    shared.device.readingStatistics = true ∧ shared.outstanding = 0 := by
  have inside : 0 < shared.calls.countP Call.holds := List.countP_pos_iff.mpr ⟨call, member, holds⟩
  have bound := shared.device.readingStatistics.toNat_le
  unfold Sound at sound
  refine ⟨?_, by omega⟩
  by_contra free
  rw [Bool.not_eq_true] at free
  rw [free, Bool.toNat_false] at sound
  omega

/-- A reading that is outstanding holds the claim, and no other one is over. -/
theorem Sound.of_outstanding (sound : shared.Sound) (some : shared.outstanding ≠ 0) :
    shared.device.readingStatistics = true ∧ ∀ call ∈ shared.calls, call.holds = false := by
  have reads : shared.device.readingStatistics = true := by
    by_contra free
    rw [Bool.not_eq_true] at free
    rw [Sound, free, Bool.toNat_false, Nat.add_eq_zero_iff] at sound
    exact some sound.1
  refine ⟨reads, fun call member => ?_⟩
  by_contra holds
  exact some (sound.of_holds member (by simpa using holds)).2

theorem Sound.stepped (sound : shared.Sound) (stepped : Stepped shared turn next) :
    next.Sound := by
  have weight : ∀ call : Call, (if call.holds = true then 1 else 0) = call.holds.toNat := by
    intro call
    cases call.holds <;> rfl
  cases stepped with
  | completed | unfinished | idle | killed => simpa [Sound, Call.holds, Device.kill] using sound
  | finished config device outstanding calls =>
      simp only [Sound, List.countP_append, List.countP_singleton, Call.holds, if_true] at sound ⊢
      omega
  | accessed config device outstanding front call back =>
      have held : call.holds = true → device.readingStatistics = true :=
        fun holds => (sound.of_holds (by simp) holds).1
      have balance := Call.holds_access config device held
      simp only [Sound, List.countP_append, List.countP_cons, weight] at sound ⊢
      omega

theorem Sound.run (sound : shared.Sound) (turns : List Turn) : (shared.run turns).Sound := by
  induction turns generalizing shared with
  | nil => exact sound
  | cons turn later hypothesis => exact hypothesis (sound.stepped (shared.stepped turn))

end Shared

/-! ## Notes -/

namespace Tick

/-- The turn of one call among others. -/
abbrev accessing (config : Config) (device : Device) (outstanding : Nat) (front : List Call)
    (call : Call) (back : List Call) : Tick :=
  ⟨⟨config, device, outstanding, front ++ call :: back⟩, .access front.length⟩

section

variable (config : Config) (device : Device) (outstanding : Nat) (front : List Call)
  (call : Call) (back : List Call)

theorem caller?_accessing :
    (accessing config device outstanding front call back).caller? = some call := by
  simp [caller?]

@[simp]
theorem notes_accessing :
    (accessing config device outstanding front call back).notes = (call == .noting) := by
  simp [notes, caller?_accessing]

@[simp]
theorem asks_accessing :
    (accessing config device outstanding front call back).asks =
      (call.access config device).2.2.isSome := by
  rw [asks, caller?_accessing]
  rfl

@[simp]
theorem ends_accessing :
    (accessing config device outstanding front call back).ends = false := rfl

@[simp]
theorem overlooks_accessing :
    (accessing config device outstanding front call back).overlooks =
      (call == .releasing && device.moreStatistics) := by
  simp [overlooks, caller?_accessing]

end

end Tick

namespace Shared

/-- Where notes are seen, and what an overlooked one has led to. -/
structure Accounted (shared : Shared) (trace : List Tick) : Prop where
  /-- A note is seen by a reading, is about to have one scheduled, or was overlooked. -/
  noted : shared.device.moreStatistics = true →
    shared.device.readingStatistics = true ∨ .claiming ∈ shared.calls ∨
      FollowedBy Tick.overlooks Tick.asks trace = false
  /-- A note that was overlooked stays, and nobody reads it. -/
  overlooked : FollowedBy Tick.overlooks Tick.asks trace = false →
    shared.device.moreStatistics = true ∧ shared.device.readingStatistics = false ∧
      FollowedBy Tick.notes Tick.ends trace = false
  /-- A frame that waits for the end of a reading is noted or has a reading scheduled. -/
  unread : FollowedBy Tick.notes Tick.ends trace = false →
    shared.device.moreStatistics = true ∨ shared.outstanding ≠ 0 ∨
      .looking ∈ shared.calls ∨ .asking ∈ shared.calls
  /-- A note that the end of a reading misses is of a frame that waits for another one. -/
  missed : .releasing ∈ shared.calls → shared.device.moreStatistics = true →
    FollowedBy Tick.notes Tick.ends trace = false

theorem accounted_fresh (config : Config) : (fresh config).Accounted [] where
  noted more := absurd more (by simp [fresh])
  overlooked lost := absurd lost (by simp [FollowedBy])
  unread lost := absurd lost (by simp [FollowedBy])
  missed member := absurd member (by simp [fresh])

variable {shared : Shared} {trace : List Tick}

section

variable {config : Config} {device : Device} {outstanding : Nat} {front : List Call}
  {call : Call} {back : List Call}
  (accounted : Accounted ⟨config, device, outstanding, front ++ call :: back⟩ trace)
  (sound : Sound ⟨config, device, outstanding, front ++ call :: back⟩)

include accounted sound

/-- A note has a call that will claim the reading, unless it was overlooked. -/
theorem Accounted.noted_access
    (more : (call.access config device).2.1.moreStatistics = true) :
    (call.access config device).2.1.readingStatistics = true ∨
      .claiming ∈ front ++ (call.access config device).1 :: back ∨
      FollowedBy Tick.overlooks Tick.asks
        (trace ++ [.accessing config device outstanding front call back]) = false := by
  have held : call.holds = true → device.readingStatistics = true :=
    fun holds => (sound.of_holds (by simp) holds).1
  cases call with
  | noting => exact .inr (.inl (by simp [Call.access]))
  | claiming => exact .inl rfl
  | taking => contradiction
  | looking | asking => exact .inl (held rfl)
  | releasing =>
      have overlooks : device.moreStatistics = true := more
      exact .inr (.inr (by simp [overlooks]))
  | completed | finished => simpa [Call.access] using accounted.noted more

/-- A note that was overlooked stays until another reading is scheduled. -/
theorem Accounted.overlooked_access
    (lost : FollowedBy Tick.overlooks Tick.asks
      (trace ++ [.accessing config device outstanding front call back]) = false) :
    (call.access config device).2.1.moreStatistics = true ∧
      (call.access config device).2.1.readingStatistics = false ∧
      FollowedBy Tick.notes Tick.ends
        (trace ++ [.accessing config device outstanding front call back]) = false := by
  rw [followedBy_concat, Bool.and_eq_false_iff, Bool.or_eq_false_iff, Bool.not_eq_false'] at lost
  rcases lost with ⟨earlier, unasked⟩ | overlooks
  · obtain ⟨more, free, unread⟩ : device.moreStatistics = true ∧
        device.readingStatistics = false ∧ _ := accounted.overlooked earlier
    have held : call.holds = true → device.readingStatistics = true :=
      fun holds => (sound.of_holds (by simp) holds).1
    have still : FollowedBy Tick.notes Tick.ends
        (trace ++ [.accessing config device outstanding front call back]) = false := by
      simp [unread]
    cases call with
    | noting => exact ⟨rfl, free, still⟩
    | claiming => simp [Call.access, Device.claimReading, free] at unasked
    | taking | looking | asking | releasing => cases free.symm.trans (held rfl)
    | completed | finished => exact ⟨more, free, still⟩
  · simp only [Tick.overlooks_accessing, Bool.and_eq_true, beq_iff_eq] at overlooks
    obtain ⟨rfl, more⟩ := overlooks
    exact ⟨more, rfl, by simp [accounted.missed (by simp) more]⟩

/-- A note that is taken is carried on until another reading is scheduled. -/
theorem Accounted.unread_access (accepts : device.accepts = true)
    (unread : FollowedBy Tick.notes Tick.ends
      (trace ++ [.accessing config device outstanding front call back]) = false) :
    (call.access config device).2.1.moreStatistics = true ∨
      outstanding + (call.access config device).2.2.toList.length ≠ 0 ∨
      .looking ∈ front ++ (call.access config device).1 :: back ∨
      .asking ∈ front ++ (call.access config device).1 :: back := by
  have none : call.holds = true → outstanding = 0 :=
    fun holds => (sound.of_holds (by simp) holds).2
  cases call with
  | noting => exact .inl rfl
  | asking => exact .inr (.inl (Nat.succ_ne_zero _))
  | looking => exact .inr (.inr (.inr (by simp [Call.access, accepts])))
  | taking =>
      have earlier := accounted.unread (by simpa using unread)
      cases more : device.moreStatistics with
      | true => exact .inr (.inr (.inl (by simp [Call.access, Device.takeCompletions, more])))
      | false => simpa [Call.access, Device.takeCompletions, more, none rfl] using earlier
  | claiming =>
      rcases accounted.unread (by simpa using unread) with more | some | carried
      · exact .inl more
      · exact .inr (.inl (Nat.ne_of_gt (Nat.add_pos_left (Nat.pos_of_ne_zero some) _)))
      · exact .inr (.inr (by simpa [Call.access] using carried))
  | releasing | completed | finished =>
      simpa [Call.access, Device.releaseReading] using accounted.unread (by simpa using unread)

/-- A note that is missed at the end of a reading came after the one that was taken. -/
theorem Accounted.missed_access (accepts : device.accepts = true)
    (member : .releasing ∈ front ++ (call.access config device).1 :: back)
    (more : (call.access config device).2.1.moreStatistics = true) :
    FollowedBy Tick.notes Tick.ends
      (trace ++ [.accessing config device outstanding front call back]) = false := by
  cases call with
  | noting => simp
  | taking => contradiction
  | looking =>
      simp only [Call.access, accepts, if_true] at member
      simp [accounted.missed (by simpa using member) more]
  | releasing => simp [accounted.missed (by simp) more]
  | claiming | asking | completed | finished =>
      simp [accounted.missed (by simpa [Call.access] using member) more]

end

/-- Only accesses and the ends of readings are seen. -/
theorem Accounted.concat {tick : Tick} (accounted : shared.Accounted trace)
    (nobody : tick.caller? = none) (unended : tick.ends = false) :
    shared.Accounted (trace ++ [tick]) := by
  have overlooks : FollowedBy Tick.overlooks Tick.asks (trace ++ [tick]) =
      FollowedBy Tick.overlooks Tick.asks trace := by
    simp [Tick.overlooks, Tick.asks, nobody]
  have notes : FollowedBy Tick.notes Tick.ends (trace ++ [tick]) =
      FollowedBy Tick.notes Tick.ends trace := by
    simp [Tick.notes, nobody, unended]
  constructor
  · rw [overlooks]
    exact accounted.noted
  · rw [overlooks, notes]
    exact accounted.overlooked
  · rw [notes]
    exact accounted.unread
  · rw [notes]
    exact accounted.missed

theorem Accounted.after (tick : Tick) (accounted : tick.before.Accounted trace)
    (sound : tick.before.Sound) (accepts : tick.after.device.accepts = true) :
    tick.after.Accounted (trace ++ [tick]) := by
  obtain ⟨before, turn⟩ := tick
  have stepped := before.stepped turn
  simp only [Tick.after] at accepts ⊢
  generalize before.step turn = after at stepped accepts ⊢
  cases stepped with
  | completed =>
      have same : before.Accounted (trace ++ [⟨before, .complete⟩]) := accounted.concat rfl rfl
      obtain ⟨noted, overlooked, unread, missed⟩ := same
      constructor <;> simp_all
  | unfinished _ nothing => exact accounted.concat rfl (by simp [Tick.ends, nothing])
  | finished config device outstanding calls =>
      obtain ⟨reads, nobody⟩ := sound.of_outstanding (Nat.succ_ne_zero outstanding)
      have unmissed : .releasing ∉ calls := fun member => nomatch nobody _ member
      obtain ⟨noted, overlooked, -, -⟩ := accounted
      constructor <;> simp_all [Tick.notes, Tick.asks, Tick.ends, Tick.overlooks, Tick.caller?]
  | idle _ _ nobody => exact accounted.concat nobody rfl
  | accessed config device outstanding front call back =>
      rw [Call.accepts_access] at accepts
      exact
        { noted := accounted.noted_access sound
          overlooked := accounted.overlooked_access sound
          unread := accounted.unread_access sound accepts
          missed := accounted.missed_access sound accepts }
  | killed => simp at accepts

theorem run_concat (shared : Shared) (turns : List Turn) (turn : Turn) :
    shared.run (turns ++ [turn]) = (shared.run turns).step turn := by
  rw [run, List.foldl_append]
  rfl

theorem trace_concat (shared : Shared) (turns : List Turn) (turn : Turn) :
    shared.trace (turns ++ [turn]) = shared.trace turns ++ [⟨shared.run turns, turn⟩] := by
  induction turns generalizing shared with
  | nil => rfl
  | cons first later hypothesis => exact congrArg (_ :: ·) (hypothesis (shared.step first))

/-- A device that accepts after a turn accepted before. -/
theorem accepts_before (shared : Shared) {turn : Turn}
    (accepts : (shared.step turn).device.accepts = true) : shared.device.accepts = true := by
  have stepped := shared.stepped turn
  generalize shared.step turn = next at stepped accepts
  cases stepped with
  | completed | unfinished | finished | idle => exact accepts
  | accessed config device _ _ call => exact call.accepts_access config device ▸ accepts
  | killed => simp at accepts

theorem accounted_run (config : Config) (turns : List Turn)
    (accepts : ((fresh config).run turns).device.accepts = true) :
    ((fresh config).run turns).Accounted ((fresh config).trace turns) := by
  induction turns using List.reverseRecOn with
  | nil => exact accounted_fresh config
  | append_singleton turns turn hypothesis =>
      rw [run_concat] at accepts ⊢
      rw [trace_concat]
      exact Accounted.after ⟨(fresh config).run turns, turn⟩
        (hypothesis (accepts_before _ accepts)) ((sound_fresh config).run turns) accepts

/-- **Completions are read unless they are overlooked.**

When no call is left on a device that accepts, the claim stands for the one reading
that is outstanding, if there is one.  A note that frames were completed has a reading
outstanding exactly if, since it was last overlooked, another reading was scheduled.
Under the same condition, and no other, the readings are through only if one was over
after each frame that was noted. -/
theorem completions_read_unless_overlooked (config : Config) (turns : List Turn)
    (quiet : ((fresh config).run turns).isQuiet = true)
    (accepts : ((fresh config).run turns).device.accepts = true) :
    let shared := (fresh config).run turns
    let trace := (fresh config).trace turns
    shared.outstanding = shared.device.readingStatistics.toNat ∧
      ((shared.device.moreStatistics = true → shared.outstanding ≠ 0) ↔
        FollowedBy Tick.overlooks Tick.asks trace = true) ∧
      ((shared.outstanding = 0 → FollowedBy Tick.notes Tick.ends trace = true) ↔
        FollowedBy Tick.overlooks Tick.asks trace = true) := by
  intro shared trace
  have absent : ∀ call : Call, call.isOver = false → call ∉ shared.calls := by
    intro call going member
    rw [List.all_eq_true.mp quiet call member] at going
    contradiction
  have accounted : shared.Accounted trace := accounted_run config turns accepts
  have claimed : shared.outstanding = shared.device.readingStatistics.toNat := by
    have sound : shared.Sound := (sound_fresh config).run turns
    have through : shared.calls.countP Call.holds = 0 := by
      rw [List.countP_eq_zero]
      intro call member holds
      cases call <;> first | contradiction | exact absent _ rfl member
    rwa [Sound, through] at sound
  have kept : (shared.device.moreStatistics = true → shared.outstanding ≠ 0) ↔
      FollowedBy Tick.overlooks Tick.asks trace = true := by
    constructor
    · intro attended
      by_contra lost
      obtain ⟨more, free, -⟩ := accounted.overlooked (by simpa using lost)
      exact attended more (by rw [claimed, free]; rfl)
    · intro clean more
      rcases accounted.noted more with reads | claims | lost
      · rw [claimed, reads]
        exact Nat.one_ne_zero
      · exact absurd claims (absent _ rfl)
      · rw [clean] at lost
        contradiction
  refine ⟨claimed, kept, ?_, ?_⟩
  · intro followed
    by_contra lost
    obtain ⟨-, free, unread⟩ := accounted.overlooked (by simpa using lost)
    rw [followed (by rw [claimed, free]; rfl)] at unread
    contradiction
  · intro clean through
    by_contra unread
    rcases accounted.unread (by simpa using unread) with more | outstanding | looks | asks
    · exact kept.mpr clean more through
    · exact outstanding through
    · exact absent _ rfl looks
    · exact absent _ rfl asks

/-- Two frames are completed before the end of the reading, which is followed by another
one.  At the end of that one nothing was noted. -/
def attendedTurns : List Turn :=
  [.complete, .access 0, .access 0, .complete, .access 1, .access 1,
    .finish, .access 2, .access 2, .access 2, .finish, .access 3, .access 3]

/-- Each note was followed by the end of a reading. -/
theorem completions_read_unless_overlooked_rerun :
    let shared := (fresh {}).run attendedTurns
    shared.isQuiet = true ∧ shared.device.accepts = true ∧ shared.outstanding = 0 ∧
      FollowedBy Tick.notes Tick.ends ((fresh {}).trace attendedTurns) = true := by
  have facts : ((fresh {}).run attendedTurns).isQuiet = true ∧
      ((fresh {}).run attendedTurns).device.accepts = true ∧
      ((fresh {}).run attendedTurns).outstanding = 0 ∧
      FollowedBy Tick.overlooks Tick.asks ((fresh {}).trace attendedTurns) = true := by
    decide
  obtain ⟨quiet, accepts, through, clean⟩ := facts
  obtain ⟨-, -, read⟩ := completions_read_unless_overlooked {} attendedTurns quiet accepts
  exact ⟨quiet, accepts, through, read.mpr clean through⟩

/-- The same turns, except that another frame is completed between the last two. -/
def overlookedTurns : List Turn :=
  attendedTurns.dropLast ++ [.complete, .access 4, .access 4, .access 3]

/-- Every call has returned and the device is running.  Yet the last frame was noted, no
reading is outstanding, and none was over since. -/
theorem completion_overlooked :
    let shared := (fresh {}).run overlookedTurns
    shared.isQuiet = true ∧ shared.device.stage = .running ∧
      shared.device.moreStatistics = true ∧ shared.outstanding = 0 ∧
      FollowedBy Tick.notes Tick.ends ((fresh {}).trace overlookedTurns) = false := by
  decide

end Shared

end WlanDatapath.Statistics
