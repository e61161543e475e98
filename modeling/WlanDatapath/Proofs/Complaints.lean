import WlanDatapath.Proofs.DeviceMoves
import WlanDatapath.Proofs.Removal

/-!
# Complaints end with the removal

A device that is found removed is known to be gone, and nothing that fails on it is
worth a line.  The latch that remembers the removal is never cleared, so the lines that
complain about a status end there (`Engine.complaints_end_with_removal`).

Three inputs find a device removed, and the line that each of them could write differs.
A refused post makes bringing up fail without a complaint, a refused frame keeps its
line back, and a buffer that cannot be given back is complained about once, by the
refusal that sets the latch.
-/

namespace WlanDatapath

/-- Every complaint about a status reports an error. -/
theorem LogLine.level_of_isComplaint {line : LogLine} (complains : line.isComplaint = true) :
    line.level = .error := by
  cases line <;> first | rfl | contradiction

theorem mem_logged {effects : List Effect} {line : LogLine} :
    line ∈ logged effects ↔ .log line ∈ effects := by
  simp only [logged, List.mem_filterMap]
  constructor
  · rintro ⟨effect, member, same⟩
    cases effect <;> simp_all [Effect.line?]
  · intro member
    exact ⟨_, member, rfl⟩

namespace Moment

/-- The lines that complain about a status, in order. -/
def complaints (moment : Moment) : List LogLine :=
  (logged moment.effects).filter LogLine.isComplaint

/-- The lines that report an error, in order. -/
def errors (moment : Moment) : List LogLine :=
  (logged moment.effects).filter fun line => line.level = .error

/-- The device is found removed, and this is news. -/
def findsRemoval (moment : Moment) : Bool :=
  !moment.before.device.removed && moment.after.device.removed

variable {moment : Moment}

theorem errors_eq_nil_iff :
    moment.errors = [] ↔ ∀ line, .log line ∈ moment.effects → line.level ≠ .error := by
  simp [errors, List.filter_eq_nil_iff, mem_logged]

theorem complaints_eq_nil_iff :
    moment.complaints = [] ↔
      ∀ line, .log line ∈ moment.effects → line.isComplaint = false := by
  simp [complaints, List.filter_eq_nil_iff, mem_logged]

/-- A moment without errors is one without complaints. -/
theorem complaints_eq_nil_of_errors (calm : moment.errors = []) : moment.complaints = [] := by
  rw [errors_eq_nil_iff] at calm
  rw [complaints_eq_nil_iff]
  intro line member
  by_contra complains
  exact calm line member (LogLine.level_of_isComplaint (by simpa using complains))

end Moment

/-! ## The latch -/

namespace Device

/-- A device that was found removed is removed or dead. -/
def Latched (device : Device) : Prop :=
  device.removed = true → device.stage = .removed ∨ device.stage = .dead

theorem Latched.noteRemoval (device : Device) (latched : device.Latched) :
    device.noteRemoval.2.Latched := by
  obtain ⟨stage, removed, more, reading⟩ := device
  cases stage <;> simp_all [Latched, Device.noteRemoval]

theorem Latched.kill (device : Device) : device.kill.Latched :=
  fun _ => .inr rfl

/-- A removal that was found is no news. -/
theorem Latched.noteRemoval_eq_self {device : Device} (latched : device.Latched)
    (removed : device.removed = true) : device.noteRemoval.2 = device := by
  obtain ⟨stage, _, more, reading⟩ := device
  subst removed
  rcases latched rfl with rfl | rfl <;> rfl

theorem removed_of_noteRemoval {device : Device} (removed : device.removed = true) :
    device.noteRemoval.2.removed = true := by
  unfold noteRemoval
  split <;> simp [removed]

@[simp]
theorem removed_start (device : Device) : device.start.2.removed = device.removed := by
  unfold start
  split <;> rfl

end Device

namespace Moment.DeviceMove

variable {moment : Moment} {device : Device} {delays : List Nat}

/-- The latch is never cleared. -/
theorem removed (move : moment.DeviceMove device delays)
    (removed : moment.before.device.removed = true) : device.removed = true := by
  cases move with
  | kept | killed | completed | reread | released => exact removed
  | started => exact (Device.removed_start _).trans removed
  | postRefused | repostRefused | frameRefused => exact Device.removed_of_noteRemoval removed

/-- A removal that was noted shows in the stage of the device. -/
theorem latched (move : moment.DeviceMove device delays)
    (latched : moment.before.device.Latched) : device.Latched := by
  cases move with
  | kept | completed | reread | released => exact latched
  | killed | postRefused => exact .kill _
  | repostRefused | frameRefused => exact .noteRemoval _ latched
  | started =>
      unfold Device.start
      split
      next created =>
        intro removed
        rcases latched removed with gone | dead
        · cases created.symm.trans gone
        · cases created.symm.trans dead
      next => exact latched

end Moment.DeviceMove

/-! ## Complaints at a moment -/

namespace Engine

variable {engine : Engine}

/-- Nothing is complained about on a device that was found removed. -/
theorem complaints_of_removed (latched : engine.device.Latched)
    (removed : engine.device.removed = true) (input : Input) :
    (Moment.mk engine input).complaints = [] := by
  have started : engine.device.stage ≠ .created := by
    rcases latched removed with gone | dead
    · simp [gone]
    · simp [dead]
  have same : engine.foundRemoved = engine := by
    rw [foundRemoved, latched.noteRemoval_eq_self removed]
  have hushed : (Moment.mk engine input).effects = hushed (Moment.mk engine input).effects := by
    have step := step_foundRemoved started input
    rw [same] at step
    exact congrArg (·.2.1) step
  rw [Moment.complaints, hushed, logged_hushed]
  simp

/-- A failure to bring the device up is no complaint about a status. -/
theorem complaints_answerPost (refusal : Option Refusal) :
    (Moment.mk engine (.answerPost refusal)).complaints = [] := by
  have plain : ∀ effect ∈ (engine.answerPost refusal).2, effect.isComplaint = false := by
    unfold answerPost
    split
    · split
      · simp
      next refusal =>
        intro effect member
        rcases List.mem_cons.mp member with rfl | inTeardown
        · rfl
        · exact Effect.isComplaint_of_kind (by simp [kind_beginTeardown _ effect inTeardown])
    all_goals simp
  exact Moment.complaints_eq_nil_iff.mpr fun line member => plain _ member

/-- A buffer that cannot be given back is complained about once at most. -/
theorem complaints_answerRepost (refusal : Refusal) :
    let moment := Moment.mk engine (.answerRepost (some refusal))
    moment.complaints = [] ∨
      ∃ handle, moment.complaints = [.repostFailed handle refusal.status] := by
  intro moment
  have acts : moment.effects = [] ∨
      ∃ handle, moment.effects = [.log (.repostFailed handle refusal.status)] := by
    rw [Moment.effects_answerRepost, answerRepost]
    split
    next work _ => exact (ite_eq_or_eq _ _ _).symm.imp_right fun written => ⟨work.handle, written⟩
    next => exact .inl rfl
  rcases acts with silent | ⟨handle, written⟩
  · exact .inl (by rw [Moment.complaints, silent]; rfl)
  · exact .inr ⟨handle, by rw [Moment.complaints, written]; rfl⟩

/-- No error is written at a frame that is refused because the device is gone. -/
theorem errors_of_isSentInVain {moment : Moment} (vain : moment.IsSentInVain) :
    moment.errors = [] := by
  obtain ⟨engine, input⟩ := moment
  obtain ⟨endpoint, transfer, refusal, member, fatal⟩ := vain
  have kind := Moment.kind_mem_kinds _ _ member
  cases input with
  | enqueue memory answer frame key queue =>
      have alone : (engine.enqueue memory answer frame key queue).2.1 =
          [.submitTransmit endpoint transfer (some refusal)] := by
        rw [(engine.enqueue_of_refused member).2]
        simp [refuseTransmit, fatal]
      simp [Moment.errors_eq_nil_iff, alone]
  | _ => simp [Input.kinds, Effect.kind] at kind

/-! ## Statuses that are no errors -/

theorem complaint_of_no_error {status : Status} (fine : status.hasError = false)
    (line : LogLine) : engine.complaint status line = [] := by
  simp [complaint, isWorthLogging, fine]

/-- The only line about an anomaly is the one that is given. -/
theorem eq_of_mem_reportOnce {anomaly : Anomaly} {line written : LogLine}
    (member : .log written ∈ (engine.reportOnce anomaly line).2) : written = line := by
  unfold reportOnce at member
  simp only at member
  split at member
  · simpa using member
  · simp at member

theorem errors_completeReceive {transfer : Transfer Buffer}
    (fine : transfer.status.hasError = false) :
    (Moment.mk engine (.completeReceive transfer)).errors = [] := by
  rw [Moment.errors_eq_nil_iff, Moment.effects_completeReceive, completeReceive,
    complaint_of_no_error fine]
  intro line member
  simp only [List.nil_append] at member
  split at member
  · simp at member
  split at member
  · rw [eq_of_mem_reportOnce member]
    simp [LogLine.level]
  split at member
  · have kind := engine.kind_fileReceive transfer _ member
    cases kind
  · rw [eq_of_mem_reportOnce member]
    simp [LogLine.level]

theorem errors_completeTransmit (address : UInt8) {transfer : Transfer Outgoing}
    (fine : transfer.status.hasError = false) :
    (Moment.mk engine (.completeTransmit address transfer)).errors = [] := by
  rw [Moment.errors_eq_nil_iff, Moment.effects_completeTransmit, completeTransmit,
    complaint_of_no_error fine]
  intro line member
  simp only [List.nil_append] at member
  split at member
  · rw [eq_of_mem_reportOnce member]
    simp [LogLine.level]
  split at member
  · simp at member
  split at member
  · have kind := engine.kind_acceptTransmit _ transfer _ member
    simp [Effect.kind] at kind
  · rw [eq_of_mem_reportOnce member]
    simp [LogLine.level]

end Engine

/-! ## Whole runs -/

namespace Moment

variable {moment : Moment}

/-- A device is found removed without a complaint, or at the refusal of a buffer that
was to be given back, with the one complaint about it. -/
theorem complaints_of_findsRemoval (finds : moment.findsRemoval = true) :
    moment.complaints = [] ∨ ∃ refusal handle, moment.input = .answerRepost (some refusal) ∧
      refusal.fatal = true ∧ moment.complaints = [.repostFailed handle refusal.status] := by
  obtain ⟨engine, input⟩ := moment
  have move := (mk engine input).deviceMove
  obtain ⟨before, after⟩ := by simpa [findsRemoval] using finds
  generalize (mk engine input).after.device = device at *
  generalize (mk engine input).scheduled = delays at *
  cases move with
  | kept | killed | completed | reread | released => cases before.symm.trans after
  | started =>
      rw [Device.removed_start] at after
      cases before.symm.trans after
  | postRefused _ asked =>
      obtain rfl : input = _ := asked
      exact .inl (Engine.complaints_answerPost _)
  | @repostRefused _ refusal asked fatal =>
      obtain rfl : input = _ := asked
      refine (Engine.complaints_answerRepost refusal).imp_right ?_
      rintro ⟨handle, written⟩
      exact ⟨refusal, handle, rfl, fatal, written⟩
  | frameRefused _ vain =>
      exact .inl (complaints_eq_nil_of_errors (Engine.errors_of_isSentInVain vain))

end Moment

namespace Engine

variable (config : Config) (inputs : List Input)

theorem latched_run : ((fresh config).run inputs).1.device.Latched :=
  History.invariant (fun engine _ => engine.device.Latched)
    (fun removed => by simp [fresh] at removed)
    (fun _ moment latched => moment.deviceMove.latched latched) inputs

/-- A removal that was found is never forgotten. -/
theorem removed_run {engine : Engine} (removed : engine.device.removed = true)
    (inputs : List Input) : (engine.run inputs).1.device.removed = true :=
  History.invariant (fun engine _ => engine.device.removed = true) removed
    (fun _ moment removed => moment.deviceMove.removed removed) inputs

/-- A device that was found removed once stays so. -/
theorem removed_of_past {moment : Moment} (member : moment ∈ (fresh config).history inputs)
    (removed : moment.after.device.removed = true) :
    ((fresh config).run inputs).1.device.removed = true := by
  obtain ⟨later, goes⟩ := run_of_mem member
  rw [goes]
  exact removed_run removed later

/-- At most one complaint is written where the device is found removed. -/
theorem removal_complaints_run :
    let history := (fresh config).history inputs
    ((history.filter Moment.findsRemoval).flatMap Moment.complaints).length ≤
      ((fresh config).run inputs).1.device.removed.toNat := by
  refine History.invariant (fun engine history =>
    ((history.filter Moment.findsRemoval).flatMap Moment.complaints).length ≤
      engine.device.removed.toNat) (by simp) ?_ inputs
  intro history moment bound
  rw [List.filter_append, List.flatMap_append, List.length_append]
  cases finds : moment.findsRemoval with
  | true =>
      obtain ⟨before, after⟩ := by simpa [Moment.findsRemoval] using finds
      have single : moment.complaints.length ≤ 1 := by
        rcases Moment.complaints_of_findsRemoval finds with silent | ⟨_, _, -, -, written⟩
        · simp [silent]
        · simp [written]
      simp only [before, after, Bool.toNat_false, Bool.toNat_true, finds, List.filter_cons_of_pos,
        List.filter_nil, List.flatMap_singleton] at bound ⊢
      omega
  | false =>
      simp only [finds, Bool.false_eq_true, not_false_eq_true, List.filter_cons_of_neg,
        List.filter_nil, List.flatMap_nil, List.length_nil, Nat.add_zero]
      cases removed : moment.before.device.removed with
      | true => rwa [moment.deviceMove.removed removed, ← removed]
      | false =>
          rw [removed] at bound
          exact bound.trans (Nat.zero_le _)

/-- **Complaints end with the removal.**

Once the device was found removed it stays so, whatever is torn down, and no line that
complains about a status is written again.  At the moment at which it is found removed
there is no such line, or there is one about the buffer whose refusal tells it; over a
run this is one line at most.

In any state, a transfer that ends as it should or is cancelled leads to no error, and
neither does a frame that is refused on the ground that the device is gone. -/
theorem complaints_end_with_removal (config : Config) (inputs : List Input) :
    let history := (fresh config).history inputs
    Throughout (fun past moment =>
      ((∃ earlier ∈ past, earlier.after.device.removed = true) →
        moment.before.device.removed = true) ∧
      (moment.before.device.removed = true →
        moment.after.device.removed = true ∧ moment.complaints = []) ∧
      (moment.findsRemoval = true → moment.complaints = [] ∨
        ∃ refusal handle, moment.input = .answerRepost (some refusal) ∧ refusal.fatal = true ∧
          moment.complaints = [.repostFailed handle refusal.status])) history ∧
    ((history.filter Moment.findsRemoval).flatMap Moment.complaints).length ≤ 1 ∧
    (∀ moment : Moment, ∀ status ∈ [Status.ok, .killed, .unlinked, .shutdown],
      (∃ transfer, moment.input = .completeReceive transfer ∧ transfer.status = status) ∨
        (∃ address transfer,
          moment.input = .completeTransmit address transfer ∧ transfer.status = status) →
      moment.errors = []) ∧
    ∀ moment : Moment, moment.IsSentInVain → moment.errors = [] := by
  intro history
  refine ⟨?_, ?_, ?_, fun moment => errors_of_isSentInVain⟩
  · intro past moment later split
    obtain ⟨before, input, after, rfl, rfl, rfl, -⟩ := history_eq_append_cons split
    refine ⟨?_, ?_, Moment.complaints_of_findsRemoval⟩
    · rintro ⟨earlier, member, removed⟩
      exact removed_of_past config before member removed
    · intro removed
      exact ⟨(Moment.deviceMove _).removed removed,
        complaints_of_removed (latched_run config before) removed input⟩
  · exact (removal_complaints_run config inputs).trans (Bool.toNat_le _)
  · rintro ⟨engine, input⟩ status benign ended
    have fine : status.hasError = false := by
      clear ended
      revert status
      decide
    rcases ended with ⟨transfer, rfl, rfl⟩ | ⟨address, transfer, rfl, rfl⟩
    · exact errors_completeReceive fine
    · exact errors_completeTransmit address fine

/-- A buffer that is refused tells that the device is gone, and is complained about.
Nothing is written about the next one that fails, although its status is an error. -/
theorem complaints_end_with_removal_late :
    let before := bringUpInputs ++ removalInputs.take 7
    let late : Moment :=
      ⟨((fresh .small).run before).1, .completeReceive ⟨385, ⟨[]⟩, .io 5, 0⟩⟩
    (((fresh .small).history before).filter Moment.findsRemoval).flatMap Moment.complaints =
        [.repostFailed 384 .noDevice] ∧
      late.before.device.removed = true ∧ (Status.io 5).hasError = true ∧
      late.complaints = [] := by
  intro before late
  have facts :
      (((fresh .small).history before).filter Moment.findsRemoval).flatMap Moment.complaints =
        [.repostFailed 384 .noDevice] ∧ ((fresh .small).run before).1.device.removed = true := by
    decide +kernel
  obtain ⟨written, removed⟩ := facts
  obtain ⟨throughout, -⟩ := complaints_end_with_removal .small (before ++ [late.input])
  obtain ⟨-, silent, -⟩ := throughout _ late [] (history_concat (fresh .small) before late.input)
  exact ⟨written, removed, rfl, (silent removed).2⟩

end Engine

end WlanDatapath
