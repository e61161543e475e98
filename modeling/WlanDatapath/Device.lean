/-!
# The life of a device

A device is created, runs, may be found removed while it runs, and is dead once
it is torn down.  Beside its stage of life it has a latch that remembers the
removal for good and two flags about reading statistics.

Removal only matters to logging: a removed device still accepts frames and
completions until it is dead (`Device.accepts`).
-/

namespace WlanDatapath

/-- The stages in the life of a device. -/
inductive Stage where
  | created
  | running
  | removed
  | dead
deriving DecidableEq, Repr

/-- The stage of life of a device, its removal latch and its statistics flags. -/
structure Device where
  /-- The stage of life. -/
  stage : Stage := .created
  /-- The device was found removed.  Never cleared. -/
  removed : Bool := false
  /-- Frames were completed since statistics were last asked for. -/
  moreStatistics : Bool := false
  /-- Statistics have been asked for and not yet been read. -/
  readingStatistics : Bool := false
deriving DecidableEq, Repr

namespace Device

/-! ## Stages -/

/-- Received buffers are decoded and frames are submitted. -/
def accepts (device : Device) : Bool :=
  device.stage == .running || device.stage == .removed

/-- Start a device that was just created.  The answer is whether it started. -/
def start (device : Device) : Bool × Device :=
  if device.stage = .created then (true, { device with stage := .running })
  else (false, device)

/-- Note that the device is gone.  The answer is whether this is news.  A device
that never started cannot be removed. -/
def noteRemoval (device : Device) : Bool × Device :=
  match device.stage with
  | .created => (false, device)
  | .running => (!device.removed, { device with stage := .removed, removed := true })
  | .removed | .dead => (!device.removed, { device with removed := true })

/-- End the life of the device. -/
def kill (device : Device) : Device :=
  { device with stage := .dead }

/-! ## Statistics -/

/-- Note that another frame was completed. -/
def noteCompletion (device : Device) : Device :=
  { device with moreStatistics := true }

/-- Take the note that frames were completed.  The answer is whether there was one. -/
def takeCompletions (device : Device) : Bool × Device :=
  (device.moreStatistics, { device with moreStatistics := false })

/-- Claim the reading of statistics.  The answer is whether it was claimed
already. -/
def claimReading (device : Device) : Bool × Device :=
  (device.readingStatistics, { device with readingStatistics := true })

/-- Give up the reading of statistics. -/
def releaseReading (device : Device) : Device :=
  { device with readingStatistics := false }

/-! ## Elementary facts -/

@[simp]
theorem accepts_kill (device : Device) : device.kill.accepts = false := rfl

/-- Finding a running device removed does not stop it. -/
@[simp]
theorem accepts_noteRemoval (device : Device) :
    device.noteRemoval.2.accepts = device.accepts := by
  obtain ⟨stage, removed, more, reading⟩ := device
  cases stage <;> rfl

/-- The latch is set after any report of removal on a started device. -/
theorem removed_noteRemoval {device : Device} (started : device.stage ≠ .created) :
    device.noteRemoval.2.removed = true := by
  obtain ⟨stage, removed, more, reading⟩ := device
  cases stage
  case created => exact absurd rfl started
  all_goals rfl

end Device

end WlanDatapath
