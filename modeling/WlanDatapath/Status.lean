/-!
# The outcome of a transfer

Every bulk transfer ends with a status.  A status knows whether it is an error,
whether it means that the device is gone, its error number and its texts.

Cancelled transfers are not errors: only statuses that nobody asked for are
(`Status.hasError`).
-/

namespace WlanDatapath

/-- How a transfer ended. -/
inductive Status where
  | ok
  | noDevice
  | shutdown
  /-- The transfer was killed by its owner. -/
  | killed
  /-- The transfer was unlinked by its owner. -/
  | unlinked
  | poisoned
  /-- Any other error, by its number. -/
  | io (code : Int32)
deriving DecidableEq, Repr

namespace Status

/-- The transfer completed. -/
def isOk (status : Status) : Bool :=
  status == .ok

/-- The transfer neither completed nor was cancelled on request. -/
def hasError : Status → Bool
  | .ok | .killed | .unlinked | .shutdown => false
  | .noDevice | .poisoned | .io _ => true

/-- The status by itself says that the device is gone. -/
def isFatal : Status → Bool
  | .noDevice | .shutdown => true
  | .ok | .killed | .unlinked | .poisoned | .io _ => false

/-- The error number of a status. -/
def errno : Status → Int
  | .ok => 0
  | .noDevice => -19
  | .shutdown => -108
  | .killed => -2
  | .unlinked => -104
  | .poisoned => -1
  | .io code => code.toInt

/-- The name of a status, with its number where the name alone is not enough. -/
def name : Status → String
  | .ok => "Ok"
  | .noDevice => "NoDevice"
  | .shutdown => "Shutdown"
  | .killed => "Killed"
  | .unlinked => "Unlinked"
  | .poisoned => "Poisoned"
  | .io code => s!"Io({code.toInt})"

/-- The text of a status in a log line. -/
def text : Status → String
  | .ok => "ok"
  | .io code => toString code.toInt
  | status => s!"{status.errno} ({status.name})"

@[simp]
theorem isOk_iff (status : Status) : status.isOk = true ↔ status = .ok := by
  simp [isOk]

/-- A completed transfer is no error. -/
@[simp]
theorem hasError_ok : hasError .ok = false := rfl

end Status

end WlanDatapath
