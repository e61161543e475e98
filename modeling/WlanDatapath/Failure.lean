import WlanDatapath.Status

/-!
# Failures of the data path

An operation that fails says why.  A `Failure` is a condition that callers are
expected to handle; a `Misuse` is a call that breaks the terms of the operation,
after which nothing further is promised.  A `Fault` is either.

Each failure has one text and one error number.
-/

namespace WlanDatapath

/-! ## Failures -/

/-- A condition under which an operation fails. -/
inductive Failure where
  | outOfMemory
  | queueFull
  | invalidQueue (queue : UInt8)
  | invalidConfig
  | notReady
  | noDevice
  | submit (status : Status)
deriving DecidableEq, Repr

namespace Failure

/-- The failure that a refused transfer amounts to. -/
def ofStatus (status : Status) : Failure :=
  if status.isFatal then .noDevice else .submit status

/-- The error number of a failure. -/
def errno : Failure → Int
  | .outOfMemory => -12
  | .queueFull => -28
  | .invalidQueue _ => -22
  | .invalidConfig => -22
  | .notReady => -11
  | .noDevice => -19
  | .submit status => status.errno

/-- The text of a failure. -/
def message : Failure → String
  | .outOfMemory => "Out of memory"
  | .queueFull => "TX queue full"
  | .invalidQueue queue => s!"No output endpoint for hw queue {queue.toNat}"
  | .invalidConfig => "Invalid DMA configuration"
  | .notReady => "DMA engine not running"
  | .noDevice => "Device removed"
  | .submit status => s!"URB submit failed: {status.text}"

theorem ofStatus_eq_noDevice_iff (status : Status) :
    ofStatus status = .noDevice ↔ status.isFatal = true := by
  unfold ofStatus
  split <;> simp_all

end Failure

/-! ## Misuse -/

/-- A call that breaks the terms of an operation. -/
inductive Misuse where
  /-- A ring without slots was asked for. -/
  | zeroCapacity
  /-- Rounding a length up leaves the 64-bit range. -/
  | lengthOverflow
  /-- A frame that is wrapped already was to be wrapped. -/
  | wrappedTwice
deriving DecidableEq, Repr

namespace Misuse

/-- The text of a misuse. -/
def message : Misuse → String
  | .zeroCapacity => "ring capacity must be non-zero"
  | .lengthOverflow => "attempt to add with overflow"
  | .wrappedTwice => "frame wrapped twice"

end Misuse

/-- Why an operation gave no result. -/
inductive Fault where
  | failure (failure : Failure)
  | misuse (misuse : Misuse)
deriving DecidableEq, Repr

end WlanDatapath
