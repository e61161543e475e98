import WlanDatapath.Status

/-!
# Transfers

A transfer pairs a handle, which the transport issued, with what is carried.  It
is bound before submission and completed by the transport with a status and the
number of octets moved.
-/

namespace WlanDatapath

/-- The identity of a transfer handle. -/
abbrev Handle := UInt32

/-- A transfer on its way to the device or back. -/
structure Transfer (Content : Type) where
  /-- The handle the transfer travels on. -/
  handle : Handle
  /-- What the transfer carries. -/
  content : Content
  /-- How the transfer ended. -/
  status : Status := .ok
  /-- Octets moved, as reported by the device. -/
  length : Nat := 0
deriving DecidableEq, Repr

namespace Transfer

variable {Content : Type}

/-- A fresh transfer of `content` on `handle`. -/
def bind (handle : Handle) (content : Content) : Transfer Content where
  handle := handle
  content := content

/-- Record how the transfer ended. -/
def complete (transfer : Transfer Content) (status : Status) (length : Nat) :
    Transfer Content :=
  { transfer with status := status, length := length }

@[simp]
theorem handle_complete (transfer : Transfer Content) (status : Status) (length : Nat) :
    (transfer.complete status length).handle = transfer.handle := rfl

@[simp]
theorem content_complete (transfer : Transfer Content) (status : Status) (length : Nat) :
    (transfer.complete status length).content = transfer.content := rfl

end Transfer

end WlanDatapath
