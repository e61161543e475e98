import WlanDatapath.Failure
import WlanDatapath.Wire.NamedBits

/-!
# The word in front of a transmitted transfer

Every bulk-out transfer starts with one word, the TXINFO, that tells the adapter
how long the transfer is, which queue it belongs to, where it goes and what kind
it is, besides a few flags.  This module packs that word and reads its fields
back.

The length field has sixteen bits and holds the length rounded up to a multiple
of four.  Flags are kept as they are given, so undefined bits pass through.
-/

namespace WlanDatapath

/-! ## Lengths -/

/-- The least multiple of four that is not below a length. -/
def roundUp (length : Nat) : Nat :=
  (length + 3) / 4 * 4

/-- The largest length whose rounding stays within 64 bits. -/
def largestRoundable : Nat := 1 <<< 64 - 4

/-- Round a 64-bit length up, unless the result leaves the range. -/
def roundUp? (length : Nat) : Except Misuse Nat :=
  if length ≤ largestRoundable then .ok (roundUp length) else .error .lengthOverflow

theorem le_roundUp (length : Nat) : length ≤ roundUp length := by
  unfold roundUp
  omega

theorem roundUp_lt (length : Nat) : roundUp length < length + 4 := by
  unfold roundUp
  omega

@[simp]
theorem roundUp_mod (length : Nat) : roundUp length % 4 = 0 := by
  simp [roundUp]

/-! ## Fields -/

/-- The queue of the adapter that a transfer is meant for. -/
inductive QueueSelector where
  | management
  | controlled
  | distributed
  | distributedSecond
deriving DecidableEq, Repr

/-- The stored form of a queue selector. -/
def QueueSelector.code : QueueSelector → UInt32
  | .management => 0
  | .controlled => 1
  | .distributed => 2
  | .distributedSecond => 3

/-- The queue selector with a stored form of two bits. -/
def QueueSelector.ofCode (code : Nat) : QueueSelector :=
  match code % 4 with
  | 0 => .management
  | 1 => .controlled
  | 2 => .distributed
  | _ => .distributedSecond

/-- The part of the adapter that a transfer is meant for. -/
inductive Destination where
  | radio
  | processor
deriving DecidableEq, Repr

/-- The stored form of a destination. -/
def Destination.code : Destination → UInt32
  | .radio => 0
  | .processor => 2

/-- What a transfer carries. -/
inductive Cargo where
  | packet
  | command
deriving DecidableEq, Repr

/-- The stored form of a kind of cargo. -/
def Cargo.code : Cargo → UInt32
  | .packet => 0
  | .command => 1

/-! ## The word -/

/-- The word in front of a transmitted transfer. -/
structure HeaderWord where
  /-- The word as stored. -/
  word : UInt32
deriving DecidableEq, Repr

namespace HeaderWord

/-- Octets in a stored header word. -/
def size : Nat := 4

/-- The flags of a transmitted transfer. -/
def bits : Wire.BitTable :=
  [(16, "NEXT_VLD"), (17, "TX_BURST"), (19, "PKT_80211"), (20, "TSO"), (21, "CSO"),
    (24, "WIV")]

/-- The frame is an 802.11 frame. -/
def nativeFrame : UInt32 := 0x80000

/-- The adapter finds the key information in the frame itself. -/
def keyInFrame : UInt32 := 0x1000000

/-- The word for a transfer of `length` octets. -/
def pack (flags : UInt32) (length : Nat) (selector : QueueSelector)
    (destination : Destination) (cargo : Cargo) : HeaderWord where
  word :=
    flags ||| UInt32.ofNat (roundUp length % 65536) ||| (selector.code <<< 25) |||
      (destination.code <<< 27) ||| (cargo.code <<< 30)

/-- The word for a transfer of a 64-bit length, unless rounding the length
leaves the range. -/
def pack? (flags : UInt32) (length : Nat) (selector : QueueSelector)
    (destination : Destination) (cargo : Cargo) : Except Misuse HeaderWord :=
  if length ≤ largestRoundable then .ok (pack flags length selector destination cargo)
  else .error .lengthOverflow

/-- The length field. -/
def length (header : HeaderWord) : Nat :=
  header.word.toNat % 65536

/-- The queue selector field. -/
def selector (header : HeaderWord) : QueueSelector :=
  QueueSelector.ofCode (header.word.toNat >>> 25)

/-- The destination field, as a number. -/
def destinationCode (header : HeaderWord) : Nat :=
  header.word.toNat >>> 27 % 8

/-- The cargo field, as a number. -/
def cargoCode (header : HeaderWord) : Nat :=
  header.word.toNat >>> 30

end HeaderWord

end WlanDatapath
