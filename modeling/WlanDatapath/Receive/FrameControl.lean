import WlanDatapath.Wire.Octets

/-!
# The frame control field and the length of a MAC header

The first word of an 802.11 frame decides how long the MAC header is.  This
module reads the kind of frame and the bits that lengthen its header, and gives
the header length both of a field alone and of the frame in a buffer.

The length read from a buffer is `0` when it cannot be trusted: the buffer is
shorter than the shortest header, or shorter than the header it announces.  It
therefore never exceeds the buffer (`headerLengthOf_le`).
-/

namespace WlanDatapath

/-- The four kinds of 802.11 frames. -/
inductive FrameKind where
  | management
  | control
  | data
  | extension
deriving DecidableEq, Repr

/-- The frame control field of an 802.11 frame. -/
structure FrameControl where
  /-- The field as a word. -/
  word : UInt16
deriving DecidableEq, Repr

namespace FrameControl

/-! ## Reading the field -/

/-- The kind of frame, stored in bits 2 and 3. -/
def kind (control : FrameControl) : FrameKind :=
  match control.word.toNat / 4 % 4 with
  | 0 => .management
  | 1 => .control
  | 2 => .data
  | _ => .extension

/-- Both distribution system bits are set: the frame carries a fourth address. -/
def hasFourthAddress (control : FrameControl) : Bool :=
  control.word.toNat.testBit 8 && control.word.toNat.testBit 9

/-- A data frame with quality-of-service control. -/
def hasQualityOfService (control : FrameControl) : Bool :=
  control.word.toNat.testBit 7

/-- The order bit: the header carries a high-throughput control field. -/
def hasOrder (control : FrameControl) : Bool :=
  control.word.toNat.testBit 15

/-- Clear-to-send and acknowledgement frames, which name one station only. -/
def isShortControl (control : FrameControl) : Bool :=
  control.word.toNat / 32 % 8 == 6

/-! ## Header length -/

/-- The shortest header of any control frame, and so the least to look at. -/
def minimumHeaderLength : Nat := 10

/-- The length of the MAC header that the field announces. -/
def headerLength (control : FrameControl) : Nat :=
  match control.kind with
  | .extension => 4
  | .control => if control.isShortControl then 10 else 16
  | .management => if control.hasOrder then 28 else 24
  | .data =>
      (if control.hasFourthAddress then 30 else 24) +
        (if control.hasQualityOfService then
          (if control.hasOrder then 6 else 2)
        else 0)

end FrameControl

/-- The header length of the frame at the front of a buffer, or `0` when the
buffer is too short to be trusted. -/
def headerLengthOf (octets : Octets) : Nat :=
  match octets with
  | low :: high :: _ =>
      if octets.length < FrameControl.minimumHeaderLength then 0
      else
        let length := (FrameControl.mk (Wire.word16 low high)).headerLength
        if octets.length < length then 0 else length
  | _ => 0

/-- A header never reaches past the buffer it was read from. -/
theorem headerLengthOf_le (octets : Octets) :
    headerLengthOf octets ≤ octets.length := by
  unfold headerLengthOf
  split
  · dsimp only
    split
    · exact Nat.zero_le _
    · split
      · exact Nat.zero_le _
      · exact Nat.le_of_not_lt ‹_›
  · exact Nat.zero_le _

/-- A trusted header is at least as long as the field that announces it. -/
theorem two_le_headerLengthOf {octets : Octets} (trusted : 0 < headerLengthOf octets) :
    2 ≤ headerLengthOf octets := by
  unfold headerLengthOf at trusted ⊢
  split
  · simp only at trusted ⊢
    split
    · simp_all
    · split
      · simp_all
      · unfold FrameControl.headerLength
        repeat' split
        all_goals omega
  · simp_all

/-- The header length depends on the field and on the length of the buffer
alone. -/
theorem headerLengthOf_congr {left right : Octets} (field : left.take 2 = right.take 2)
    (size : left.length = right.length) : headerLengthOf left = headerLengthOf right := by
  match left, right with
  | [], [] => rfl
  | [_], [_] => rfl
  | low :: high :: body, low' :: high' :: body' =>
      simp only [List.take_succ_cons, List.take_zero, List.cons.injEq, and_true] at field
      obtain ⟨rfl, rfl⟩ := field
      simp only [headerLengthOf, size]
  | [], _ :: _ | _ :: _, [] | [_], _ :: _ :: _ | _ :: _ :: _, [_] => simp at size

end WlanDatapath
