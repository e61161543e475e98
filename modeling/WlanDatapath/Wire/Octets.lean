/-!
# Octets and little-endian words

Everything that crosses the bus is a string of octets, and every word in it is
stored least significant octet first.  This module supplies the octet strings
and, for each word width in use, a reader and a writer.

The main statements say that reader and writer undo each other in both
directions, so a word and its stored form carry the same information.
-/

namespace WlanDatapath

/-- A string of octets in memory order. -/
abbrev Octets := List UInt8

namespace Wire

/-! ## Sixteen-bit words -/

/-- The word stored as `low` followed by `high`. -/
def word16 (low high : UInt8) : UInt16 :=
  UInt16.ofNat (low.toNat + 256 * high.toNat)

/-- The two octets that store a word. -/
def octets16 (word : UInt16) : Octets :=
  [word.toUInt8, UInt8.ofNat (word.toNat / 256)]

theorem toNat_word16 (low high : UInt8) :
    (word16 low high).toNat = low.toNat + 256 * high.toNat := by
  have lowBound := low.toNat_lt
  have highBound := high.toNat_lt
  simp only [word16, UInt16.toNat_ofNat']
  omega

@[simp]
theorem length_octets16 (word : UInt16) : (octets16 word).length = 2 := rfl

@[simp]
theorem octets16_word16 (low high : UInt8) :
    octets16 (word16 low high) = [low, high] := by
  have lowBound := low.toNat_lt
  have highBound := high.toNat_lt
  simp only [octets16, toNat_word16, List.cons.injEq, and_true]
  constructor <;> apply UInt8.toNat_inj.mp <;>
    simp only [UInt8.toNat_ofNat', UInt16.toNat_toUInt8, toNat_word16] <;> omega

@[simp]
theorem word16_octets16 (word : UInt16) :
    word16 word.toUInt8 (UInt8.ofNat (word.toNat / 256)) = word := by
  have bound := word.toNat_lt
  apply UInt16.toNat_inj.mp
  simp only [toNat_word16, UInt8.toNat_ofNat', UInt16.toNat_toUInt8]
  omega

/-! ## Thirty-two-bit words -/

/-- The word stored as four octets, the least significant one first. -/
def word32 (first second third fourth : UInt8) : UInt32 :=
  UInt32.ofNat
    (first.toNat + 256 * second.toNat + 65536 * third.toNat + 16777216 * fourth.toNat)

/-- The four octets that store a word. -/
def octets32 (word : UInt32) : Octets :=
  [word.toUInt8, UInt8.ofNat (word.toNat / 256),
    UInt8.ofNat (word.toNat / 65536), UInt8.ofNat (word.toNat / 16777216)]

theorem toNat_word32 (first second third fourth : UInt8) :
    (word32 first second third fourth).toNat =
      first.toNat + 256 * second.toNat + 65536 * third.toNat +
        16777216 * fourth.toNat := by
  have firstBound := first.toNat_lt
  have secondBound := second.toNat_lt
  have thirdBound := third.toNat_lt
  have fourthBound := fourth.toNat_lt
  simp only [word32, UInt32.toNat_ofNat']
  omega

@[simp]
theorem length_octets32 (word : UInt32) : (octets32 word).length = 4 := rfl

@[simp]
theorem octets32_word32 (first second third fourth : UInt8) :
    octets32 (word32 first second third fourth) = [first, second, third, fourth] := by
  have firstBound := first.toNat_lt
  have secondBound := second.toNat_lt
  have thirdBound := third.toNat_lt
  have fourthBound := fourth.toNat_lt
  simp only [octets32, toNat_word32, List.cons.injEq, and_true]
  refine ⟨?_, ?_, ?_, ?_⟩ <;> apply UInt8.toNat_inj.mp <;>
    simp only [UInt8.toNat_ofNat', UInt32.toNat_toUInt8, toNat_word32] <;> omega

@[simp]
theorem word32_octets32 (word : UInt32) :
    word32 word.toUInt8 (UInt8.ofNat (word.toNat / 256))
      (UInt8.ofNat (word.toNat / 65536)) (UInt8.ofNat (word.toNat / 16777216)) =
        word := by
  have bound := word.toNat_lt
  apply UInt32.toNat_inj.mp
  simp only [toNat_word32, UInt8.toNat_ofNat', UInt32.toNat_toUInt8]
  omega

end Wire

end WlanDatapath
