import WlanDatapath.Wire.NamedBits

/-!
# Anomalies that are reported once

Sustained corruption would flood the log with equal lines, so each kind of
anomaly is reported at most once.  A word remembers the kinds already reported,
one bit each.
-/

namespace WlanDatapath

/-- The kinds of anomalies that are reported once. -/
inductive Anomaly where
  | receiveMismatch
  | transmitMismatch
  | reservedNotZero
  | notPacket
  | zeroLength
  | misaligned
  | overrun
  | tooShort
  | receiveRingFull
deriving DecidableEq, Repr

namespace Anomaly

/-- The place of an anomaly in the word of reported ones. -/
def bit : Anomaly → Nat
  | .receiveMismatch => 0
  | .transmitMismatch => 1
  | .reservedNotZero => 2
  | .notPacket => 3
  | .zeroLength => 4
  | .misaligned => 5
  | .overrun => 6
  | .tooShort => 7
  | .receiveRingFull => 8

/-- The word in which only this anomaly is set. -/
def word (anomaly : Anomaly) : UInt32 :=
  1 <<< UInt32.ofNat anomaly.bit

/-- The names of all anomalies. -/
def bits : Wire.BitTable :=
  [(0, "RX_URB_MISMATCH"), (1, "TX_URB_MISMATCH"), (2, "RXWI_ZERO"), (3, "NON_PKT"),
    (4, "SEG_LEN_ZERO"), (5, "SEG_MISALIGNED"), (6, "SEG_OVERRUN"), (7, "SEG_SHORT"),
    (8, "RX_RING_FULL")]

end Anomaly

/-- The anomalies already reported. -/
structure Reported where
  /-- One bit for each kind. -/
  word : UInt32 := 0
deriving DecidableEq, Repr

namespace Reported

/-- Report a set of kinds.  The answer is whether none of them was reported
before. -/
def report (reported : Reported) (kinds : UInt32) : Bool × Reported :=
  (reported.word &&& kinds == 0, ⟨reported.word ||| kinds⟩)

/-- The word of the kinds that exist. -/
def known (reported : Reported) : UInt32 :=
  Anomaly.bits.known reported.word

/-- The names of the kinds reported, in order. -/
def names (reported : Reported) : List String :=
  Anomaly.bits.names reported.word

/-- Reporting the same kinds again is no news. -/
theorem report_report_of_ne_zero (reported : Reported) {kinds : UInt32} (nonzero : kinds ≠ 0) :
    ((reported.report kinds).2.report kinds).1 = false := by
  have absorbed : (reported.word ||| kinds) &&& kinds = kinds := by
    apply UInt32.toNat_inj.mp
    apply Nat.eq_of_testBit_eq
    intro index
    simp only [UInt32.toNat_and, UInt32.toNat_or, Nat.testBit_and, Nat.testBit_or]
    cases kinds.toNat.testBit index <;> simp
  simp [report, absorbed, nonzero]

end Reported

end WlanDatapath
