import WlanDatapath.Wire.Octets
import WlanDatapath.Wire.NamedBits

/-!
# The receive descriptor and the trailing word

The adapter puts a 24-octet descriptor, the RXWI, in front of every received
payload and one word, the FCE information, behind it.  This module gives both as
records with named fields.

The descriptor has a reader and a writer; `Descriptor.parse?_encode` and
`Descriptor.encode_parse?` say that they undo each other, so no octet of the
descriptor is lost.
-/

namespace WlanDatapath

/-! ## The descriptor -/

/-- The descriptor in front of a received payload. -/
structure Descriptor where
  /-- Flags about the received frame. -/
  info : UInt32
  /-- Key, station and length information. -/
  control : UInt32
  /-- Traffic identifier and sequence number. -/
  tidSequence : UInt16
  /-- The rate the frame was received at. -/
  rate : UInt16
  /-- An octet without a known meaning. -/
  unknown : UInt8
  /-- Three octets the adapter always leaves zero. -/
  zero : UInt8 × UInt8 × UInt8
  /-- Signal to noise ratio of the two chains. -/
  snr : UInt8 × UInt8
  antenna : UInt8
  gain : UInt8
  frequencyOffset : UInt8
  /-- Reserved. -/
  reservedSecond : UInt8
  /-- Antenna selection of the expert mode. -/
  expertAntenna : UInt8
  /-- Reserved. -/
  reservedThird : UInt8
deriving DecidableEq, Repr

namespace Descriptor

/-- Octets in a stored descriptor. -/
def size : Nat := 24

/-- The descriptor whose octets are all zero. -/
def blank : Descriptor where
  info := 0
  control := 0
  tidSequence := 0
  rate := 0
  unknown := 0
  zero := (0, 0, 0)
  snr := (0, 0)
  antenna := 0
  gain := 0
  frequencyOffset := 0
  reservedSecond := 0
  expertAntenna := 0
  reservedThird := 0

/-- Read a descriptor from the front of a string, and leave the rest. -/
def parse? : Octets → Option (Descriptor × Octets)
  | i0 :: i1 :: i2 :: i3 :: c0 :: c1 :: c2 :: c3 :: t0 :: t1 :: r0 :: r1 ::
      unknown :: z0 :: z1 :: z2 :: s0 :: s1 :: antenna :: gain :: offset ::
      second :: expert :: third :: rest =>
      some (
        { info := Wire.word32 i0 i1 i2 i3
          control := Wire.word32 c0 c1 c2 c3
          tidSequence := Wire.word16 t0 t1
          rate := Wire.word16 r0 r1
          unknown := unknown
          zero := (z0, z1, z2)
          snr := (s0, s1)
          antenna := antenna
          gain := gain
          frequencyOffset := offset
          reservedSecond := second
          expertAntenna := expert
          reservedThird := third }, rest)
  | _ => none

/-- The 24 octets that store a descriptor. -/
def encode (descriptor : Descriptor) : Octets :=
  Wire.octets32 descriptor.info ++ Wire.octets32 descriptor.control ++
    Wire.octets16 descriptor.tidSequence ++ Wire.octets16 descriptor.rate ++
    [descriptor.unknown, descriptor.zero.1, descriptor.zero.2.1, descriptor.zero.2.2,
      descriptor.snr.1, descriptor.snr.2, descriptor.antenna, descriptor.gain,
      descriptor.frequencyOffset, descriptor.reservedSecond,
      descriptor.expertAntenna, descriptor.reservedThird]

@[simp]
theorem length_encode (descriptor : Descriptor) :
    descriptor.encode.length = size := rfl

@[simp]
theorem parse?_encode (descriptor : Descriptor) (rest : Octets) :
    parse? (descriptor.encode ++ rest) = some (descriptor, rest) := by
  simp [encode, parse?, Wire.octets32, Wire.octets16]

/-- What was read is what was stored. -/
theorem encode_parse? {octets rest : Octets} {descriptor : Descriptor}
    (read : parse? octets = some (descriptor, rest)) :
    descriptor.encode ++ rest = octets := by
  unfold parse? at read
  split at read
  · simp only [Option.some.injEq, Prod.mk.injEq] at read
    obtain ⟨rfl, rfl⟩ := read
    simp [encode]
  · contradiction

/-- The flags of a received frame. -/
def infoBits : Wire.BitTable :=
  [(0, "BA"), (1, "DATA"), (2, "NULL"), (3, "FRAG"), (4, "U2M"), (5, "MULTICAST"),
    (6, "BROADCAST"), (7, "MYBSS"), (8, "CRCERR"), (9, "ICVERR"), (10, "MICERR"),
    (11, "AMSDU"), (12, "HTC"), (13, "RSSI"), (14, "L2PAD"), (15, "AMPDU"),
    (16, "DECRYPT")]

/-- Two pad octets stand between the MAC header and the frame body. -/
def isPadded (descriptor : Descriptor) : Bool :=
  descriptor.info.toNat.testBit 14

/-- One of the octets that must be zero is not. -/
def hasNonzeroReserved (descriptor : Descriptor) : Bool :=
  descriptor.zero != (0, 0, 0)

/-- The length of the received frame, as the adapter counted it. -/
def frameLength (descriptor : Descriptor) : Nat :=
  descriptor.control.toNat / 65536 % 4096

end Descriptor

/-! ## The trailing word -/

/-- The word behind a received payload. -/
structure Trailer where
  word : UInt32
deriving DecidableEq, Repr

namespace Trailer

/-- Octets in a stored trailer. -/
def size : Nat := 4

/-- The kind of segment, in the two highest bits. -/
def kind (trailer : Trailer) : Nat :=
  trailer.word.toNat >>> 30

/-- The segment carries a received packet. -/
def isPacket (trailer : Trailer) : Bool :=
  trailer.kind == 0

/-- The length field of the trailer. -/
def length (trailer : Trailer) : Nat :=
  trailer.word.toNat % 16384

end Trailer

end WlanDatapath
