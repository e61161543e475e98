import WlanDatapath.Receive.Descriptor

/-!
# Segments of a received transfer

One bulk-in transfer carries several received frames, each in a segment: a
length word, two spare octets, the descriptor, the payload and the trailing
word.  The length word counts the descriptor and the payload.

`Segment.encode` writes a segment and `Segment.read?` reads the one at the front
of a string.  Reading needs 36 octets although the smallest segment has 32, so
the two are inverse except at the very end of a transfer
(`Segment.read?_encode`).  A string that is long enough but holds no segment is
classified by the first `Defect` that applies.
-/

namespace WlanDatapath

/-- One segment of a received transfer. -/
structure Segment where
  /-- The two octets behind the length word. -/
  spare : UInt8 × UInt8
  descriptor : Descriptor
  payload : Octets
  trailer : Trailer
deriving DecidableEq, Repr

/-- Why the octets at the front of a string are no segment. -/
inductive Defect where
  | zeroLength
  /-- The segment reaches past the end of the string. -/
  | overrun (length remaining : Nat)
  | misaligned (length : Nat)
  /-- The segment has no room for a descriptor. -/
  | tooShort (length : Nat)
deriving DecidableEq, Repr

/-- The text of a defect in a log line. -/
def Defect.text : Defect → String
  | .zeroLength => "ZeroLength"
  | .overrun length remaining =>
      s!"Overrun \x7b dma_len: {length}, remaining: {remaining} \x7d"
  | .misaligned length => s!"Misaligned({length})"
  | .tooShort length => s!"TooShort({length})"

/-- Why a well-formed segment is not delivered. -/
inductive Rejection where
  /-- A reserved octet of the descriptor is not zero. -/
  | reservedNotZero
  /-- The trailer marks something other than a packet. -/
  | notPacket (kind : Nat)
deriving DecidableEq, Repr

/-- The text of a rejection in a log line. -/
def Rejection.text : Rejection → String
  | .reservedNotZero => "RxwiZero"
  | .notPacket kind => s!"NonPacket({kind})"

namespace Segment

/-! ## Written form -/

/-- Octets in front of the descriptor. -/
def headerSize : Nat := 4

/-- Octets of a segment that its length word does not count. -/
def framing : Nat := headerSize + Trailer.size

/-- The least number of octets in which a segment is looked for. -/
def minimumSize : Nat := 36

/-- The number that the length word holds. -/
def bodyLength (segment : Segment) : Nat :=
  Descriptor.size + segment.payload.length

/-- The octets of a segment, in memory order. -/
def encode (segment : Segment) : Octets :=
  Wire.octets16 (UInt16.ofNat segment.bodyLength) ++
    [segment.spare.1, segment.spare.2] ++ segment.descriptor.encode ++
    segment.payload ++ Wire.octets32 segment.trailer.word

@[simp]
theorem length_encode (segment : Segment) :
    segment.encode.length = framing + segment.bodyLength := by
  simp [encode, framing, bodyLength, headerSize, Descriptor.size, Trailer.size]
  omega

/-! ## Reading -/

/-- Read a trailer from the front of a string, and leave the rest. -/
def trailer? : Octets → Option (Trailer × Octets)
  | first :: second :: third :: fourth :: rest =>
      some (⟨Wire.word32 first second third fourth⟩, rest)
  | _ => none

/-- Read the segment at the front of a string, and leave the rest.  The result
is `none` at the end of a transfer. -/
def read? (octets : Octets) : Option (Except Defect (Segment × Octets)) :=
  match octets with
  | low :: high :: spareFirst :: spareSecond :: body =>
      let length := (Wire.word16 low high).toNat
      if octets.length < minimumSize then none
      else if length = 0 then some (.error .zeroLength)
      else if octets.length < length + framing then
        some (.error (.overrun length octets.length))
      else if length % 4 ≠ 0 then some (.error (.misaligned length))
      else
        match Descriptor.parse? (body.take length), trailer? (body.drop length) with
        | some (descriptor, payload), some (trailer, rest) =>
            some (.ok (⟨(spareFirst, spareSecond), descriptor, payload, trailer⟩, rest))
        | _, _ => some (.error (.tooShort length))
  | _ => none

/-- What was read as a segment is what stood there. -/
theorem encode_read? {octets rest : Octets} {segment : Segment}
    (read : read? octets = some (.ok (segment, rest))) :
    segment.encode ++ rest = octets := by
  unfold read? at read
  split at read
  next low high spareFirst spareSecond body =>
    dsimp only at read
    split at read
    · simp at read
    split at read
    · simp at read
    split at read
    · simp at read
    split at read
    · simp at read
    split at read
    next fits _ _ _ descriptor payload trailer remaining parsed trailing =>
      simp only [Option.some.injEq, Except.ok.injEq, Prod.mk.injEq] at read
      obtain ⟨rfl, rfl⟩ := read
      have stored := Descriptor.encode_parse? parsed
      have bodyLength : ((body.take (Wire.word16 low high).toNat)).length =
          (Wire.word16 low high).toNat := by
        simp only [List.length_take]
        simp only [List.length_cons, framing, headerSize, Trailer.size] at fits
        omega
      have counted : Descriptor.size + payload.length = (Wire.word16 low high).toNat := by
        rw [← bodyLength, ← stored, List.length_append, Descriptor.length_encode]
      unfold trailer? at trailing
      split at trailing
      next first second third fourth tail dropped =>
        simp only [Option.some.injEq, Prod.mk.injEq] at trailing
        obtain ⟨rfl, rfl⟩ := trailing
        have whole : body = descriptor.encode ++ payload ++
            ([first, second, third, fourth] ++ tail) := by
          rw [stored, List.cons_append, List.cons_append, List.cons_append,
            List.cons_append, List.nil_append, ← dropped, List.take_append_drop]
        have lengthWord : Segment.bodyLength
            ⟨(spareFirst, spareSecond), descriptor, payload,
              ⟨Wire.word32 first second third fourth⟩⟩ =
            (Wire.word16 low high).toNat := counted
        simp only [encode, lengthWord, UInt16.ofNat_toNat, Wire.octets16_word16,
          Wire.octets32_word32]
        rw [whole]
        simp
      next => contradiction
    next => simp at read
  next => simp at read

/-- A segment whose length word can hold its length is read back from the front
of any string, unless the string ends before a segment is looked for. -/
theorem read?_encode (segment : Segment) (rest : Octets)
    (aligned : segment.payload.length % 4 = 0)
    (small : segment.bodyLength < 65536)
    (room : minimumSize ≤ segment.encode.length + rest.length) :
    read? (segment.encode ++ rest) = some (.ok (segment, rest)) := by
  obtain ⟨⟨spareFirst, spareSecond⟩, descriptor, payload, trailer⟩ := segment
  have counted : (UInt16.ofNat (Descriptor.size + payload.length)).toNat =
      Descriptor.size + payload.length := by
    simp only [bodyLength] at small
    simp only [UInt16.toNat_ofNat']
    omega
  have regroup : descriptor.encode ++ payload ++
      (Wire.octets32 trailer.word ++ rest) =
        descriptor.encode ++ (payload ++ (Wire.octets32 trailer.word ++ rest)) := by
    simp
  have size : (descriptor.encode ++ payload).length =
      Descriptor.size + payload.length := by
    simp
  rw [length_encode] at room
  simp only [minimumSize, framing, headerSize, Trailer.size, bodyLength,
    Descriptor.size] at room
  unfold encode bodyLength
  dsimp only at aligned ⊢
  generalize UInt16.ofNat (Descriptor.size + payload.length) = lengthWord at counted ⊢
  simp only [Wire.octets16, List.cons_append, List.nil_append, List.append_assoc, read?,
    Wire.word16_octets16]
  rw [counted, ← regroup, List.take_left' size, List.drop_left' size, Descriptor.parse?_encode]
  simp only [List.length_cons, List.length_append, Descriptor.length_encode,
    Wire.length_octets32, Descriptor.size, minimumSize, framing, headerSize,
    Trailer.size]
  rw [if_neg (by omega), if_neg (by omega), if_neg (by omega)]
  have whole : (24 + payload.length) % 4 = 0 := by omega
  simp [trailer?, Wire.octets32, whole]

/-- Reading a segment uses up part of the string. -/
theorem length_lt_of_read? {octets rest : Octets} {segment : Segment}
    (read : read? octets = some (.ok (segment, rest))) :
    rest.length < octets.length := by
  rw [← encode_read? read, List.length_append, length_encode]
  simp only [framing, headerSize, Trailer.size]
  omega

/-! ## Checks -/

/-- Why the segment is not delivered, if it is not.  A descriptor that breaks
its own rule is reported before a trailer of the wrong kind. -/
def rejection? (segment : Segment) : Option Rejection :=
  if segment.descriptor.hasNonzeroReserved then some .reservedNotZero
  else if segment.trailer.isPacket then none
  else some (.notPacket segment.trailer.kind)

end Segment

end WlanDatapath
