import WlanDatapath.Receive.Padding

/-!
# What extraction copies

Where a descriptor flags pad octets, extraction leaves two octets of the payload out.
They stand behind the MAC header, whose length is read from the payload without its last
two octets, so that the header and the pad octets together always fit
(`headerLengthOf_add_padSize_le`).  A payload too short for pad octets gives the empty
frame.

The memory that was asked for is exactly what the frame takes
(`length_of_extract`), and on frames with a trusted header length extraction undoes the
insertion of any two pad octets.  `extract_exact` puts this together.
-/

namespace WlanDatapath

section

variable {payload : Octets}

/-- The header and the pad octets behind it are in the payload. -/
theorem headerLengthOf_add_padSize_le (room : padSize ≤ payload.length) :
    headerLengthOf (payload.take (payload.length - padSize)) + padSize ≤ payload.length := by
  have bound := headerLengthOf_le (payload.take (payload.length - padSize))
  rw [List.length_take] at bound
  omega

/-- Two neighbouring octets are taken out by erasing the later one first. -/
theorem eraseIdx_eraseIdx_succ {index : Nat} (inside : index + 2 ≤ payload.length) :
    (payload.eraseIdx (index + 1)).eraseIdx index =
      payload.take index ++ payload.drop (index + 2) := by
  have front : (payload.take (index + 1)).length = index + 1 :=
    List.length_take_of_le (by omega)
  rw [List.eraseIdx_eq_take_drop_succ, List.eraseIdx_eq_take_drop_succ,
    List.take_append_of_le_length (by omega), List.take_take, Nat.min_eq_left (by omega),
    List.drop_left' front]

/-- The two octets behind the header are left out, and nothing else. -/
theorem unpad_eq_eraseIdx (room : padSize ≤ payload.length) :
    let header := headerLengthOf (payload.take (payload.length - padSize))
    unpad payload = (payload.eraseIdx (header + 1)).eraseIdx header := by
  intro header
  rw [eraseIdx_eraseIdx_succ (headerLengthOf_add_padSize_le room)]
  rfl

/-- A payload without room for pad octets carries nothing. -/
theorem unpad_of_short (short : payload.length < padSize) : unpad payload = [] := by
  rw [← List.length_eq_zero_iff, length_unpad]
  omega

variable {memory : Memory} {descriptor : Descriptor} {frame : Octets}

/-- The frame takes exactly the memory that was asked for. -/
theorem length_of_extract
    (extracted : extract memory descriptor payload = .ok frame) :
    frame.length = extractedSize descriptor.isPadded payload := by
  unfold extract at extracted
  split at extracted
  · cases extracted
    cases descriptor.isPadded
    · rfl
    · exact length_unpad payload
  · contradiction

/-- Padded frames with a trusted header length are extracted as they were, if there is
memory for them. -/
theorem extract_pad (padded : descriptor.isPadded = true)
    (trusted : 0 < headerLengthOf frame) (granted : memory frame.length = true)
    (padding : UInt8 × UInt8) :
    extract memory descriptor (pad padding frame) = .ok frame := by
  have size : extractedSize descriptor.isPadded (pad padding frame) = frame.length := by
    rw [extractedSize, if_pos padded, length_pad, Nat.add_sub_cancel]
  rw [extract, if_pos (size ▸ granted), if_pos padded, unpad_pad trusted]

end

/-- **Extraction drops two pad octets behind the header, and nothing else.**

For every descriptor and payload there is a frame if the memory for it is granted, and
otherwise the failure says that it is not.  An unflagged payload is the frame.  In a flagged
one the header length is that of the payload without its last two octets; the two octets
behind the header are erased, which are in the payload, and a payload of fewer than two
octets gives the empty frame.  No more is copied than was reserved.  A flagged frame with a
trusted header length and any two octets behind its header is extracted without these. -/
theorem extract_exact (memory : Memory) (descriptor : Descriptor) (payload : Octets) :
    let header := headerLengthOf (payload.take (payload.length - padSize))
    let reserved := extractedSize descriptor.isPadded payload
    extract memory descriptor payload =
        (if memory reserved then
          .ok (if descriptor.isPadded then
              if payload.length < padSize then []
              else (payload.eraseIdx (header + 1)).eraseIdx header
            else payload)
        else .error .outOfMemory) ∧
      header ≤ payload.length ∧
      (padSize ≤ payload.length → header + padSize ≤ payload.length) ∧
      (∀ frame, extract memory descriptor payload = .ok frame → frame.length ≤ reserved) ∧
      ∀ (frame : Octets) (padding : UInt8 × UInt8), descriptor.isPadded = true →
        0 < headerLengthOf frame → memory frame.length = true →
          extract memory descriptor
              (frame.take (headerLengthOf frame) ++ [padding.1, padding.2] ++
                frame.drop (headerLengthOf frame)) = .ok frame := by
  intro header reserved
  refine ⟨?_, ?_, headerLengthOf_add_padSize_le, fun frame extracted => ?_,
    fun frame padding padded trusted granted => ?_⟩
  · unfold extract
    congr 2
    by_cases short : payload.length < padSize
    · rw [if_pos short, unpad_of_short short]
    · rw [if_neg short, unpad_eq_eraseIdx (Nat.le_of_not_lt short)]
  · exact Nat.le_trans (headerLengthOf_le _) (List.length_take_le' _ _)
  · exact Nat.le_of_eq (length_of_extract extracted)
  · exact extract_pad padded trusted granted padding

/-- A data frame with a header of 24 octets, padded and not. -/
theorem extract_exact_data :
    let descriptor := { Descriptor.blank with info := 0x4000 }
    let header : Octets := 8 :: List.replicate 23 1
    let body : Octets := [5, 6, 7]
    let granted : Memory := fun size => size < 28
    headerLengthOf (header ++ body) = 24 ∧
      extract granted descriptor (header ++ [0xee, 0xdd] ++ body) = .ok (header ++ body) ∧
      extract granted .blank (header ++ [0xee, 0xdd] ++ body) = .error .outOfMemory := by
  intro descriptor header body granted
  have trusted : headerLengthOf (header ++ body) = 24 := by decide
  obtain ⟨-, -, -, -, padded⟩ := extract_exact granted descriptor []
  obtain ⟨whole, -⟩ := extract_exact granted .blank (header ++ [0xee, 0xdd] ++ body)
  refine ⟨trusted, ?_, whole.trans rfl⟩
  have extracted := padded (header ++ body) (0xee, 0xdd) (by decide) (by decide) (by decide)
  rw [trusted] at extracted
  exact extracted

end WlanDatapath
