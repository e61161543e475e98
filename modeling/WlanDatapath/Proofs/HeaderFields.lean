import Mathlib.Order.Bounds.Basic
import WlanDatapath.Proofs.Wrapping

/-!
# The fields of a header word

The flags and the four fields of a header word stand at places of their own.  The length
field has the lowest sixteen bits, and the defined flags stay between it and the queue
selector, which begins at bit 25; destination and cargo follow.  So each of them can be
read back whatever the others are (`HeaderWord.fields_read_back`), and a word tells all
that went into it but the length, of which it tells the rounded value modulo 65536.
-/

namespace WlanDatapath

/-- Rounding up finds the least multiple of four that is not below a length. -/
theorem isLeast_roundUp (length : Nat) :
    IsLeast { multiple | 4 ∣ multiple ∧ length ≤ multiple } (roundUp length) := by
  refine ⟨⟨Nat.dvd_of_mod_eq_zero (roundUp_mod length), le_roundUp length⟩, ?_⟩
  rintro multiple ⟨divides, above⟩
  have below := roundUp_lt length
  have rounded := roundUp_mod length
  omega

theorem largestRoundable_eq : largestRoundable = 2 ^ 64 - 4 := rfl

theorem Destination.code_injective {first second : Destination}
    (same : first.code.toNat = second.code.toNat) : first = second := by
  cases first <;> cases second <;> trivial

theorem Cargo.code_injective {first second : Cargo}
    (same : first.code.toNat = second.code.toNat) : first = second := by
  cases first <;> cases second <;> trivial

namespace HeaderWord

/-! ## Defined flags -/

/-- The defined flags, as a number. -/
theorem toNat_mask : bits.mask.toNat = 315 * 2 ^ 16 := by
  decide

section Defined

variable {flags : UInt32}

theorem and_mask_of_defined (defined : bits.known flags = flags) :
    flags.toNat &&& bits.mask.toNat = flags.toNat := by
  rw [← UInt32.toNat_and]
  exact congrArg UInt32.toNat defined

/-- The defined flags stay below the queue selector. -/
theorem lt_of_defined (defined : bits.known flags = flags) : flags.toNat < 2 ^ 25 := by
  have within : flags.toNat ≤ bits.mask.toNat := by
    rw [← and_mask_of_defined defined]
    exact Nat.and_le_right
  rw [toNat_mask] at within
  omega

/-- The defined flags stay above the length field. -/
theorem mod_of_defined (defined : bits.known flags = flags) : flags.toNat % 2 ^ 16 = 0 := by
  rw [← and_mask_of_defined defined, toNat_mask, Nat.and_mod_two_pow, Nat.mul_mod_left,
    Nat.and_zero]

end Defined

/-! ## Reading back -/

section Packed

variable {flags : UInt32} (length : Nat) (selector : QueueSelector) (destination : Destination)
  (cargo : Cargo)

/-- The bits from the queue selector on. -/
theorem shiftRight_word_pack (defined : bits.known flags = flags) :
    (pack flags length selector destination cargo).word.toNat >>> 25 =
      selector.code.toNat ||| destination.code.toNat * 2 ^ 2 ||| cargo.code.toNat * 2 ^ 5 := by
  have flagsBelow : flags.toNat >>> 25 = 0 := by
    rw [Nat.shiftRight_eq_div_pow, Nat.div_eq_of_lt (lt_of_defined defined)]
  have lengthBelow : (roundUp length % 2 ^ 16) >>> 25 = 0 := by
    rw [Nat.shiftRight_eq_div_pow]
    omega
  have selectorAt : (selector.code.toNat * 2 ^ 25) >>> 25 = selector.code.toNat := by
    rw [Nat.shiftRight_eq_div_pow, Nat.mul_div_cancel _ (by decide)]
  have destinationAt : (destination.code.toNat * 2 ^ 27) >>> 25 =
      destination.code.toNat * 2 ^ 2 := by
    rw [Nat.shiftRight_eq_div_pow]
    omega
  have cargoAt : (cargo.code.toNat * 2 ^ 30) >>> 25 = cargo.code.toNat * 2 ^ 5 := by
    rw [Nat.shiftRight_eq_div_pow]
    omega
  simp only [toNat_word_pack, Nat.shiftRight_or_distrib, flagsBelow, lengthBelow, selectorAt,
    destinationAt, cargoAt, Nat.zero_or]

theorem length_pack (defined : bits.known flags = flags) :
    (pack flags length selector destination cargo).length = roundUp length % 2 ^ 16 := by
  have selectorAbove : selector.code.toNat * 2 ^ 25 % 2 ^ 16 = 0 := by
    cases selector <;> rfl
  have destinationAbove : destination.code.toNat * 2 ^ 27 % 2 ^ 16 = 0 := by
    cases destination <;> rfl
  have cargoAbove : cargo.code.toNat * 2 ^ 30 % 2 ^ 16 = 0 := by
    cases cargo <;> rfl
  show (pack flags length selector destination cargo).word.toNat % 2 ^ 16 = _
  simp only [toNat_word_pack, Nat.or_mod_two_pow, mod_of_defined defined, selectorAbove,
    destinationAbove, cargoAbove, Nat.mod_mod, Nat.zero_or, Nat.or_zero]

theorem selector_pack (defined : bits.known flags = flags) :
    (pack flags length selector destination cargo).selector = selector := by
  rw [HeaderWord.selector, shiftRight_word_pack length selector destination cargo defined]
  cases selector <;> cases destination <;> cases cargo <;> rfl

theorem destinationCode_pack (defined : bits.known flags = flags) :
    (pack flags length selector destination cargo).destinationCode = destination.code.toNat := by
  rw [destinationCode, Nat.shiftRight_add _ 25 2,
    shiftRight_word_pack length selector destination cargo defined]
  cases selector <;> cases destination <;> cases cargo <;> rfl

theorem cargoCode_pack (defined : bits.known flags = flags) :
    (pack flags length selector destination cargo).cargoCode = cargo.code.toNat := by
  rw [cargoCode, Nat.shiftRight_add _ 25 5,
    shiftRight_word_pack length selector destination cargo defined]
  cases selector <;> cases destination <;> cases cargo <;> rfl

/-- No field touches a defined flag. -/
theorem known_word_pack (defined : bits.known flags = flags) :
    bits.known (pack flags length selector destination cargo).word = flags := by
  have lengthClear : roundUp length % 2 ^ 16 &&& 315 * 2 ^ 16 = 0 := by
    have low : roundUp length % 2 ^ 16 < 2 ^ 16 := Nat.mod_lt _ (by decide)
    have within : roundUp length % 2 ^ 16 &&& 315 * 2 ^ 16 < 2 ^ 16 :=
      Nat.lt_of_le_of_lt Nat.and_le_left low
    rw [← Nat.mod_eq_of_lt within, Nat.and_mod_two_pow, Nat.mul_mod_left, Nat.and_zero]
  have selectorClear : selector.code.toNat * 2 ^ 25 &&& 315 * 2 ^ 16 = 0 := by
    cases selector <;> rfl
  have destinationClear : destination.code.toNat * 2 ^ 27 &&& 315 * 2 ^ 16 = 0 := by
    cases destination <;> rfl
  have cargoClear : cargo.code.toNat * 2 ^ 30 &&& 315 * 2 ^ 16 = 0 := by
    cases cargo <;> rfl
  have flagsKept := and_mask_of_defined defined
  apply UInt32.toNat_inj.mp
  rw [Wire.BitTable.known, UInt32.toNat_and, toNat_word_pack]
  simp only [Nat.and_or_distrib_right, flagsKept]
  simp only [toNat_mask, lengthClear, selectorClear, destinationClear, cargoClear, Nat.or_zero]

theorem pack?_of_le (flags : UInt32) (fits : length ≤ 2 ^ 64 - 4) :
    pack? flags length selector destination cargo =
      .ok (pack flags length selector destination cargo) := by
  rw [pack?, if_pos (largestRoundable_eq ▸ fits)]

end Packed

/-- A word tells its flags and fields, and of the length what its field can hold. -/
theorem pack_eq_iff {flags other : UInt32} {length otherLength : Nat}
    {selector otherSelector : QueueSelector} {destination otherDestination : Destination}
    {cargo otherCargo : Cargo} (defined : bits.known flags = flags)
    (otherDefined : bits.known other = other) :
    pack other otherLength otherSelector otherDestination otherCargo =
        pack flags length selector destination cargo ↔
      other = flags ∧ roundUp otherLength % 2 ^ 16 = roundUp length % 2 ^ 16 ∧
        otherSelector = selector ∧ otherDestination = destination ∧ otherCargo = cargo := by
  constructor
  · intro same
    have sameFlags := congrArg (fun header => bits.known header.word) same
    have sameLength := congrArg HeaderWord.length same
    have sameSelector := congrArg HeaderWord.selector same
    have sameDestination := congrArg destinationCode same
    have sameCargo := congrArg cargoCode same
    simp only [known_word_pack, defined, otherDefined] at sameFlags
    rw [length_pack _ _ _ _ otherDefined, length_pack _ _ _ _ defined] at sameLength
    rw [selector_pack _ _ _ _ otherDefined, selector_pack _ _ _ _ defined] at sameSelector
    rw [destinationCode_pack _ _ _ _ otherDefined, destinationCode_pack _ _ _ _ defined]
      at sameDestination
    rw [cargoCode_pack _ _ _ _ otherDefined, cargoCode_pack _ _ _ _ defined] at sameCargo
    exact ⟨sameFlags, sameLength, sameSelector, Destination.code_injective sameDestination,
      Cargo.code_injective sameCargo⟩
  · rintro ⟨rfl, sameLength, rfl, rfl, rfl⟩
    rw [mk.injEq, ← UInt32.toNat_inj, toNat_word_pack, toNat_word_pack, sameLength]

/-- The fields of a header word do not interfere.  For every set of defined flags, every
length that can be rounded up within 64 bits, every queue selector, destination and cargo
there is a word, from which the rounded length modulo 65536, the other fields and the flags
can be read back.  So two words are equal exactly when all of these are. -/
theorem fields_read_back (flags : UInt32) (length : Nat) (selector : QueueSelector)
    (destination : Destination) (cargo : Cargo) (defined : bits.known flags = flags)
    (fits : length ≤ 2 ^ 64 - 4) :
    ∃ header, pack? flags length selector destination cargo = .ok header ∧
      header.length = roundUp length % 2 ^ 16 ∧
      header.selector = selector ∧
      header.destinationCode = destination.code.toNat ∧
      header.cargoCode = cargo.code.toNat ∧
      bits.known header.word = flags ∧
      (∀ other otherLength otherSelector otherDestination otherCargo,
        bits.known other = other → otherLength ≤ 2 ^ 64 - 4 →
        (pack? other otherLength otherSelector otherDestination otherCargo = .ok header ↔
          other = flags ∧ roundUp otherLength % 2 ^ 16 = roundUp length % 2 ^ 16 ∧
            otherSelector = selector ∧ otherDestination = destination ∧
            otherCargo = cargo)) ∧
      roundUp? length = .ok (roundUp length) ∧
      IsLeast { multiple | 4 ∣ multiple ∧ length ≤ multiple } (roundUp length) := by
  refine ⟨_, pack?_of_le length selector destination cargo flags fits,
    length_pack length selector destination cargo defined,
    selector_pack length selector destination cargo defined,
    destinationCode_pack length selector destination cargo defined,
    cargoCode_pack length selector destination cargo defined,
    known_word_pack length selector destination cargo defined, ?_, ?_, isLeast_roundUp length⟩
  · intro other otherLength otherSelector otherDestination otherCargo otherDefined otherFits
    rw [pack?_of_le _ _ _ _ _ otherFits, Except.ok.injEq]
    exact pack_eq_iff defined otherDefined
  · rw [roundUp?, if_pos (largestRoundable_eq ▸ fits)]

/-- The fields of a command for the processor that is too long for the length field. -/
theorem fields_read_back_command :
    let flags : UInt32 := nativeFrame ||| keyInFrame
    bits.known flags = flags ∧ 65533 ≤ 2 ^ 64 - 4 ∧
      ∃ header, pack? flags 65533 .distributed .processor .command = .ok header ∧
        header.length = 0 ∧ header.selector = .distributed ∧ header.destinationCode = 2 ∧
        header.cargoCode = 1 ∧ bits.known header.word = flags := by
  intro flags
  have defined : bits.known flags = flags := by decide
  have fits : 65533 ≤ 2 ^ 64 - 4 := by decide
  obtain ⟨header, packed, length, selector, destination, cargo, known, -⟩ :=
    fields_read_back flags 65533 .distributed .processor .command defined fits
  exact ⟨defined, fits, header, packed, length, selector, destination, cargo, known⟩

end HeaderWord

end WlanDatapath
