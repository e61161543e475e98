import WlanDatapath.Proofs.SegmentStream

/-!
# Walks over arbitrary octets

What the device reports is untrusted, so a walk has to make sense of any string.
This module says what it makes of one.  The segments it finds, written one behind
the other, are the front of the string, and the first defect that applies to the
octets behind them ends the walk, unless these are too few to look at.

A walker may be asked again after the end.  `Walker.steps` asks any number of times,
and `Walker.steps_start` gives every answer.

Whether the octets at a place hold a segment depends on the length word there alone
(`Segment.Announced`): four comparisons decide it, and where all four succeed the
descriptor behind the word can be read (`Segment.Announced.exists_parse?`).
-/

namespace WlanDatapath

/-- Enough octets store a descriptor. -/
theorem Descriptor.exists_parse? {octets : Octets} (room : size ≤ octets.length) :
    ∃ descriptor, parse? octets = some (descriptor, octets.drop size) := by
  have whole : (octets.take size).length = size := List.length_take_of_le room
  obtain ⟨descriptor, stored, -⟩ := existsUnique_encode whole
  refine ⟨descriptor, ?_⟩
  calc parse? octets = parse? (descriptor.encode ++ octets.drop size) := by
        rw [stored, List.take_append_drop]
    _ = some (descriptor, octets.drop size) := parse?_encode descriptor _

/-- Too few octets store none. -/
theorem Descriptor.parse?_of_short {octets : Octets} (short : octets.length < size) :
    parse? octets = none := by
  rcases parsed : parse? octets with _ | ⟨descriptor, rest⟩
  · rfl
  · have stored := congrArg List.length (encode_parse? parsed)
    rw [List.length_append, length_encode] at stored
    omega

namespace Segment

/-! ## The length word -/

/-- The number that the length word at the front of a string holds. -/
def lengthField : Octets → Nat
  | low :: high :: _ => (Wire.word16 low high).toNat
  | _ => 0

/-- The length word announces a segment that the string holds. -/
structure Announced (octets : Octets) : Prop where
  /-- The string is long enough to be looked at. -/
  long : minimumSize ≤ octets.length
  inside : lengthField octets + framing ≤ octets.length
  aligned : lengthField octets % 4 = 0
  /-- There is room for a descriptor. -/
  roomy : Descriptor.size ≤ lengthField octets

instance (octets : Octets) : Decidable (Announced octets) :=
  decidable_of_iff
    (minimumSize ≤ octets.length ∧ lengthField octets + framing ≤ octets.length ∧
      lengthField octets % 4 = 0 ∧ Descriptor.size ≤ lengthField octets)
    ⟨fun ⟨long, inside, aligned, roomy⟩ => ⟨long, inside, aligned, roomy⟩,
      fun announced =>
        ⟨announced.long, announced.inside, announced.aligned, announced.roomy⟩⟩

/-- The first defect that applies to octets in which no segment stands. -/
def defectOf (octets : Octets) : Defect :=
  let length := lengthField octets
  if length = 0 then .zeroLength
  else if octets.length < length + framing then .overrun length octets.length
  else if length % 4 ≠ 0 then .misaligned length
  else .tooShort length

/-- What ends a walk in front of octets in which no segment stands: a defect, or nothing
when they are too few to look at. -/
def ending? (octets : Octets) : Option Defect :=
  if octets.length < minimumSize then none else some (defectOf octets)

/-! ## What is read at a place -/

variable {octets rest : Octets} {segment : Segment}

theorem exists_trailer? (room : Trailer.size ≤ octets.length) :
    ∃ trailer rest, trailer? octets = some (trailer, rest) := by
  match octets, room with
  | first :: second :: third :: fourth :: rest, _ =>
      exact ⟨⟨Wire.word32 first second third fourth⟩, rest, rfl⟩

/-- The octets that an announced segment counts are a descriptor and a payload. -/
theorem Announced.exists_parse? (announced : Announced octets) :
    ∃ descriptor payload,
      Descriptor.parse? ((octets.drop headerSize).take (lengthField octets)) =
          some (descriptor, payload) ∧
        Descriptor.size + payload.length = lengthField octets := by
  have inside := announced.inside
  have roomy := announced.roomy
  have counted : ((octets.drop headerSize).take (lengthField octets)).length =
      lengthField octets := by
    simp only [List.length_take, List.length_drop, framing] at inside ⊢
    omega
  obtain ⟨descriptor, parsed⟩ := Descriptor.exists_parse? (counted ▸ roomy)
  refine ⟨descriptor, _, parsed, ?_⟩
  rw [List.length_drop, counted]
  omega

/-- An announced segment is read. -/
theorem Announced.exists_read? (announced : Announced octets) :
    ∃ segment rest, read? octets = some (.ok (segment, rest)) ∧
      segment.bodyLength = lengthField octets := by
  obtain ⟨descriptor, payload, parsed, counted⟩ := announced.exists_parse?
  obtain ⟨long, inside, aligned, roomy⟩ := announced
  match octets with
  | low :: high :: spareFirst :: spareSecond :: body =>
      have room : Trailer.size ≤ (body.drop (Wire.word16 low high).toNat).length := by
        simp only [lengthField, framing, headerSize, List.length_cons] at inside
        rw [List.length_drop]
        omega
      obtain ⟨trailer, rest, trailing⟩ := exists_trailer? room
      refine ⟨⟨(spareFirst, spareSecond), descriptor, payload, trailer⟩, rest, ?_, counted⟩
      have nonzero : (Wire.word16 low high).toNat ≠ 0 := by
        have : Descriptor.size ≤ (Wire.word16 low high).toNat := roomy
        simp only [Descriptor.size] at this
        omega
      have held : ¬ (low :: high :: spareFirst :: spareSecond :: body).length <
          (Wire.word16 low high).toNat + framing := Nat.not_lt.mpr inside
      have even : ¬ (Wire.word16 low high).toNat % 4 ≠ 0 := Decidable.not_not.mpr aligned
      have read : Descriptor.parse? (body.take (Wire.word16 low high).toNat) =
          some (descriptor, payload) := parsed
      simp only [read?, read, trailing]
      rw [if_neg (Nat.not_lt.mpr long), if_neg nonzero, if_neg held, if_neg even]
  | [] | [_] | [_, _] | [_, _, _] => simp [minimumSize] at long

theorem not_announced_of_read? (unread : ∀ found, read? octets ≠ some (.ok found)) :
    ¬ Announced octets := by
  intro announced
  obtain ⟨segment, rest, found, -⟩ := announced.exists_read?
  exact unread _ found

/-- Where no segment is announced the walk ends. -/
theorem read?_of_not_announced (unannounced : ¬ Announced octets) :
    read? octets = (ending? octets).map .error := by
  by_cases short : octets.length < minimumSize
  · rw [read?_of_short short, ending?, if_pos short, Option.map_none]
  rw [ending?, if_neg short, Option.map_some]
  match octets with
  | low :: high :: spareFirst :: spareSecond :: body =>
      have field : lengthField (low :: high :: spareFirst :: spareSecond :: body) =
          (Wire.word16 low high).toNat := rfl
      simp only [read?, if_neg short, defectOf, field]
      split
      · rfl
      split
      · rfl
      split
      · rfl
      next overrun misaligned =>
        have cramped : (Wire.word16 low high).toNat < Descriptor.size :=
          Nat.lt_of_not_le fun roomy => unannounced ⟨Nat.not_lt.mp short,
            Nat.not_lt.mp overrun, Decidable.not_not.mp misaligned, roomy⟩
        have unread : Descriptor.parse? (body.take (Wire.word16 low high).toNat) = none :=
          Descriptor.parse?_of_short (Nat.lt_of_le_of_lt (List.length_take_le _ _) cramped)
        rw [unread]
  | [] | [_] | [_, _] | [_, _, _] => simp [minimumSize] at short

/-- A walk complains of the size of a segment only if it has no room for a descriptor. -/
theorem lt_of_ending? {length : Nat} (unannounced : ¬ Announced octets)
    (short : ending? octets = some (.tooShort length)) : length < Descriptor.size := by
  unfold ending? defectOf at short
  dsimp only at short
  split at short
  · contradiction
  next long =>
    split at short
    · simp at short
    split at short
    · simp at short
    next held =>
      split at short
      · simp at short
      next aligned =>
        simp only [Option.some.injEq, Defect.tooShort.injEq] at short
        subst short
        exact Nat.lt_of_not_le fun roomy => unannounced ⟨Nat.not_lt.mp long,
          Nat.not_lt.mp held, Decidable.not_not.mp aligned, roomy⟩

/-- Only an announced segment is read, and its length word is believed. -/
theorem announced_of_read? (read : read? octets = some (.ok (segment, rest))) :
    Announced octets ∧ segment.bodyLength = lengthField octets := by
  have announced : Announced octets := by
    refine Decidable.byContradiction fun unannounced => ?_
    rw [read?_of_not_announced unannounced] at read
    cases ending? octets <;> simp at read
  obtain ⟨other, behind, found, counted⟩ := announced.exists_read?
  rw [read] at found
  cases found
  exact ⟨announced, counted⟩

theorem lengthField_lt (octets : Octets) : lengthField octets < 65536 := by
  unfold lengthField
  split
  · exact UInt16.toNat_lt _
  · decide

/-- Every segment that is read is well formed. -/
theorem wellFormed_of_read? (read : read? octets = some (.ok (segment, rest))) :
    segment.WellFormed := by
  obtain ⟨announced, counted⟩ := announced_of_read? read
  have small := lengthField_lt octets
  have aligned := announced.aligned
  rw [← counted, bodyLength, Descriptor.size] at small aligned
  exact ⟨by omega, by rw [bodyLength, Descriptor.size]; omega⟩

/-- The length word of a written segment holds the length of its body. -/
theorem WellFormed.lengthField_encode (wellFormed : segment.WellFormed) :
    lengthField segment.encode = segment.bodyLength := by
  have small := wellFormed.small
  simp only [encode, Wire.octets16, List.cons_append, lengthField, Wire.word16_octets16]
  rw [UInt16.toNat_ofNat', Nat.mod_eq_of_lt (by omega)]

/-! ## The walk over any octets -/

/-- The segments of a walk, written one behind the other, are the front of the octets, and
what stands behind them ends the walk. -/
theorem exists_walk_split (octets : Octets) :
    ∃ rest, stream (walk octets).1 ++ rest = octets ∧ ¬ Announced rest ∧
      (walk octets).2 = ending? rest := by
  induction octets using walk.induct with
  | case1 octets read =>
      have unannounced : ¬ Announced octets := not_announced_of_read? (by simp [read])
      rw [walk_of_none read]
      refine ⟨octets, rfl, unannounced, ?_⟩
      rw [read?_of_not_announced unannounced] at read
      exact (Option.map_eq_none_iff.mp read).symm
  | case2 octets defect read =>
      have unannounced : ¬ Announced octets := not_announced_of_read? (by simp [read])
      rw [walk_of_error read]
      refine ⟨octets, rfl, unannounced, ?_⟩
      rw [read?_of_not_announced unannounced] at read
      obtain ⟨ending, found, same⟩ := Option.map_eq_some_iff.mp read
      cases same
      exact found.symm
  | case3 octets segment rest read hypothesis =>
      obtain ⟨behind, whole, unannounced, ending⟩ := hypothesis
      rw [walk_of_ok read]
      refine ⟨behind, ?_, unannounced, ending⟩
      rw [stream_cons, List.append_assoc, whole, encode_read? read]

/-- Every segment of a walk is well formed. -/
theorem wellFormed_of_mem_walk (octets : Octets) :
    ∀ segment ∈ (walk octets).1, segment.WellFormed := by
  induction octets using walk.induct with
  | case1 octets read => simp [walk_of_none read]
  | case2 octets defect read => simp [walk_of_error read]
  | case3 octets segment rest read hypothesis =>
      rw [walk_of_ok read, List.forall_mem_cons]
      exact ⟨wellFormed_of_read? read, hypothesis⟩

/-- Every segment takes at least 32 octets. -/
theorem le_length_stream (segments : List Segment) :
    32 * segments.length ≤ (stream segments).length := by
  induction segments with
  | nil => exact Nat.le_refl _
  | cons segment later hypothesis =>
      rw [stream_cons, List.length_append, length_encode, List.length_cons]
      simp only [framing, headerSize, Trailer.size, bodyLength, Descriptor.size]
      omega

end Segment

namespace Walker

/-! ## Asking a walker any number of times -/

/-- What a walker answers when it is asked several times, and where it stands then. -/
def steps (walker : Walker) : Nat → List (Option (Except Defect Segment)) × Walker
  | 0 => ([], walker)
  | count + 1 =>
      let found := walker.next
      let later := found.2.steps count
      (found.1 :: later.1, later.2)

/-- Nothing is found once the walk is over, however often the walker is asked. -/
theorem steps_of_finished {walker : Walker} (finished : walker.finished = true) (count : Nat) :
    walker.steps count = (List.replicate count none, walker) := by
  induction count with
  | zero => rfl
  | succ count hypothesis =>
      rw [steps, next_of_finished finished]
      simp only [hypothesis, List.replicate_succ]

/-- A walker that is asked several times answers with the items of the walk seen whole, and
then with nothing. -/
theorem steps_eq_walk (octets : Octets) (walked count : Nat) :
    let walk := Segment.walk octets
    let asked := steps { rest := octets, walked := walked } count
    asked.1 = (List.range count).map ((items walk)[·]?) ∧
      asked.2.walked = walked + min count walk.1.length := by
  induction octets using Segment.walk.induct generalizing walked count with
  | case1 octets read =>
      cases count with
      | zero => simp [steps]
      | succ count =>
          rw [Segment.walk_of_none read, steps, next_of_none read, steps_of_finished rfl]
          simp [items, List.range_succ_eq_map, Function.comp_def, List.map_const']
  | case2 octets defect read =>
      cases count with
      | zero => simp [steps]
      | succ count =>
          rw [Segment.walk_of_error read, steps, next_of_error read, steps_of_finished rfl]
          simp [items, List.range_succ_eq_map, Function.comp_def, List.map_const']
  | case3 octets segment rest read hypothesis =>
      cases count with
      | zero => simp [steps]
      | succ count =>
          obtain ⟨answers, counted⟩ := hypothesis (walked + 1) count
          rw [Segment.walk_of_ok read, steps, next_of_ok read]
          simp only [answers, counted, List.length_cons]
          refine ⟨?_, by omega⟩
          simp [items, List.range_succ_eq_map, Function.comp_def]

/-- **A walk over any octets finds segments and says why it ends.**

However often a walker is asked, it answers with some segments, then with at most one
defect, and then with nothing; it counts the segments.  These, written one behind the
other with the octets of their length words, are the front of the string, and each is as
long as its length word says.  What ends the walk is decided by the octets behind them:
nothing if these are too few to look at, and otherwise the first defect that applies to
their length word.  The descriptor of a segment can be read wherever one is announced. -/
theorem steps_start (octets : Octets) :
    ∃ (segments : List Segment) (rest : Octets) (ending : Option Defect),
      (∀ count,
        ((start octets).steps count).1 =
            (List.range count).map ((items (segments, ending))[·]?) ∧
          ((start octets).steps count).2.walked = min count segments.length) ∧
      segments.length + ending.toList.length ≤ octets.length / 32 + 1 ∧
      Segment.stream segments ++ rest = octets ∧
      (∀ segment ∈ segments,
        segment.encode.length = Segment.framing + Segment.lengthField segment.encode ∧
          Segment.lengthField segment.encode % 4 = 0 ∧
          Descriptor.size ≤ Segment.lengthField segment.encode) ∧
      ending =
        (if rest.length < Segment.minimumSize then none else some (Segment.defectOf rest)) ∧
      (∀ length, ending = some (.tooShort length) → length < Descriptor.size) ∧
      ∀ place : Octets, Segment.Announced place →
        ∃ descriptor payload,
          Descriptor.parse?
              ((place.drop Segment.headerSize).take (Segment.lengthField place)) =
            some (descriptor, payload) := by
  obtain ⟨rest, split, unannounced, ended⟩ := Segment.exists_walk_split octets
  have formed := Segment.wellFormed_of_mem_walk octets
  refine ⟨(Segment.walk octets).1, rest, (Segment.walk octets).2, fun count => ?_, ?_, split,
    fun segment member => ?_, ended, fun length short => ?_, fun place announced => ?_⟩
  · obtain ⟨answers, counted⟩ := steps_eq_walk octets 0 count
    exact ⟨answers, counted.trans (Nat.zero_add _)⟩
  · have least := Segment.le_length_stream (Segment.walk octets).1
    have whole := congrArg List.length split
    rw [List.length_append] at whole
    have single : (Segment.walk octets).2.toList.length ≤ 1 := by
      cases (Segment.walk octets).2 <;> simp
    omega
  · have wellFormed := formed segment member
    rw [wellFormed.lengthField_encode, Segment.length_encode]
    refine ⟨rfl, ?_, Nat.le_add_right _ _⟩
    have aligned := wellFormed.aligned
    rw [Segment.bodyLength, Descriptor.size]
    omega
  · exact Segment.lt_of_ending? unannounced (ended.symm.trans short)
  · obtain ⟨descriptor, payload, parsed, -⟩ := announced.exists_parse?
    exact ⟨descriptor, payload, parsed⟩

/-- A segment with one word of payload, and behind it a length word too small for a
descriptor. -/
theorem steps_start_tooShort :
    let first : Segment := ⟨(7, 9), .blank, [1, 2, 3, 4], ⟨0⟩⟩
    let behind : Octets := 8 :: List.replicate 35 0
    let octets := first.encode ++ behind
    ((start octets).steps 4).1 =
        [some (.ok first), some (.error (.tooShort 8)), none, none] ∧
      ((start octets).steps 4).2.walked = 1 ∧
      Segment.defectOf behind = .tooShort 8 ∧ 8 < Descriptor.size := by
  intro first behind octets
  have read : Segment.read? octets = some (.ok (first, behind)) :=
    Segment.read?_encode first behind (by decide) (by decide) (by decide)
  have walk : (start octets).steps 4 =
      ([some (.ok first), some (.error (.tooShort 8)), none, none], ⟨behind, 1, true⟩) := by
    rw [start, steps, next_of_ok read, steps, next_of_error rfl, steps_of_finished rfl]
    rfl
  have answered := congrArg Prod.fst walk
  have walked := congrArg (fun asked => asked.2.walked) walk
  dsimp only at answered walked
  have told : ∀ {only other : Segment} {ending : Option Defect} {defect : Defect},
      [some (.ok only), some (.error defect), none, none] =
          (List.range 4).map ((items ([other], ending))[·]?) →
        only = other ∧ ending = some defect := by
    intro only other ending defect same
    cases ending <;> simp_all [items, List.range_succ_eq_map]
  obtain ⟨segments, rest, ending, asked, -, split, -, ended, cramped, -⟩ := steps_start octets
  obtain ⟨answers, counted⟩ := asked 4
  rw [walked] at counted
  rw [answered] at answers
  obtain ⟨only, rfl⟩ := List.length_eq_one_iff.mp (show segments.length = 1 by omega)
  obtain ⟨rfl, short⟩ := told answers
  obtain rfl : rest = behind := List.append_cancel_left split
  refine ⟨answered, walked, ?_, cramped 8 short⟩
  rw [short] at ended
  simpa [behind, Segment.minimumSize] using ended.symm

end Walker

end WlanDatapath
