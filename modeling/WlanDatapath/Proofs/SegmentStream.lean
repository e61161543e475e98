import Mathlib.Logic.ExistsUnique
import WlanDatapath.Receive.Walker

/-!
# Streams of segments

An adapter aggregates segments by writing them one behind the other.  This
module says what a walk over such a stream finds: the segments that were
written, and then whatever a walk over the octets behind them finds by itself,
be they further segments, a defect or nothing.

The one place where the stream and its walk disagree is the end of a transfer.
A segment is looked for in 36 octets and the smallest one has 32, so a last
segment without payload goes unnoticed when fewer than four octets follow it
(`CutShort`).
-/

namespace WlanDatapath

/-! ## Descriptors as octets -/

/-- Any 24 octets store exactly one descriptor. -/
theorem Descriptor.existsUnique_encode {octets : Octets} (whole : octets.length = size) :
    ∃! descriptor : Descriptor, descriptor.encode = octets := by
  obtain ⟨descriptor, stored⟩ : ∃ descriptor : Descriptor, descriptor.encode = octets := by
    rcases parsed : parse? octets with _ | ⟨descriptor, rest⟩
    · exfalso
      unfold parse? at parsed
      split at parsed
      · contradiction
      next short =>
        match octets, whole with
        | [_, _, _, _, _, _, _, _, _, _, _, _, _, _, _, _, _, _, _, _, _, _, _, _], _ =>
            exact short _ _ _ _ _ _ _ _ _ _ _ _ _ _ _ _ _ _ _ _ _ _ _ _ _ rfl
    · have stored := encode_parse? parsed
      have nothing : rest = [] := by
        have counted := congrArg List.length stored
        rw [List.length_append, length_encode, whole] at counted
        exact List.length_eq_zero_iff.mp (by omega)
      exact ⟨descriptor, by rw [← stored, nothing, List.append_nil]⟩
  refine ⟨descriptor, stored, fun other same => ?_⟩
  -- Reading undoes writing, so two descriptors with the same octets are one.
  have readOther := parse?_encode other []
  have readThis := parse?_encode descriptor []
  dsimp only at same
  rw [same, ← stored, readThis] at readOther
  simpa using readOther.symm

namespace Segment

/-! ## The walk, one segment at a time -/

variable {octets rest : Octets} {segment : Segment}

theorem walk_of_none (read : read? octets = none) : walk octets = ([], none) := by
  rw [walk]
  split <;> simp_all

theorem walk_of_error {defect : Defect} (read : read? octets = some (.error defect)) :
    walk octets = ([], some defect) := by
  rw [walk]
  split <;> simp_all

theorem walk_of_ok (read : read? octets = some (.ok (segment, rest))) :
    walk octets = (segment :: (walk rest).1, (walk rest).2) := by
  rw [walk]
  split <;> simp_all

/-- In too few octets no segment is looked for. -/
theorem read?_of_short (short : octets.length < minimumSize) : read? octets = none := by
  unfold read?
  split
  · rw [if_pos short]
  · rfl

/-! ## Well-formed segments and their streams -/

/-- The payload fills whole words and the length word can hold the length. -/
structure WellFormed (segment : Segment) : Prop where
  aligned : segment.payload.length % 4 = 0
  small : segment.bodyLength ≤ 65532

/-- The octets of several segments, one behind the other. -/
def stream (segments : List Segment) : Octets :=
  segments.flatMap encode

@[simp]
theorem stream_nil : stream [] = [] := rfl

@[simp]
theorem stream_cons (segment : Segment) (segments : List Segment) :
    stream (segment :: segments) = segment.encode ++ stream segments := rfl

/-- The last of the segments has no payload and fewer than four octets follow
it. -/
def CutShort (segments : List Segment) (tail : Octets) : Prop :=
  (∃ last ∈ segments.getLast?, last.payload = []) ∧ tail.length < 4

instance (segments : List Segment) (tail : Octets) : Decidable (CutShort segments tail) :=
  inferInstanceAs (Decidable ((∃ last ∈ segments.getLast?, last.payload = []) ∧ _))

/-- The walk steps over a well-formed segment with enough octets behind its
descriptor. -/
theorem walk_encode (wellFormed : segment.WellFormed)
    (room : 4 ≤ segment.payload.length + rest.length) :
    walk (segment.encode ++ rest) = (segment :: (walk rest).1, (walk rest).2) := by
  have small := wellFormed.small
  refine walk_of_ok (read?_encode segment rest wellFormed.aligned (by omega) ?_)
  simp only [length_encode, minimumSize, framing, headerSize, Trailer.size, bodyLength,
    Descriptor.size]
  omega

/-- The walk does not look at a segment without payload at the very end. -/
theorem walk_encode_of_cutShort (empty : segment.payload = []) (short : rest.length < 4) :
    walk (segment.encode ++ rest) = ([], none) := by
  refine walk_of_none (read?_of_short ?_)
  simp only [List.length_append, length_encode, minimumSize, framing, headerSize,
    Trailer.size, bodyLength, Descriptor.size, empty, List.length_nil]
  omega

/-- The walk over a stream is the walk over the octets behind it with the
written segments in front. -/
theorem walk_stream {segments : List Segment} {tail : Octets}
    (wellFormed : ∀ segment ∈ segments, segment.WellFormed)
    (whole : ¬ CutShort segments tail) :
    walk (stream segments ++ tail) = (segments ++ (walk tail).1, (walk tail).2) := by
  induction segments with
  | nil => simp
  | cons first later hypothesis =>
      obtain ⟨firstFormed, laterFormed⟩ := List.forall_mem_cons.mp wellFormed
      have laterWhole : ¬ CutShort later tail := by
        rintro ⟨⟨last, isLast, empty⟩, short⟩
        exact whole ⟨⟨last, by cases later <;> simp_all, empty⟩, short⟩
      have room : 4 ≤ first.payload.length + (stream later ++ tail).length := by
        cases later with
        | nil =>
            -- The first segment is also the last, so it may not be cut short.
            have aligned := firstFormed.aligned
            simp only [CutShort, List.getLast?_singleton, Option.mem_some_iff,
              exists_eq_left'] at whole
            by_cases empty : first.payload = []
            · simp_all
            · have := List.length_pos_iff.mpr empty
              omega
        | cons second others =>
            simp only [stream_cons, List.length_append, length_encode, framing,
              headerSize, Trailer.size]
            omega
      rw [stream_cons, List.append_assoc, walk_encode firstFormed room,
        hypothesis laterFormed laterWhole, List.cons_append]

/-- A stream that is cut short is walked up to its last segment, which is not
noticed. -/
theorem walk_stream_of_cutShort {segments : List Segment} {tail : Octets}
    (wellFormed : ∀ segment ∈ segments, segment.WellFormed)
    (short : CutShort segments tail) :
    walk (stream segments ++ tail) = (segments.dropLast, none) := by
  obtain ⟨⟨last, isLast, empty⟩, few⟩ := short
  obtain ⟨earlier, rfl⟩ := List.getLast?_eq_some_iff.mp isLast
  have remainder : walk (last.encode ++ tail) = ([], none) :=
    walk_encode_of_cutShort empty few
  have behind : ¬ CutShort earlier (last.encode ++ tail) := by
    rintro ⟨-, few⟩
    simp only [List.length_append, length_encode, framing, headerSize, Trailer.size] at few
    omega
  have regroup : stream (earlier ++ [last]) ++ tail =
      stream earlier ++ (last.encode ++ tail) := by
    simp [stream]
  rw [regroup, walk_stream (fun segment member => wellFormed segment (by simp [member])) behind,
    remainder, List.append_nil, List.dropLast_concat]

end Segment

namespace Walker

/-! ## What a walker finds next -/

section Next

variable {octets rest : Octets} {segment : Segment} {defect : Defect} {walked : Nat}

theorem next_of_none (read : Segment.read? octets = none) :
    next { rest := octets, walked := walked } =
      (none, { rest := octets, walked := walked, finished := true }) := by
  simp [next, read]

theorem next_of_error (read : Segment.read? octets = some (.error defect)) :
    next { rest := octets, walked := walked } =
      (some (.error defect), { rest := octets, walked := walked, finished := true }) := by
  simp [next, read]

theorem next_of_ok (read : Segment.read? octets = some (.ok (segment, rest))) :
    next { rest := octets, walked := walked } =
      (some (.ok segment), { rest := rest, walked := walked + 1 }) := by
  simp [next, read]

end Next

/-! ## All that a walker finds -/

/-- Steps a walker can still take. -/
def remaining (walker : Walker) : Nat :=
  if walker.finished then 0 else walker.rest.length + 1

/-- Finding something is progress. -/
theorem remaining_lt_of_next {walker after : Walker} {item : Except Defect Segment}
    (found : walker.next = (some item, after)) : after.remaining < walker.remaining := by
  obtain ⟨rest, walked, finished⟩ := walker
  unfold next at found
  split at found
  · simp at found
  next going =>
    simp only [Bool.not_eq_true] at going
    subst going
    split at found
    · simp at found
    · cases found
      simp [remaining]
    next read =>
      cases found
      have shorter := Segment.length_lt_of_read? read
      simpa [remaining] using shorter

/-- All that the walker finds until it finds nothing, and where it stands
then. -/
def exhaust (walker : Walker) : List (Except Defect Segment) × Walker :=
  match _ : walker.next with
  | (none, after) => ([], after)
  | (some item, after) =>
      let later := exhaust after
      (item :: later.1, later.2)
termination_by walker.remaining
decreasing_by exact remaining_lt_of_next ‹_›

theorem exhaust_of_none {walker after : Walker} (found : walker.next = (none, after)) :
    walker.exhaust = ([], after) := by
  rw [exhaust]
  split <;> simp_all

theorem exhaust_of_some {walker after : Walker} {item : Except Defect Segment}
    (found : walker.next = (some item, after)) :
    walker.exhaust = (item :: after.exhaust.1, after.exhaust.2) := by
  rw [exhaust]
  split <;> simp_all

/-- What a walk seen whole consists of, as the items a walker finds. -/
def items (walk : List Segment × Option Defect) : List (Except Defect Segment) :=
  walk.1.map .ok ++ walk.2.toList.map .error

/-- A walker finds the segments of the walk seen whole and counts them. -/
theorem exhaust_eq_walk (octets : Octets) (walked : Nat) :
    let walk := Segment.walk octets
    let found := exhaust { rest := octets, walked := walked }
    found.1 = items walk ∧ found.2.walked = walked + walk.1.length := by
  induction octets using Segment.walk.induct generalizing walked with
  | case1 octets read =>
      rw [Segment.walk_of_none read, exhaust_of_none (next_of_none read)]
      simp [items]
  | case2 octets defect read =>
      rw [Segment.walk_of_error read, exhaust_of_some (next_of_error read),
        exhaust_of_none (next_of_finished rfl)]
      simp [items]
  | case3 octets segment rest read hypothesis =>
      obtain ⟨found, counted⟩ := hypothesis (walked + 1)
      rw [Segment.walk_of_ok read, exhaust_of_some (next_of_ok read)]
      simp only [found, counted, items, List.map_cons, List.cons_append, List.length_cons,
        true_and]
      omega

/-! ## The walk over a stream -/

/-- A walk over a stream of well-formed segments finds those segments in order,
with the descriptor, the payload and the trailer that were written, and then
exactly what a walk over the octets behind the stream finds; it counts both.
Only a last segment without payload that fewer than four octets follow is not
found.  A descriptor is any 24 octets. -/
theorem exhaust_stream (segments : List Segment) (tail : Octets)
    (wellFormed : ∀ segment ∈ segments, segment.WellFormed) :
    let found := (start (Segment.stream segments ++ tail)).exhaust
    let behind := (start tail).exhaust
    (¬ Segment.CutShort segments tail →
      found.1 = segments.map .ok ++ behind.1 ∧
        found.2.walked = segments.length + behind.2.walked) ∧
    (Segment.CutShort segments tail →
      found.1 = segments.dropLast.map .ok ∧ found.2.walked = segments.length - 1) ∧
    ∀ octets : Octets, octets.length = Descriptor.size →
      ∃! descriptor : Descriptor, descriptor.encode = octets := by
  obtain ⟨foundItems, foundCount⟩ := exhaust_eq_walk (Segment.stream segments ++ tail) 0
  obtain ⟨behindItems, behindCount⟩ := exhaust_eq_walk tail 0
  refine ⟨fun whole => ?_, fun short => ?_, fun _ => Descriptor.existsUnique_encode⟩
  · rw [Segment.walk_stream wellFormed whole] at foundItems foundCount
    refine ⟨?_, ?_⟩
    · rw [start, foundItems, start, behindItems]
      simp [items]
    · rw [start, foundCount, start, behindCount, List.length_append]
      omega
  · rw [Segment.walk_stream_of_cutShort wellFormed short] at foundItems foundCount
    refine ⟨?_, ?_⟩
    · rw [start, foundItems]
      simp [items]
    · rw [start, foundCount, List.length_dropLast]
      omega

/-- Two segments, the second without payload: with 36 zero octets behind them
both are found and then the zero length word, and with three octets behind them
only the first. -/
theorem exhaust_stream_two :
    let first : Segment := ⟨(7, 9), .blank, [1, 2, 3, 4], ⟨0⟩⟩
    let second : Segment := ⟨(0, 0), { Descriptor.blank with rate := 5 }, [], ⟨0x40000000⟩⟩
    let zeros : Octets := List.replicate 36 0
    (start (Segment.stream [first, second] ++ zeros)).exhaust.1 =
        [.ok first, .ok second, .error .zeroLength] ∧
      (start (Segment.stream [first, second] ++ zeros)).exhaust.2.walked = 2 ∧
      (start (Segment.stream [first, second] ++ [1, 2, 3])).exhaust.1 = [.ok first] ∧
      (start (Segment.stream [first, second] ++ [1, 2, 3])).exhaust.2.walked = 1 := by
  intro first second zeros
  have wellFormed : ∀ segment ∈ [first, second], segment.WellFormed := by
    simp only [List.forall_mem_cons, List.not_mem_nil, false_implies, implies_true, and_true]
    exact ⟨⟨by decide, by decide⟩, by decide, by decide⟩
  have behind : (start zeros).exhaust =
      ([.error .zeroLength], { rest := zeros, finished := true }) := by
    rw [start, exhaust_of_some (next_of_error rfl), exhaust_of_none (next_of_finished rfl)]
  obtain ⟨whole, -, -⟩ := exhaust_stream [first, second] zeros wellFormed
  obtain ⟨found, counted⟩ := whole (by decide)
  obtain ⟨-, short, -⟩ := exhaust_stream [first, second] [1, 2, 3] wellFormed
  obtain ⟨foundShort, countedShort⟩ := short (by decide)
  rw [behind] at found counted
  exact ⟨found, counted, foundShort, countedShort⟩

end Walker

end WlanDatapath
