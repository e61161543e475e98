import WlanDatapath.Proofs.LaneIsolation

/-!
# Wrapped frames

A frame goes out in a transfer of its own: the header word, the frame, zeros up to a
multiple of four and a trailer of four more zeros.  `Outgoing.enclosed` writes this layout
down, and wrapping gives exactly that (`Outgoing.wrap_bare`), so the frame and the header
word can be read back from the transfer.  What is sent from a hardware queue is this
transfer, on the endpoint of the queue (`Engine.sends_enqueue`).

The header word has sixteen bits for the length, and nothing on the way keeps longer
frames out.  The length field therefore tells the length of the transfer modulo 65536
(`Engine.length_field_modulo`): from frames of 65533 octets on it is wrong, and the transfer
is handed over all the same (`Engine.length_field_overflows`).
-/

namespace WlanDatapath

/-! ## The header word -/

namespace HeaderWord

variable (flags : UInt32) (length : Nat) (selector : QueueSelector)

/-- The fields of the word stand at their places. -/
theorem toNat_word_pack (destination : Destination) (cargo : Cargo) :
    (pack flags length selector destination cargo).word.toNat =
      flags.toNat ||| roundUp length % 2 ^ 16 ||| selector.code.toNat * 2 ^ 25 |||
        destination.code.toNat * 2 ^ 27 ||| cargo.code.toNat * 2 ^ 30 := by
  have field : (UInt32.ofNat (roundUp length % 65536)).toNat = roundUp length % 2 ^ 16 := by
    rw [UInt32.toNat_ofNat']
    omega
  have atSelector : (selector.code <<< 25).toNat = selector.code.toNat * 2 ^ 25 := by
    cases selector <;> rfl
  have atDestination : (destination.code <<< 27).toNat = destination.code.toNat * 2 ^ 27 := by
    cases destination <;> rfl
  have atCargo : (cargo.code <<< 30).toNat = cargo.code.toNat * 2 ^ 30 := by
    cases cargo <;> rfl
  simp only [pack, UInt32.toNat_or, field, atSelector, atDestination, atCargo]

/-- The word in front of a frame: the flags, the rounded length as far as it fits, and the
queue selector. -/
def ofFrame : UInt32 :=
  .ofNat (flags.toNat ||| roundUp length % 2 ^ 16 ||| selector.code.toNat * 2 ^ 25)

/-- Packets for the radio leave the two highest fields empty. -/
theorem toNat_word_pack_packet :
    (pack flags length selector .radio .packet).word.toNat =
      flags.toNat ||| roundUp length % 2 ^ 16 ||| selector.code.toNat * 2 ^ 25 := by
  have fields := toNat_word_pack flags length selector .radio .packet
  rw [show Destination.radio.code.toNat = 0 from rfl,
    show Cargo.packet.code.toNat = 0 from rfl] at fields
  simpa using fields

theorem word_pack_packet :
    (pack flags length selector .radio .packet).word = ofFrame flags length selector := by
  rw [ofFrame, ← toNat_word_pack_packet, UInt32.ofNat_toNat]

/-- Flags that stay clear of the length field leave the rounded length in it, as far as it
fits. -/
theorem length_ofFrame (clear : flags.toNat % 2 ^ 16 = 0) :
    (HeaderWord.mk (ofFrame flags length selector)).length = roundUp length % 2 ^ 16 := by
  have high : selector.code.toNat * 2 ^ 25 % 2 ^ 16 = 0 := by omega
  show (ofFrame flags length selector).toNat % 2 ^ 16 = _
  rw [← word_pack_packet, toNat_word_pack_packet]
  simp only [Nat.or_mod_two_pow, clear, high, Nat.mod_mod, Nat.zero_or, Nat.or_zero]

end HeaderWord

/-! ## The transfer of a frame -/

namespace Outgoing

/-- A frame behind a header word, with its padding and its trailer. -/
def enclosed (word : UInt32) (octets : Octets) (queue : UInt8) : Outgoing where
  octets := Wire.octets32 word ++ octets ++
    List.replicate (roundUp octets.length - octets.length + 4) 0
  queue := queue
  frameLength := octets.length
  wrapped := true

variable (word : UInt32) (octets : Octets) (queue : UInt8)

theorem length_enclosed : (enclosed word octets queue).length = 8 + roundUp octets.length := by
  have above := le_roundUp octets.length
  simp only [length, enclosed, List.length_append, Wire.length_octets32, List.length_replicate]
  omega

theorem payload_enclosed : (enclosed word octets queue).payload = octets := by
  simp [payload, enclosed, HeaderWord.size, Wire.octets32]

theorem header?_enclosed : (enclosed word octets queue).header? = some ⟨word⟩ := by
  simp [header?, enclosed, Wire.octets32]

theorem wrapWith_bare (selector : QueueSelector) (flags : UInt32) :
    (bare octets queue).wrapWith selector flags =
      enclosed (HeaderWord.ofFrame flags octets.length selector) octets queue := by
  have above := le_roundUp octets.length
  simp only [wrapWith, enclosed, bare, HeaderWord.word_pack_packet, List.length_append,
    Wire.length_octets32, wrappedSize, HeaderWord.size, trailerSize]
  congr 3
  omega

/-- Wrapping a frame as it is handed down. -/
theorem wrap_bare (memory : Memory) (selector : QueueSelector) (flags : UInt32) :
    (bare octets queue).wrap memory selector flags =
      if largestRoundable < octets.length then .error (.misuse .lengthOverflow)
      else if memory (8 + roundUp octets.length) then
        .ok (enclosed (HeaderWord.ofFrame flags octets.length selector) octets queue)
      else .error (.failure .outOfMemory) := by
  have size : wrappedSize octets.length = 8 + roundUp octets.length := by
    simp only [wrappedSize, HeaderWord.size, trailerSize]
    omega
  rw [← wrapWith_bare, ← size]
  rfl

end Outgoing

/-- The length of a frame in memory can be rounded up. -/
theorem not_largestRoundable_lt {length : Nat} (small : length ≤ Memory.largestRequest) :
    ¬ largestRoundable < length := by
  have request : Memory.largestRequest = 2 ^ 63 - 1 := rfl
  have roundable : largestRoundable = 2 ^ 64 - 4 := rfl
  omega

/-! ## What is sent -/

/-- The queue selector for a hardware queue. -/
theorem selectorOfLane_eq {queue : UInt8} {lane : Lane} (mapped : laneOfQueue queue = .ok lane) :
    lane.val = queue.toNat + 1 ∧
      selectorOfLane lane = if queue = 4 then .management else .distributed := by
  unfold laneOfQueue at mapped
  split at mapped
  · cases mapped
    refine ⟨rfl, ?_⟩
    have last : queue.toNat + 1 = 5 ↔ queue = 4 := by
      rw [← UInt8.toNat_inj]
      exact Nat.succ_inj
    simp only [selectorOfLane, last]
  · contradiction

namespace Engine

/-- What comes of a frame that is to be sent: the transfers that are submitted for it, with
their addresses and the transport's answers, and the result. -/
inductive Sends (engine : Engine) (memory : Memory) (answer : Transfer Outgoing → Option Refusal)
    (frame : Outgoing) (key queue : UInt8) :
    List (UInt8 × Transfer Outgoing × Option Refusal) → Except Fault Unit → Prop where
  | heldBack {fault : Fault} :
      Sends engine memory answer frame key queue [] (.error fault)
  | submitted {lane : Lane} {wrapped : Outgoing} (handle : Handle)
      (mapped : laneOfQueue queue = .ok lane)
      (wrap : frame.wrap memory (selectorOfLane lane) (transmitFlags key) = .ok wrapped) :
      Sends engine memory answer frame key queue
        [(engine.config.outEndpoints.get lane, .bind handle wrapped,
          answer (.bind handle wrapped))]
        (match answer (.bind handle wrapped) with
        | none => .ok ()
        | some refusal => .error (.failure (.ofStatus refusal.status)))

variable (engine : Engine) (memory : Memory) (answer : Transfer Outgoing → Option Refusal)
  (frame : Outgoing) (key queue : UInt8)

theorem sends_enqueue :
    engine.Sends memory answer frame key queue
      ((engine.enqueue memory answer frame key queue).2.1.filterMap Effect.transmitted?)
      (engine.enqueue memory answer frame key queue).2.2 := by
  have move := engine.sendMove_enqueue memory answer frame key queue
  generalize engine.enqueue memory answer frame key queue = step at move ⊢
  cases move with
  | turnedDown | overflowed => exact .heldBack
  | @refused _ _ handle refusal ready _ verdict =>
      have submitted : engine.Sends memory answer frame key queue _ _ :=
        .submitted handle ready.mapped ready.wrap
      obtain ⟨_, _, _, failed⟩ := Transmission.transmission_refuseTransmit engine refusal
      rw [verdict] at submitted
      rw [List.filterMap_cons, Transmission.transmitted?_refuseTransmit, failed]
      exact submitted
  | @taken lane wrapped handle ready reserved verdict =>
      have submitted : engine.Sends memory answer frame key queue _ _ :=
        .submitted handle ready.mapped ready.wrap
      obtain ⟨ring, published⟩ :=
        Ring.exists_publish (Transmission.offers_of_reserve? reserved).2.1
      obtain ⟨-, succeeded⟩ :=
        Transmission.enterTransmit_of_publish engine wrapped.queue published
      rw [verdict] at submitted
      rw [List.filterMap_cons, Transmission.transmitted?_enterTransmit, succeeded]
      exact submitted

variable {engine memory answer frame key queue} {octets : Octets} {upper : UInt8}
  {submission : UInt8 × Transfer Outgoing × Option Refusal}
  {submissions : List (UInt8 × Transfer Outgoing × Option Refusal)} {result : Except Fault Unit}

/-- A frame that is handed over is wrapped for the endpoint of its hardware queue. -/
theorem Sends.content_eq
    (sends : engine.Sends memory answer (.bare octets upper) key queue submissions result)
    (member : submission ∈ submissions) :
    (∃ lane : Lane, lane.val = queue.toNat + 1 ∧
        submission.1 = engine.config.outEndpoints.get lane) ∧
      submission.2.1.content =
        .enclosed
          (HeaderWord.ofFrame (transmitFlags key) octets.length
            (if queue = 4 then .management else .distributed)) octets upper := by
  cases sends with
  | heldBack => simp at member
  | @submitted lane wrapped handle mapped wrap =>
      obtain ⟨place, selector⟩ := selectorOfLane_eq mapped
      rw [List.mem_singleton] at member
      subst member
      have content : wrapped =
          (Outgoing.bare octets upper).wrapWith (selectorOfLane lane) (transmitFlags key) :=
        Outgoing.wrap_eq_ok wrap
      rw [selector, Outgoing.wrapWith_bare] at content
      exact ⟨⟨lane, place, rfl⟩, content⟩

/-- A frame is accepted if and only if the transport takes its transfer. -/
theorem Sends.accepted_iff
    (sends : engine.Sends memory answer frame key queue submissions result) :
    result = .ok () ↔ ∃ address transfer, submissions = [(address, transfer, none)] := by
  cases sends with
  | heldBack => simp
  | @submitted lane wrapped handle mapped wrap =>
      cases answer (.bind handle wrapped) <;> simp

/-- A frame of any length is sent if there is memory for its transfer, its ring has room and
the transport does not refuse. -/
theorem enqueue_bare_eq_ok {lane : Lane} {handle : Handle} (memory : Memory)
    (answer : Transfer Outgoing → Option Refusal) (upper key queue : UInt8)
    (accepts : engine.device.accepts = true) (mapped : laneOfQueue queue = .ok lane)
    (reserved : (engine.transmit.get lane).reserve? = .ok handle)
    (small : octets.length ≤ Memory.largestRequest)
    (granted : memory (8 + roundUp octets.length) = true)
    (taken : ∀ transfer, answer transfer = none) :
    let step := engine.enqueue memory answer (.bare octets upper) key queue
    step.2.2 = .ok () ∧
      ∃ address transfer,
        step.2.1.filterMap Effect.transmitted? = [(address, transfer, none)] := by
  intro step
  have accepted : step.2.2 = .ok () := by
    have offers := Transmission.offers_of_reserve? reserved
    obtain ⟨ring, published⟩ := Ring.exists_publish offers.2.1
    have roundable := not_largestRoundable_lt small
    have seen := engine.enqueue_endpoint mapped memory answer (.bare octets upper) key
    have result := congrArg (fun outcome => outcome.2.2) seen
    dsimp only at result
    rw [result, Outgoing.wrap_bare, if_neg roundable, if_pos granted]
    simp only [Endpoint.send, accepts_endpoint, accepts, ring_endpoint, offers.1, reserved, taken,
      published, if_true]
  have sends := engine.sends_enqueue memory answer (.bare octets upper) key queue
  exact ⟨accepted, sends.accepted_iff.mp accepted⟩

/-- After bringing up, every endpoint has room. -/
theorem ready_of_bringUp :
    let engine := ((fresh .small).run bringUpInputs).1
    engine.config = .small ∧ engine.device.stage = .running ∧ engine.device.accepts = true ∧
      ∀ lane : Lane, (engine.transmit.get lane).reserve? = .ok (.ofNat (64 * lane.val)) := by
  intro engine
  decide +kernel

/-- **Wrapping is exact and can be undone, and frames are sent wrapped.**

A frame of any length that fits into memory is either wrapped or there is no memory for
the transfer, whose length is a multiple of four and stays within 64 bits.  The transfer
has exactly the length that memory was asked for; the frame, its upper queue and the header
word can be read back.  Wrapping makes a new transfer, so that a frame that could not be
wrapped is still the frame that was handed down.

Every transfer that is submitted for a frame carries it wrapped, on the endpoint one behind
its hardware queue: with the management selector for the last queue and the distributed one
for the others, and with the flag for keys in the frame if and only if there is no hardware
key.  The frame is accepted if and only if the transport takes this one transfer. -/
theorem wrapping_exact (octets : Octets) (small : octets.length ≤ Memory.largestRequest)
    (upper : UInt8) (memory : Memory) :
    (8 + roundUp octets.length) % 4 = 0 ∧ 8 + roundUp octets.length < 2 ^ 64 ∧
      (∀ (selector : QueueSelector) (flags : UInt32),
        let word := UInt32.ofNat
          (flags.toNat ||| roundUp octets.length % 2 ^ 16 ||| selector.code.toNat * 2 ^ 25)
        let wrapped := Outgoing.enclosed word octets upper
        (Outgoing.bare octets upper).wrap memory selector flags =
            (if memory (8 + roundUp octets.length) then .ok wrapped
            else .error (.failure .outOfMemory)) ∧
          wrapped.length = 8 + roundUp octets.length ∧ wrapped.payload = octets ∧
          wrapped.header? = some ⟨word⟩ ∧ wrapped.queue = upper) ∧
      ∀ (engine : Engine) (answer : Transfer Outgoing → Option Refusal) (key queue : UInt8),
        let step := engine.enqueue memory answer (.bare octets upper) key queue
        let submissions := step.2.1.filterMap Effect.transmitted?
        let flags := if key = 0xff then HeaderWord.nativeFrame ||| HeaderWord.keyInFrame
          else HeaderWord.nativeFrame
        let selector : QueueSelector := if queue = 4 then .management else .distributed
        (∀ submission ∈ submissions,
          (∃ lane : Lane, lane.val = queue.toNat + 1 ∧
              submission.1 = engine.config.outEndpoints.get lane) ∧
            submission.2.1.content =
              .enclosed (HeaderWord.ofFrame flags octets.length selector) octets upper) ∧
        (step.2.2 = .ok () ↔
          ∃ address transfer, submissions = [(address, transfer, none)]) := by
  have bound : octets.length ≤ 2 ^ 63 - 1 := small
  have below := roundUp_lt octets.length
  have multiple := roundUp_mod octets.length
  refine ⟨by omega, by omega, fun selector flags => ?_, fun engine answer key queue => ?_⟩
  · have roundable := not_largestRoundable_lt small
    refine ⟨?_, Outgoing.length_enclosed .., Outgoing.payload_enclosed ..,
      Outgoing.header?_enclosed .., rfl⟩
    rw [Outgoing.wrap_bare, if_neg roundable]
    rfl
  · have sends := engine.sends_enqueue memory answer (.bare octets upper) key queue
    exact ⟨fun submission member => sends.content_eq member, sends.accepted_iff⟩

/-- A frame of five octets from the queue for management, without a hardware key. -/
theorem wrapping_exact_management :
    let engine := ((fresh .small).run bringUpInputs).1
    let octets : Octets := [1, 2, 3, 4, 5]
    let step := engine.enqueue (fun _ => true) (fun _ => none) (.bare octets 7) 0xff 4
    octets.length ≤ Memory.largestRequest ∧ step.2.2 = .ok () ∧
      ∃ address transfer,
        step.2.1.filterMap Effect.transmitted? = [(address, transfer, none)] ∧
          address = 9 ∧
          transfer.content.octets = [8, 0, 8, 1, 1, 2, 3, 4, 5, 0, 0, 0, 0, 0, 0, 0] ∧
          transfer.content.payload = octets := by
  have ready := ready_of_bringUp
  generalize ((fresh .small).run bringUpInputs).1 = engine at ready ⊢
  obtain ⟨same, -, accepts, room⟩ := ready
  intro engine octets step
  have small : octets.length ≤ Memory.largestRequest := by simp [octets, Memory.largestRequest]
  obtain ⟨accepted, -⟩ :=
    enqueue_bare_eq_ok (fun _ => true) (fun _ => none) 7 0xff 4 accepts rfl
      (room ⟨5, by decide⟩) small rfl fun _ => rfl
  obtain ⟨-, -, wrapped, sent⟩ := wrapping_exact octets small 7 fun _ => true
  obtain ⟨contents, taken⟩ := sent engine (fun _ => none) 0xff 4
  obtain ⟨address, transfer, submitted⟩ := taken.mp accepted
  obtain ⟨⟨lane, place, found⟩, content⟩ :=
    contents (address, transfer, none) (submitted ▸ List.mem_singleton_self _)
  obtain rfl : lane = ⟨5, by decide⟩ := Fin.ext place
  dsimp only at found content
  refine ⟨small, accepted, address, transfer, submitted, ?_, ?_, ?_⟩
  · rw [found, show engine.config = .small from same]
    rfl
  · rw [content]
    decide +kernel
  · rw [content]
    exact (wrapped .management (transmitFlags 0xff)).2.2.1

/-! ## The length field -/

/-- What is submitted for a frame says how long it is, as far as sixteen bits go. -/
theorem Sends.length_field
    (sends : engine.Sends memory answer (.bare octets upper) key queue submissions result)
    (member : submission ∈ submissions) :
    submission.2.1.content.length = 8 + roundUp octets.length ∧
      ∃ header ∈ submission.2.1.content.header?,
        header.length = roundUp octets.length % 2 ^ 16 := by
  obtain ⟨-, content⟩ := sends.content_eq member
  have clear : (transmitFlags key).toNat % 2 ^ 16 = 0 := by
    unfold transmitFlags
    split <;> rfl
  rw [content]
  exact ⟨Outgoing.length_enclosed .., _, Outgoing.header?_enclosed ..,
    HeaderWord.length_ofFrame _ _ _ clear⟩

/-- **The length field holds the length of the transfer modulo 65536.**

Whatever frame is to be sent, in whatever state: a transfer that is submitted for it holds
eight octets more than its rounded length, and its length field holds that length as far as
sixteen bits go.  So the field is right for frames of up to 65532 octets, and for these
only. -/
theorem length_field_modulo (engine : Engine) (memory : Memory)
    (answer : Transfer Outgoing → Option Refusal) (octets : Octets) (upper key queue : UInt8) :
    let step := engine.enqueue memory answer (.bare octets upper) key queue
    ∀ submission ∈ step.2.1.filterMap Effect.transmitted?,
      let content := submission.2.1.content
      content.length - 8 = roundUp octets.length ∧
        ∃ header ∈ content.header?,
          header.length = roundUp octets.length % 2 ^ 16 ∧
            (header.length = content.length - 8 ↔ octets.length ≤ 65532) := by
  intro step submission member content
  have sends := engine.sends_enqueue memory answer (.bare octets upper) key queue
  obtain ⟨whole, header, found, field⟩ := sends.length_field member
  replace whole : content.length = 8 + roundUp octets.length := whole
  refine ⟨by omega, header, found, field, ?_⟩
  have above := le_roundUp octets.length
  have below := roundUp_lt octets.length
  have multiple := roundUp_mod octets.length
  rw [field, whole]
  omega

/-- A frame of 65532 octets is the longest one whose transfer has a right length field. -/
theorem length_field_modulo_longest :
    let engine := ((fresh .small).run bringUpInputs).1
    let octets : Octets := List.replicate 65532 0
    let step := engine.enqueue (.bounded none) (fun _ => none) (.bare octets 2) 0xff 0
    ∃ submission ∈ step.2.1.filterMap Effect.transmitted?,
      submission.2.1.content.length - 8 = 65532 ∧
        submission.2.1.content.header?.map HeaderWord.length = some 65532 := by
  have ready := ready_of_bringUp
  generalize ((fresh .small).run bringUpInputs).1 = engine at ready ⊢
  obtain ⟨-, -, accepts, room⟩ := ready
  intro engine octets step
  have size : octets.length = 65532 := List.length_replicate
  have rounded : roundUp octets.length = 65532 := by rw [size]; rfl
  clear_value octets
  obtain ⟨-, address, transfer, submitted⟩ :=
    enqueue_bare_eq_ok (.bounded none) (fun _ => none) 2 0xff 0 accepts rfl
      (room ⟨1, by decide⟩) (by rw [size]; decide +kernel) (by rw [rounded]; decide +kernel)
      fun _ => rfl
  have member : (address, transfer, none) ∈ step.2.1.filterMap Effect.transmitted? :=
    submitted ▸ List.mem_singleton_self _
  obtain ⟨whole, header, found, -, exact⟩ :=
    length_field_modulo engine _ _ octets 2 0xff 0 _ member
  refine ⟨_, member, whole.trans rounded, ?_⟩
  rw [Option.mem_def.mp found, Option.map_some, exact.mpr size.le, whole, rounded]

/-- For a frame of 65533 octets the length field says that the transfer is empty. -/
theorem length_field_overflows :
    let engine := ((fresh .small).run bringUpInputs).1
    let octets : Octets := List.replicate 65533 0
    let step := engine.enqueue (.bounded none) (fun _ => none) (.bare octets 2) 0xff 0
    engine.device.stage = .running ∧ step.2.2 = .ok () ∧
      ∃ address transfer,
        step.2.1.filterMap Effect.transmitted? = [(address, transfer, none)] ∧
          roundUp octets.length = 65536 ∧ transfer.content.length - 8 = 65536 ∧
          transfer.content.header?.map HeaderWord.length = some 0 := by
  have ready := ready_of_bringUp
  generalize ((fresh .small).run bringUpInputs).1 = engine at ready ⊢
  obtain ⟨-, running, accepts, room⟩ := ready
  intro engine octets step
  have size : octets.length = 65533 := List.length_replicate
  have rounded : roundUp octets.length = 65536 := by rw [size]; rfl
  clear_value octets
  obtain ⟨accepted, address, transfer, submitted⟩ :=
    enqueue_bare_eq_ok (.bounded none) (fun _ => none) 2 0xff 0 accepts rfl
      (room ⟨1, by decide⟩) (by rw [size]; decide +kernel) (by rw [rounded]; decide +kernel)
      fun _ => rfl
  have sends := engine.sends_enqueue (.bounded none) (fun _ => none) (.bare octets 2) 0xff 0
  obtain ⟨whole, header, found, field⟩ :=
    sends.length_field (submitted ▸ List.mem_singleton_self (address, transfer, none))
  rw [rounded] at whole field
  refine ⟨running, accepted, address, transfer, submitted, rounded, ?_, ?_⟩
  · dsimp only at whole
    omega
  · have zero : header.length = 0 := field.trans (by decide)
    rw [Option.mem_def.mp found, Option.map_some, zero]

end Engine

end WlanDatapath
