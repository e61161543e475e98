import WlanDatapath.Proofs.Custody
import WlanDatapath.Proofs.ReceiveOrder

/-!
# No receive buffer is lost

Every receive slot has one buffer, and at any time the buffer is in one of four
places: in the slot, with the pass, with the transport, or lost by the transport.
The engine moves buffers between the first three and never drops one, in whatever
order the transport returns them and whichever it refuses.

`Ledger` follows the transport: the handles on which it holds a buffer and those
on which it lost one.  `Reception.Placed` says which slots hold their buffers, and
`Reception.Balances` counts the four places of each.
-/

namespace WlanDatapath

/-! ## Counting -/

/-- Lists of different keys count every item that is a key. -/
theorem sum_map_count {Key : Type} [DecidableEq Key] {keys items : List Key}
    (distinct : keys.Nodup) (known : ∀ item ∈ items, item ∈ keys) :
    (keys.map items.count).sum = items.length := by
  have whole : ∑ key ∈ keys.toFinset, (items : Multiset Key).count key =
      (items : Multiset Key).card :=
    Multiset.sum_count_eq_card fun item member =>
      List.mem_toFinset.mpr (known item (Multiset.mem_coe.mp member))
  rw [← List.sum_toFinset items.count distinct]
  simpa only [Multiset.coe_count, Multiset.coe_card] using whole

theorem sum_map_toNat {Item : Type} (test : Item → Bool) (items : List Item) :
    (items.map fun item => (test item).toNat).sum = items.countP test := by
  induction items with
  | nil => rfl
  | cons item items hypothesis =>
      rw [List.map_cons, List.sum_cons, hypothesis, List.countP_cons]
      cases test item <;> simp [Nat.add_comm]

/-! ## Buffers in slots -/

namespace Ring

variable {ring next : Ring ReceiveSlot} {index other : Nat} {buffer : Buffer} {handle : Handle}

/-- The buffer in a slot, if there is one. -/
def buffer? (ring : Ring ReceiveSlot) (index : Nat) : Option Buffer :=
  ring.slots[index]?.bind (·.buffer)

/-- The slots outside the window that hold a buffer. -/
def parked (ring : Ring ReceiveSlot) : List Nat :=
  ring.gap.filter fun index => (ring.buffer? index).isSome

theorem buffer?_eq_some_iff :
    ring.buffer? index = some buffer ↔
      ∃ slot, ring.slots[index]? = some slot ∧ slot.buffer = some buffer :=
  Option.bind_eq_some_iff

theorem buffer?_modify (change : ReceiveSlot → ReceiveSlot) :
    (ring.modify index change).buffer? other =
      if index = other then ring.slots[other]?.bind fun slot => (change slot).buffer
      else ring.buffer? other := by
  rw [buffer?, modify, List.getElem?_modify]
  split
  · simp [Option.bind_map]
  · simp [buffer?]

theorem buffer?_vacate :
    (ring.vacate index).buffer? other = if index = other then none else ring.buffer? other := by
  rw [vacate, buffer?_modify]
  simp [ReceiveSlot.vacate]

theorem buffer?_putBack (below : index < ring.slots.length) (vacant : ring.buffer? index = none) :
    (ring.putBack index buffer).buffer? other =
      if index = other then some buffer else ring.buffer? other := by
  rw [putBack, buffer?_modify]
  split
  next same =>
    subst same
    rw [buffer?, List.getElem?_eq_getElem below, Option.bind_some] at vacant
    simp [List.getElem?_eq_getElem below, ReceiveSlot.putBack, vacant]
  next => rfl

theorem buffer?_file {transfer : Transfer Buffer} (below : ring.stop < ring.slots.length) :
    (ring.file transfer).buffer? other =
      if ring.stop = other then some transfer.content else ring.buffer? other := by
  show (ring.modify ring.stop (ReceiveSlot.file transfer)).buffer? other = _
  rw [buffer?_modify]
  split
  next same =>
    subst same
    simp [List.getElem?_eq_getElem below, ReceiveSlot.file]
  next => rfl

theorem buffer?_retire (retired : ring.retire? = some (index, next)) :
    next.buffer? = ring.buffer? := by
  obtain ⟨-, -, rfl⟩ := retire?_eq_some retired
  rfl

/-- Putting a buffer back replaces none. -/
theorem buffer?_putBack_of_eq_some {own : Buffer} (held : ring.buffer? other = some own) :
    (ring.putBack index buffer).buffer? other = some own := by
  obtain ⟨slot, found, holds⟩ := buffer?_eq_some_iff.mp held
  rw [putBack, buffer?_modify, found, Option.bind_some, ReceiveSlot.putBack_of_buffer holds,
    holds, held, ite_self]

/-- Putting a buffer back takes none away. -/
theorem buffer?_putBack_ne_none (held : ring.buffer? other ≠ none) :
    (ring.putBack index buffer).buffer? other ≠ none := by
  obtain ⟨own, holds⟩ := Option.ne_none_iff_exists'.mp held
  rw [buffer?_putBack_of_eq_some holds]
  exact Option.some_ne_none own

end Ring

/-! ## What the transport has -/

/-- The handles on which the transport holds a receive buffer, and those on which
it lost one. -/
structure Ledger where
  held : List Handle := []
  lost : List Handle := []

namespace Ledger

/-- One buffer comes back, if any, and others are submitted. -/
def move (ledger : Ledger) (returned? : Option Handle) (submitted : List Handle) : Ledger :=
  { ledger with held := (returned?.elim ledger.held ledger.held.erase) ++ submitted }

@[simp]
theorem move_none_nil (ledger : Ledger) : ledger.move none [] = ledger := by
  simp [move]

/-- The transport loses buffers that it holds. -/
def lose (ledger : Ledger) (handles : List Handle) : Ledger where
  held := ledger.held.diff handles
  lost := ledger.lost ++ handles

end Ledger

namespace Moment

/-- The handle of the receive buffer that the transport gives back, because its
transfer ended or because it is refused. -/
def returned? (moment : Moment) : Option Handle :=
  (moment.ended?.map (·.handle)).or moment.refused?

/-- The transport issues distinct handles. -/
def issuesDistinct (moment : Moment) : Bool :=
  match moment.input with
  | .startBringUp supply => decide supply.handles.Nodup
  | _ => true

end Moment

namespace History

/-- What the transport has after a history, if it loses given buffers after each
moment. -/
def ledger (losses : Nat → List Handle) (history : History) : Ledger :=
  history.zipIdx.foldl
    (fun ledger place =>
      (ledger.move place.1.returned? place.1.reposted).lose (losses place.2)) {}

@[simp]
theorem ledger_nil (losses : Nat → List Handle) : ledger losses [] = {} := rfl

@[simp]
theorem ledger_concat (losses : Nat → List Handle) (history : History) (moment : Moment) :
    ledger losses (history ++ [moment]) =
      ((history.ledger losses).move moment.returned? moment.reposted).lose
        (losses history.length) := by
  simp [ledger, List.zipIdx_append]

end History

/-- The transport gives back a buffer that it holds, and loses buffers that it
holds. -/
structure Moment.Honest (losses : Nat → List Handle) (past : History) (moment : Moment) :
    Prop where
  returned : ∀ handle ∈ moment.returned?, handle ∈ (past.ledger losses).held
  lost : ∀ handle ∈ losses past.length, (losses past.length).count handle ≤
    ((past.ledger losses).move moment.returned? moment.reposted).held.count handle

instance (losses : Nat → List Handle) (past : History) (moment : Moment) :
    Decidable (moment.Honest losses past) :=
  -- the quantifiers are decided over what is there, not over all handles
  decidable_of_iff
    ((moment.returned?.all fun handle => (past.ledger losses).held.contains handle) = true ∧
      ((losses past.length).all fun handle => decide ((losses past.length).count handle ≤
        ((past.ledger losses).move moment.returned? moment.reposted).held.count handle)) = true)
    (by
      rw [Option.all_eq_true, List.all_eq_true]
      simp only [List.contains_iff_mem, decide_eq_true_eq]
      exact ⟨fun ⟨returned, lost⟩ => ⟨returned, lost⟩, fun ⟨returned, lost⟩ => ⟨returned, lost⟩⟩)

/-! ## Which slots hold their buffers -/

/-- The buffer that the pass has or has submitted. -/
def Pass.carried? : Pass → Option Work
  | .walking work _ | .delivering work _ | .returning work | .submitting work => some work
  | .idle | .popping => none

/-- The pass has the buffer of a slot. -/
def Pass.has (pass : Pass) (index : Nat) : Bool :=
  pass.work?.any (·.index == index)

theorem Pass.carried?_of_work? {pass : Pass} {work : Work} (has : pass.work? = some work) :
    pass.carried? = some work := by
  cases pass <;> simp_all [work?, carried?]

namespace Reception

variable {reception next : Reception} {event : Event} {ledger : Ledger}

/-- The slots of the window and those not posted yet hold their buffers, and the
pass knows the handle of the buffer that it carries. -/
structure Placed (reception : Reception) : Prop where
  filled : ∀ index ∈ reception.ring.window, reception.ring.buffer? index ≠ none
  unposted : ∀ index ∈ reception.bringUp.unposted,
    index ∉ reception.ring.window ∧ reception.ring.buffer? index ≠ none
  named : ∀ work, reception.pass.carried? = some work →
    reception.ring.handles[work.index]? = some work.handle

theorem placed_untouched : untouched.Placed where
  filled := fun _ member => nomatch member
  unposted := fun _ member => nomatch member
  named := fun _ has => nomatch has

namespace Placed

/-- The ring stays as it is. -/
theorem keep (placed : reception.Placed) (ring : next.ring = reception.ring)
    (unposted : ∀ index ∈ next.bringUp.unposted, index ∈ reception.bringUp.unposted)
    (carried : ∀ work, next.pass.carried? = some work →
      reception.pass.carried? = some work) : next.Placed where
  filled := ring ▸ placed.filled
  unposted index member := ring ▸ placed.unposted index (unposted index member)
  named work has := ring ▸ placed.named work (carried work has)

/-- A buffer is put back. -/
theorem putBack (placed : reception.Placed) {index : Nat} {buffer : Buffer}
    (ring : next.ring = reception.ring.putBack index buffer)
    (unposted : ∀ index ∈ next.bringUp.unposted, index ∈ reception.bringUp.unposted)
    (carried : ∀ work, next.pass.carried? = some work →
      reception.pass.carried? = some work) : next.Placed where
  filled other member := by
    rw [ring] at member ⊢
    exact Ring.buffer?_putBack_ne_none (placed.filled other member)
  unposted other member := by
    rw [ring]
    obtain ⟨outside, held⟩ := placed.unposted other (unposted other member)
    exact ⟨outside, Ring.buffer?_putBack_ne_none held⟩
  named work has := by
    rw [ring, Ring.handles_putBack]
    exact placed.named work (carried work has)

/-- The transfer whose turn it is, is filed. -/
theorem file (placed : reception.Placed) (sound : reception.Sound) {transfer : Transfer Buffer}
    (expected : reception.ring.Expects transfer.handle)
    (posted : reception.ring.stop ∉ reception.bringUp.unposted)
    (ring : next.ring = reception.ring.file transfer)
    (bringUp : next.bringUp = reception.bringUp) (pass : next.pass = reception.pass) :
    next.Placed := by
  have below := Ring.lt_of_handles expected.handles_stop
  have published := Ring.window_publish
    (sound.ring.modify reception.ring.stop (ReceiveSlot.file transfer))
    (Ring.publish_file transfer expected.2.1)
  have window : next.ring.window = reception.ring.window ++ [reception.ring.stop] := by
    rw [ring]
    exact published
  refine ⟨?_, ?_, ?_⟩
  · intro index member
    rw [window, List.mem_append, List.mem_singleton] at member
    rw [ring, Ring.buffer?_file below]
    split
    · exact Option.some_ne_none _
    next apart =>
      rcases member with early | rfl
      · exact placed.filled index early
      · exact absurd rfl apart
  · intro index member
    rw [bringUp] at member
    obtain ⟨outside, held⟩ := placed.unposted index member
    have apart : reception.ring.stop ≠ index := by
      rintro rfl
      exact posted member
    rw [window, ring, Ring.buffer?_file below, if_neg apart, List.mem_append,
      List.mem_singleton]
    exact ⟨fun member => member.elim outside apart.symm, held⟩
  · intro work has
    rw [pass] at has
    rw [ring, Ring.handles_file]
    exact placed.named work has

/-- The pass takes the oldest buffer. -/
theorem take (placed : reception.Placed) (sound : reception.Sound) {index : Nat}
    {ring : Ring ReceiveSlot} {slot : ReceiveSlot} {buffer : Buffer}
    (retired : reception.ring.retire? = some (index, ring))
    (found : ring.slots[index]? = some slot) (vacated : next.ring = ring.vacate index)
    (bringUp : next.bringUp = reception.bringUp)
    (carried : next.pass.carried? = some ⟨index, slot.handle, buffer⟩) : next.Placed := by
  have window := Ring.window_retire sound.ring retired
  have distinct := Ring.nodup_window sound.ring
  rw [window, List.nodup_cons] at distinct
  have buffers : ∀ other, index ≠ other →
      next.ring.buffer? other = reception.ring.buffer? other := by
    intro other apart
    rw [vacated, Ring.buffer?_vacate, if_neg apart, Ring.buffer?_retire retired]
  have windowAfter : next.ring.window = ring.window := by
    rw [vacated]
    rfl
  refine ⟨?_, ?_, ?_⟩
  · intro other member
    rw [windowAfter] at member
    have apart : index ≠ other := by
      rintro rfl
      exact distinct.1 member
    rw [buffers other apart]
    exact placed.filled other (window ▸ List.mem_cons_of_mem _ member)
  · intro other member
    rw [bringUp] at member
    obtain ⟨outside, held⟩ := placed.unposted other member
    rw [window, List.mem_cons, not_or] at outside
    rw [windowAfter, buffers other (Ne.symm outside.1)]
    exact ⟨outside.2, held⟩
  · intro work has
    rw [carried, Option.some.injEq] at has
    subst has
    rw [vacated, Ring.handles_vacate]
    exact Ring.handles_of_slot found

/-- The next slot is posted. -/
theorem post (placed : reception.Placed) {index : Nat} {work : Work}
    (posting : reception.bringUp = .posting index) (below : index < receiveSlots)
    (ring : next.ring = reception.ring.vacate index) (bringUp : next.bringUp = .submitting work)
    (same : work.index = index) (pass : next.pass = reception.pass) : next.Placed := by
  have unposted := BringUp.unposted_posting below
  have later : next.bringUp.unposted = (BringUp.posting (index + 1)).unposted := by
    rw [bringUp, ← same]
    rfl
  have outside : index ∉ reception.ring.window :=
    (placed.unposted index (by rw [posting, unposted]; exact List.mem_cons_self ..)).1
  refine ⟨?_, ?_, ?_⟩
  · intro other member
    have inWindow : other ∈ reception.ring.window := by
      rw [ring] at member
      exact member
    have apart : index ≠ other := by
      rintro rfl
      exact outside inWindow
    rw [ring, Ring.buffer?_vacate, if_neg apart]
    exact placed.filled other inWindow
  · intro other member
    rw [later] at member
    have apart : index ≠ other := by
      rintro rfl
      simp only [BringUp.unposted, List.mem_range'_1] at member
      omega
    rw [ring, Ring.buffer?_vacate, if_neg apart]
    exact placed.unposted other (by rw [posting, unposted]; exact List.mem_cons_of_mem _ member)
  · intro other has
    rw [pass] at has
    rw [ring, Ring.handles_vacate]
    exact placed.named other has

end Placed

/-- A device that lives and has a handle is populated. -/
theorem Sound.isComplete_of_mem (sound : reception.Sound) (alive : reception.stage ≠ .dead)
    {handle : Handle} (member : handle ∈ reception.ring.handles) :
    reception.ring.isComplete = true := by
  have started : reception.stage ≠ .created := by
    intro created
    rw [sound.untouched created] at member
    simp [Reception.untouched, Ring.handles, Ring.empty] at member
  have count := sound.populated (Stage.accepts_of_ne started alive)
  rw [Ring.isComplete, count, sound.capacity]
  rfl

/-- A device that lives and has a pass accepts. -/
theorem Sound.accepts_of_active (sound : reception.Sound) (alive : reception.stage ≠ .dead)
    (active : reception.pass ≠ .idle) : reception.stage.accepts = true := by
  refine Stage.accepts_of_ne ?_ alive
  intro created
  rw [sound.untouched created] at active
  exact active rfl

/-- The slot that is retired holds a buffer. -/
theorem Placed.retired_ne_none (placed : reception.Placed) (sound : reception.Sound)
    {index : Nat} {ring : Ring ReceiveSlot}
    (retired : reception.ring.retire? = some (index, ring)) : ring.buffer? index ≠ none := by
  rw [Ring.buffer?_retire retired]
  apply placed.filled index
  rw [Ring.window_retire sound.ring retired]
  exact List.mem_cons_self ..

theorem Placed.slot_ne_none (placed : reception.Placed) (sound : reception.Sound)
    {index : Nat} {ring : Ring ReceiveSlot}
    (retired : reception.ring.retire? = some (index, ring)) : ring.slots[index]? ≠ none := by
  intro missing
  have held := placed.retired_ne_none sound retired
  rw [Ring.buffer?, missing] at held
  exact held rfl

theorem Placed.buffer_ne_none (placed : reception.Placed) (sound : reception.Sound)
    {index : Nat} {ring : Ring ReceiveSlot} {slot : ReceiveSlot}
    (retired : reception.ring.retire? = some (index, ring))
    (found : ring.slots[index]? = some slot) : slot.buffer ≠ none := by
  have held := placed.retired_ne_none sound retired
  rwa [Ring.buffer?, found, Option.bind_some] at held

theorem Step.begun_of_drained (step : Step reception .drained next) :
    reception.teardowns ≠ 0 := by
  cases step with
  | drained begun => exact begun

/-- Until the ring is drained every step keeps the buffers in place, if a transfer is
filed only into a slot that was posted. -/
theorem Placed.step (placed : reception.Placed) (sound : reception.Sound)
    (step : Step reception event next) (undrained : event ≠ .drained)
    (posted : ∀ transfer, event = .filed transfer →
      reception.ring.stop ∉ reception.bringUp.unposted) : next.Placed := by
  cases step with
  | drained => exact absurd rfl undrained
  | @acquired slots created count filled =>
      rw [sound.untouched created]
      refine ⟨?_, ?_, ?_⟩
      · intro index member
        simp [Ring.window, Ring.extend, untouched, Ring.empty] at member
      · intro index member
        have below : index < slots.length := by
          simpa [BringUp.unposted, count] using member
        obtain ⟨buffer, held⟩ := Option.isSome_iff_exists.mp (filled _ (List.getElem_mem below))
        refine ⟨by simp [Ring.window, Ring.extend, untouched, Ring.empty], ?_⟩
        simp [Ring.buffer?, Ring.extend, untouched, Ring.empty, List.getElem?_eq_getElem below,
          held]
      · intro work has
        cases has
  | acquisitionFailed created =>
      rw [sound.untouched created]
      refine ⟨?_, ?_, ?_⟩
      · intro index member
        simp [Ring.window, Ring.extend, untouched, Ring.empty] at member
      · intro index member
        cases member
      · intro work has
        cases has
  | posted posting below => exact placed.post posting below rfl rfl rfl rfl
  | passedOver posting below =>
      refine placed.keep rfl (fun index member => ?_) fun _ has => has
      rw [posting, BringUp.unposted_posting below]
      exact List.mem_cons_of_mem _ member
  | slotMissing | cameUp => exact placed.keep rfl (fun _ member => by cases member) fun _ has => has
  | postTaken submitting =>
      refine placed.keep rfl (fun index member => ?_) fun _ has => has
      rw [submitting]
      exact member
  | postRefused => exact placed.putBack rfl (fun _ member => by cases member) fun _ has => has
  | filed expected => exact placed.file sound expected (posted _ rfl) rfl rfl rfl
  | dismissedTo => exact placed.putBack rfl (fun _ member => member) fun _ has => has
  | passStarted => exact placed.keep rfl (fun _ member => member) fun _ has => by cases has
  | nothingLeft =>
      refine placed.keep rfl (fun _ member => member) fun _ has => ?_
      rw [leave] at has
      split at has <;> cases has
  | slotLost popping retired missing => exact absurd missing (placed.slot_ne_none sound retired)
  | slotSkipped popping retired found absent =>
      exact absurd absent (placed.buffer_ne_none sound retired found)
  | opened popping retired found => exact placed.take sound retired found rfl rfl rfl
  | setAside popping retired found => exact placed.take sound retired found rfl rfl rfl
  | walked place | rejected place | dropped place | handedUp place | judged place
  | givenBack place =>
      refine placed.keep rfl (fun _ member => member) fun _ has => ?_
      rw [place]
      exact has
  | kept | refused => exact placed.putBack rfl (fun _ member => member) fun _ has => by cases has
  | taken => exact placed.keep rfl (fun _ member => member) fun _ has => by cases has
  | unchanged | dismissed | closed =>
      exact placed.keep rfl (fun _ member => member) fun _ has => has

/-! ## One place for every buffer -/

/-- How often the buffer of a slot is in the slot or with the pass. -/
def owned (reception : Reception) (index : Nat) : Nat :=
  (reception.ring.buffer? index).isSome.toNat + (reception.pass.has index).toNat

/-- The buffer of every slot is in the slot, with the pass, with the transport or
lost, and in one of these places only. -/
structure Balances (reception : Reception) (ledger : Ledger) : Prop where
  distinct : reception.ring.handles.Nodup
  known : ∀ handle ∈ ledger.held ++ ledger.lost, handle ∈ reception.ring.handles
  once : ∀ index handle, reception.ring.handles[index]? = some handle →
    reception.owned index + ledger.held.count handle + ledger.lost.count handle = 1

/-- The handle that the transport gives back. -/
def Event.returned? (event : Event) : Option Handle :=
  (event.ended?.map (·.handle)).or event.refused?

theorem Event.returned?_of_ended? {transfer : Transfer Buffer}
    (ended : event.ended? = some transfer) : event.returned? = some transfer.handle := by
  rw [returned?, ended]
  rfl

theorem Event.returned?_of_refused? {handle : Handle} (refused : event.refused? = some handle) :
    event.returned? = some handle := by
  cases event with
  | refused => exact refused
  | _ => cases refused

/-- Only the transfer whose turn it is, is filed. -/
theorem Step.expects_of_filed {transfer : Transfer Buffer}
    (step : Step reception (.filed transfer) next) : reception.ring.Expects transfer.handle := by
  cases step with
  | filed expected => exact expected

namespace Balances

/-- Different slots have different handles. -/
theorem same_iff (balances : reception.Balances ledger) {index other : Nat}
    {handle given : Handle} (named : reception.ring.handles[index]? = some handle)
    (found : reception.ring.handles[other]? = some given) : handle = given ↔ index = other := by
  constructor
  · rintro rfl
    exact (List.getElem?_inj (List.getElem?_eq_some_iff.mp named).1 balances.distinct).mp
      (named.trans found.symm)
  · rintro rfl
    exact Option.some.inj (named.symm.trans found)

/-- A buffer that the transport holds is neither in its slot nor with the pass. -/
theorem vacant (balances : reception.Balances ledger) {index : Nat} {handle : Handle}
    (named : reception.ring.handles[index]? = some handle) (held : handle ∈ ledger.held) :
    reception.ring.buffer? index = none ∧ reception.pass.has index = false := by
  have once := balances.once index handle named
  have some := List.count_pos_iff.mpr held
  have nowhere : reception.owned index = 0 := by omega
  rw [owned, Nat.add_eq_zero_iff, Bool.toNat_eq_zero, Bool.toNat_eq_zero,
    Option.isSome_eq_false_iff, Option.isNone_iff_eq_none] at nowhere
  exact nowhere

/-- The transport holds buffers on handles of the ring only. -/
theorem owner_ne_none (balances : reception.Balances ledger) (sound : reception.Sound)
    (living : reception.stage ≠ .dead) {handle : Handle} (held : handle ∈ ledger.held) :
    reception.ring.isComplete = true ∧
      (reception.ring.position? fun slot => slot.handle == handle) ≠ none := by
  have known := balances.known handle (List.mem_append_left _ held)
  exact ⟨sound.isComplete_of_mem living known, fun ownerless =>
    Ring.notMem_handles_of_position? ownerless known⟩

/-- No buffer is moved, and the transport neither gets nor gives back any. -/
theorem move_nothing (balances : reception.Balances ledger)
    (handles : next.ring.handles = reception.ring.handles)
    (owned : next.owned = reception.owned) : next.Balances (ledger.move none []) := by
  rw [Ledger.move_none_nil]
  refine ⟨handles ▸ balances.distinct, handles ▸ balances.known, ?_⟩
  rw [handles, owned]
  exact balances.once

/-- Before anything was acquired, the transport has no buffer. -/
theorem ledger_eq_of_untouched (balances : Reception.untouched.Balances ledger) :
    ledger = {} := by
  have nothing : ledger.held ++ ledger.lost = [] :=
    List.eq_nil_iff_forall_not_mem.mpr fun handle member =>
      List.not_mem_nil (balances.known handle member)
  rw [List.append_eq_nil_iff] at nothing
  obtain ⟨held, lost⟩ := ledger
  obtain ⟨rfl, rfl⟩ := nothing
  rfl

/-- A buffer is submitted to the transport. -/
theorem give (balances : reception.Balances ledger) {index : Nat} {handle : Handle}
    (named : reception.ring.handles[index]? = some handle)
    (handles : next.ring.handles = reception.ring.handles)
    (owned : ∀ other,
      reception.owned other = next.owned other + if index = other then 1 else 0) :
    next.Balances (ledger.move none [handle]) := by
  refine ⟨handles ▸ balances.distinct, ?_, ?_⟩
  · intro other member
    simp only [Ledger.move, Option.elim_none, List.mem_append, List.mem_singleton] at member
    rw [handles]
    rcases member with (held | rfl) | lost
    · exact balances.known other (List.mem_append_left _ held)
    · exact List.mem_of_getElem? named
    · exact balances.known other (List.mem_append_right _ lost)
  · intro other given found
    rw [handles] at found
    have once := balances.once other given found
    have same := balances.same_iff named found
    rw [owned other] at once
    simp only [Ledger.move, Option.elim_none, List.count_append, List.count_singleton,
      beq_iff_eq, same]
    omega

/-- A buffer comes back from the transport. -/
theorem receive (balances : reception.Balances ledger) {index : Nat} {handle : Handle}
    (named : reception.ring.handles[index]? = some handle) (held : handle ∈ ledger.held)
    (handles : next.ring.handles = reception.ring.handles)
    (owned : ∀ other,
      next.owned other = reception.owned other + if index = other then 1 else 0) :
    next.Balances (ledger.move (some handle) []) := by
  refine ⟨handles ▸ balances.distinct, ?_, ?_⟩
  · intro other member
    simp only [Ledger.move, Option.elim_some, List.append_nil, List.mem_append] at member
    rw [handles]
    apply balances.known other
    exact List.mem_append.mpr (member.imp_left List.mem_of_mem_erase)
  · intro other given found
    rw [handles] at found
    have once := balances.once other given found
    have same := balances.same_iff named found
    have some := List.count_pos_iff.mpr held
    rw [owned other]
    simp only [Ledger.move, Option.elim_some, List.append_nil, List.count_erase, beq_iff_eq,
      same]
    split
    next apart =>
      rw [same.mpr apart] at some
      omega
    next => omega

/-- The transport loses buffers that it holds. -/
theorem lose (balances : reception.Balances ledger) {losses : List Handle}
    (held : ∀ handle ∈ losses, losses.count handle ≤ ledger.held.count handle) :
    reception.Balances (ledger.lose losses) := by
  refine ⟨balances.distinct, ?_, ?_⟩
  · intro handle member
    apply balances.known handle
    simp only [Ledger.lose, List.mem_append] at member ⊢
    rcases member with still | before | fresh
    · exact Or.inl (List.diff_subset _ _ still)
    · exact Or.inr before
    · have some := List.count_pos_iff.mpr fresh
      exact Or.inl (List.count_pos_iff.mp (some.trans_le (held handle fresh)))
  · intro index handle named
    have once := balances.once index handle named
    have within : losses.count handle ≤ ledger.held.count handle := by
      by_cases member : handle ∈ losses
      · exact held handle member
      · rw [List.count_eq_zero_of_not_mem member]
        exact Nat.zero_le _
    simp only [Ledger.lose, List.count_diff, List.count_append]
    omega

end Balances

/-- A buffer is put into its empty slot. -/
theorem owned_fill {index : Nat}
    (vacant : reception.ring.buffer? index = none)
    (filled : next.ring.buffer? index ≠ none)
    (others : ∀ other, index ≠ other → next.ring.buffer? other = reception.ring.buffer? other)
    (pass : next.pass.work? = reception.pass.work?) (other : Nat) :
    next.owned other = reception.owned other + if index = other then 1 else 0 := by
  rw [owned, owned, Pass.has, Pass.has, pass]
  split
  next same =>
    subst same
    rw [vacant, Option.isSome_iff_ne_none.mpr filled, Option.isSome_none, Bool.toNat_true,
      Bool.toNat_false]
    omega
  next apart => rw [others other apart, Nat.add_zero]

/-- The transfer whose turn it is brings a buffer into its slot. -/
theorem owned_file {transfer : Transfer Buffer}
    (below : reception.ring.stop < reception.ring.slots.length)
    (vacant : reception.ring.buffer? reception.ring.stop = none)
    (ring : next.ring = reception.ring.file transfer) (pass : next.pass = reception.pass)
    (other : Nat) : next.owned other =
      reception.owned other + if reception.ring.stop = other then 1 else 0 := by
  refine owned_fill vacant ?_ ?_ (congrArg Pass.work? pass) other
  · rw [ring, Ring.buffer?_file below, if_pos rfl]
    exact Option.some_ne_none _
  · intro other apart
    rw [ring, Ring.buffer?_file below, if_neg apart]

/-- A buffer is put back into its empty slot. -/
theorem owned_putBack {index : Nat} {buffer : Buffer}
    (below : index < reception.ring.slots.length)
    (vacant : reception.ring.buffer? index = none)
    (ring : next.ring = reception.ring.putBack index buffer)
    (pass : next.pass.work? = reception.pass.work?) (other : Nat) :
    next.owned other = reception.owned other + if index = other then 1 else 0 := by
  refine owned_fill vacant ?_ ?_ pass other
  · rw [ring, Ring.buffer?_putBack below vacant, if_pos rfl]
    exact Option.some_ne_none _
  · intro other apart
    rw [ring, Ring.buffer?_putBack below vacant, if_neg apart]

/-- The pass takes a buffer out of its slot. -/
theorem owned_take {index : Nat} {ring : Ring ReceiveSlot} {slot : ReceiveSlot} {buffer : Buffer}
    (popping : reception.pass = .popping)
    (retired : reception.ring.retire? = some (index, ring))
    (found : ring.slots[index]? = some slot) (held : slot.buffer = some buffer)
    (vacated : next.ring = ring.vacate index)
    (taken : next.pass.work? = some ⟨index, slot.handle, buffer⟩) :
    next.owned = reception.owned := by
  have before : reception.ring.buffer? index = some buffer := by
    rw [← Ring.buffer?_retire retired]
    exact Ring.buffer?_eq_some_iff.mpr ⟨slot, found, held⟩
  funext other
  rw [owned, owned, Pass.has, Pass.has, popping, taken, vacated, Ring.buffer?_vacate,
    Ring.buffer?_retire retired]
  split
  next same =>
    subst same
    simp [before, Pass.work?]
  next apart => simp [Pass.work?, apart]

/-- Every step of a device that lives keeps the buffers in balance, if the transport
gives back only what it holds and the handles stay distinct. -/
theorem Balances.step (balances : reception.Balances ledger) (placed : reception.Placed)
    (sound : reception.Sound) (step : Step reception event next) (alive : next.stage ≠ .dead)
    (distinct : next.ring.handles.Nodup)
    (returned : ∀ handle, event.returned? = some handle → handle ∈ ledger.held) :
    next.Balances (ledger.move event.returned? event.submitted?.toList) := by
  have living := step.alive alive
  cases step with
  | acquisitionFailed | slotMissing | postRefused | closed => exact absurd rfl alive
  | drained begun => exact absurd (sound.begun begun) alive
  | @acquired slots created count filled =>
      -- nothing was known to the transport, so nothing is held or lost yet
      have untouched := sound.untouched created
      subst untouched
      have empty := balances.ledger_eq_of_untouched
      subst empty
      refine ⟨distinct, ?_, ?_⟩
      · intro handle member
        cases member
      · intro index handle named
        have below : index < slots.length := Ring.lt_of_handles named
        obtain ⟨buffer, held⟩ := Option.isSome_iff_exists.mp (filled _ (List.getElem_mem below))
        simp [owned, Pass.has, Pass.work?, Ring.buffer?, Ring.extend, Reception.untouched,
          Ring.empty, List.getElem?_eq_getElem below, held, Ledger.move, Event.returned?,
          Event.ended?, Event.refused?, Event.submitted?]
  | @posted index slot buffer posting below found held =>
      refine balances.give (Ring.handles_of_slot found) (Ring.handles_vacate _ _) ?_
      refine owned_fill ?_ ?_ ?_ rfl
      · rw [Ring.buffer?_vacate, if_pos rfl]
      · rw [Ring.buffer?_eq_some_iff.mpr ⟨slot, found, held⟩]
        exact Option.some_ne_none _
      · intro other apart
        rw [Ring.buffer?_vacate, if_neg apart]
  | @filed transfer expected =>
      have held := returned transfer.handle rfl
      have named := expected.handles_stop
      obtain ⟨vacant, -⟩ := balances.vacant named held
      exact balances.receive named held (Ring.handles_file _ _)
        (owned_file (Ring.lt_of_handles named) vacant rfl rfl)
  | @dismissed transfer unexpected ownerless =>
      obtain ⟨complete, owner⟩ := balances.owner_ne_none sound living (returned _ rfl)
      exact absurd (ownerless complete) owner
  | @dismissedTo transfer index unexpected _ owner =>
      have held := returned transfer.handle rfl
      have named := Ring.handles_of_position? owner
      obtain ⟨vacant, -⟩ := balances.vacant named held
      exact balances.receive named held (Ring.handles_putBack _ _ _)
        (owned_putBack (Ring.lt_of_handles named) vacant rfl rfl)
  | passStarted entered =>
      refine balances.move_nothing rfl ?_
      funext index
      rw [owned, owned, sound.idle_of_enter? entered]
      rfl
  | nothingLeft popping =>
      refine balances.move_nothing rfl ?_
      funext index
      rw [owned, owned, popping, leave]
      split <;> rfl
  | slotLost popping retired missing =>
      have accepts := sound.accepts_of_active living (by simp [popping])
      exact absurd missing (sound.slot_ne_none_of_retire accepts retired)
  | slotSkipped popping retired found absent =>
      exact absurd absent (placed.buffer_ne_none sound retired found)
  | opened popping retired found held | setAside popping retired found held =>
      refine balances.move_nothing ?_ (owned_take popping retired found held rfl rfl)
      exact (Ring.handles_vacate _ _).trans (Ring.handles_retire retired)
  | @givenBack work returning =>
      refine balances.give (placed.named work (by rw [returning]; rfl)) rfl ?_
      intro other
      have before : reception.pass.has other = (work.index == other) := by
        rw [returning]
        rfl
      show (_ : Nat) + _ = (_ + (false).toNat) + _
      rw [before]
      split
      next same => simp [same]
      next apart => simp [apart]
  | kept returning shut =>
      -- a pass that puts a buffer back unasked has met a dead device
      have accepts := sound.accepts_of_active living (by simp [returning])
      rw [accepts] at shut
      contradiction
  | @refused work stage submitting =>
      have held := returned work.handle rfl
      have named := placed.named work (by rw [submitting]; rfl)
      obtain ⟨vacant, -⟩ := balances.vacant named held
      exact balances.receive named held (Ring.handles_putBack _ _ _)
        (owned_putBack (Ring.lt_of_handles named) vacant rfl (by rw [submitting]; rfl))
  | walked place | rejected place | dropped place | handedUp place | judged place
  | taken place =>
      refine balances.move_nothing rfl ?_
      funext index
      rw [owned, owned, place]
      rfl
  | unchanged | passedOver | cameUp | postTaken => exact balances.move_nothing rfl rfl

/-! ## No buffer is replaced -/

/-- A slot without a buffer leaves room in the window. -/
theorem Placed.room (placed : reception.Placed) (sound : reception.Sound) {index : Nat}
    (below : index < reception.ring.slots.length) (vacant : reception.ring.buffer? index = none) :
    reception.ring.isFull = false := by
  have within : index < reception.ring.capacity := below.trans_le sound.ring.slots_le
  have place := (Ring.perm_range sound.ring).mem_iff.mpr (List.mem_range.mpr within)
  rw [List.mem_append] at place
  rcases place with inWindow | inGap
  · exact absurd vacant (placed.filled index inWindow)
  · obtain ⟨offset, room, -⟩ := List.mem_map.mp inGap
    rw [List.mem_range] at room
    simp only [Ring.isFull, decide_eq_false_iff_not, Nat.not_le]
    omega

/-- A transfer that ends finds its slot without a buffer and leaves its buffer
there. -/
theorem Balances.ended_step (balances : reception.Balances ledger) (sound : reception.Sound)
    (step : Step reception event next) (living : reception.stage ≠ .dead)
    {transfer : Transfer Buffer} (ended : event.ended? = some transfer)
    (held : transfer.handle ∈ ledger.held) :
    ∃ index, reception.ring.handles[index]? = some transfer.handle ∧
      reception.ring.buffer? index = none ∧ next.ring.buffer? index = some transfer.content := by
  cases step with
  | filed expected =>
      cases ended
      have named := expected.handles_stop
      refine ⟨_, named, (balances.vacant named held).1, ?_⟩
      rw [Ring.buffer?_file (Ring.lt_of_handles named), if_pos rfl]
  | dismissed unexpected ownerless =>
      cases ended
      obtain ⟨complete, owner⟩ := balances.owner_ne_none sound living held
      exact absurd (ownerless complete) owner
  | @dismissedTo _ index unexpected complete owner =>
      cases ended
      have named := Ring.handles_of_position? owner
      obtain ⟨vacant, -⟩ := balances.vacant named held
      refine ⟨index, named, vacant, ?_⟩
      rw [Ring.buffer?_putBack (Ring.lt_of_handles named) vacant, if_pos rfl]
  | _ => cases ended

/-- A buffer that is refused goes back to its slot. -/
theorem Balances.refused_step (balances : reception.Balances ledger) (placed : reception.Placed)
    (step : Step reception event next) (alive : next.stage ≠ .dead) {handle : Handle}
    (refused : event.refused? = some handle) (held : handle ∈ ledger.held) :
    ∃ work, reception.pass = .submitting work ∧ work.handle = handle ∧
      reception.ring.handles[work.index]? = some handle ∧
      reception.ring.buffer? work.index = none ∧
      next.ring.buffer? work.index = some work.buffer := by
  cases step with
  | postRefused => exact absurd rfl alive
  | @refused work stage submitting =>
      cases refused
      have named := placed.named work (by rw [submitting]; rfl)
      obtain ⟨vacant, -⟩ := balances.vacant named held
      refine ⟨work, submitting, rfl, named, vacant, ?_⟩
      rw [Ring.buffer?_putBack (Ring.lt_of_handles named) vacant, if_pos rfl]
  | _ => cases refused

/-- No buffer is replaced, and one leaves its slot only to be submitted or taken by
the pass. -/
theorem Balances.kept_step (balances : reception.Balances ledger) (sound : reception.Sound)
    (step : Step reception event next) (alive : next.stage ≠ .dead)
    (returned : ∀ handle, event.returned? = some handle → handle ∈ ledger.held)
    {index : Nat} {buffer : Buffer} (held : reception.ring.buffer? index = some buffer) :
    next.ring.buffer? index = some buffer ∨
      next.ring.buffer? index = none ∧ ∃ handle,
        next.pass.work? = some ⟨index, handle, buffer⟩ ∨
          next.bringUp = .submitting ⟨index, handle, buffer⟩ := by
  have taken : ∀ {first : Nat} {ring : Ring ReceiveSlot} {slot : ReceiveSlot} {own : Buffer},
      ring.slots[first]? = some slot → slot.buffer = some own → ring.buffer? index = some buffer →
      (ring.vacate first).buffer? index = some buffer ∨
        (ring.vacate first).buffer? index = none ∧ first = index ∧ own = buffer := by
    intro first ring slot own found holds before
    rw [Ring.buffer?_vacate]
    split
    next same =>
      subst same
      rw [Ring.buffer?_eq_some_iff.mpr ⟨slot, found, holds⟩, Option.some.injEq] at before
      exact Or.inr ⟨rfl, rfl, before⟩
    next => exact Or.inl before
  cases step with
  | acquisitionFailed | slotMissing | postRefused | closed => exact absurd rfl alive
  | drained begun => exact absurd (sound.begun begun) alive
  | acquired created =>
      rw [sound.untouched created] at held
      simp [Ring.buffer?, Reception.untouched, Ring.empty] at held
  | posted posting below found holds =>
      rcases taken found holds held with still | ⟨vacated, rfl, rfl⟩
      · exact Or.inl still
      · exact Or.inr ⟨vacated, _, Or.inr rfl⟩
  | opened popping retired found holds | setAside popping retired found holds =>
      rw [← Ring.buffer?_retire retired] at held
      rcases taken found holds held with still | ⟨vacated, rfl, rfl⟩
      · exact Or.inl still
      · exact Or.inr ⟨vacated, _, Or.inl rfl⟩
  | @filed transfer expected =>
      have named := expected.handles_stop
      have vacant := (balances.vacant named (returned _ rfl)).1
      rw [Ring.buffer?_file (Ring.lt_of_handles named), if_neg]
      · exact Or.inl held
      · rintro rfl
        rw [vacant] at held
        contradiction
  | dismissedTo | kept | refused => exact Or.inl (Ring.buffer?_putBack_of_eq_some held)
  | slotLost _ retired | slotSkipped _ retired =>
      exact Or.inl ((congrFun (Ring.buffer?_retire retired) index).trans held)
  | unchanged | passedOver | cameUp | postTaken | dismissed | passStarted | nothingLeft | walked
  | rejected | dropped | handedUp | judged | givenBack | taken => exact Or.inl held

/-! ## Totals -/

/-- The buffers in slots are those of the window and the parked ones. -/
theorem Placed.sum_buffers (placed : reception.Placed) (sound : reception.Sound) :
    ((List.range receiveSlots).map fun index =>
        (reception.ring.buffer? index).isSome.toNat).sum =
      reception.ring.used + reception.ring.parked.length := by
  have everywhere := Ring.perm_range sound.ring
  rw [sound.capacity] at everywhere
  rw [sum_map_toNat, ← everywhere.countP_eq, List.countP_append, Ring.parked,
    ← List.countP_eq_length_filter, ← Ring.length_window reception.ring]
  congr 1
  rw [List.countP_eq_length]
  intro index member
  exact Option.isSome_iff_ne_none.mpr (placed.filled index member)

/-- The pass has one buffer or none. -/
theorem Placed.sum_has (placed : reception.Placed) (sound : reception.Sound) :
    ((List.range receiveSlots).map fun index => (reception.pass.has index).toNat).sum =
      reception.pass.work?.toList.length := by
  rw [sum_map_toNat]
  cases has : reception.pass.work? with
  | none => simp [Pass.has, has]
  | some work =>
      have below := Ring.lt_of_handles (placed.named work (Pass.carried?_of_work? has))
      have within : work.index < receiveSlots :=
        (below.trans_le sound.ring.slots_le).trans_eq sound.capacity
      have only : reception.pass.has = (· == work.index) := by
        funext index
        rw [Pass.has, has, Option.any_some, Bool.beq_comm]
      rw [only]
      exact List.count_eq_one_of_mem List.nodup_range (List.mem_range.mpr within)

/-- Once everything is acquired, the buffers add up. -/
theorem Balances.total (balances : reception.Balances ledger) (placed : reception.Placed)
    (sound : reception.Sound) (accepts : reception.stage.accepts = true) :
    reception.ring.used + reception.ring.parked.length + reception.pass.work?.toList.length +
      ledger.held.length + ledger.lost.length = receiveSlots := by
  have size : reception.ring.handles.length = receiveSlots := by
    rw [Ring.handles, List.length_map, sound.populated accepts]
  have names : reception.ring.handles.zipIdx.map Prod.fst = reception.ring.handles :=
    List.zipIdx_map_fst 0 _
  have places : reception.ring.handles.zipIdx.map Prod.snd = List.range receiveSlots := by
    rw [List.zipIdx_map_snd, size, List.range_eq_range']
  have once : ∀ place ∈ reception.ring.handles.zipIdx,
      reception.owned place.2 + ledger.held.count place.1 + ledger.lost.count place.1 = 1 :=
    fun place member => balances.once place.2 place.1 (List.mem_zipIdx_iff_getElem?.mp member)
  have whole :
      ((reception.ring.handles.zipIdx.map Prod.snd).map reception.owned).sum +
          ((reception.ring.handles.zipIdx.map Prod.fst).map ledger.held.count).sum +
        ((reception.ring.handles.zipIdx.map Prod.fst).map ledger.lost.count).sum =
      receiveSlots := by
    rw [List.map_map, List.map_map, List.map_map, ← List.sum_map_add, ← List.sum_map_add]
    simp only [Function.comp]
    rw [List.map_congr_left once]
    simp [size]
  have known := balances.known
  rw [List.forall_mem_append] at known
  have owned : ((List.range receiveSlots).map reception.owned).sum =
      reception.ring.used + reception.ring.parked.length +
        reception.pass.work?.toList.length := by
    rw [← placed.sum_buffers sound, ← placed.sum_has sound, ← List.sum_map_add]
    rfl
  rw [names, places, owned, sum_map_count balances.distinct known.1,
    sum_map_count balances.distinct known.2] at whole
  exact whole

end Reception

/-! ## Runs -/

namespace Moment

/-- Where the transport is honest, it holds what an event gives back. -/
theorem Honest.returned_of_tells {losses : Nat → List Handle} {past : History} {moment : Moment}
    (honest : moment.Honest losses past) {event : Reception.Event} (tells : event.Tells moment) :
    ∀ handle, event.returned? = some handle → handle ∈ (past.ledger losses).held := by
  intro handle comes
  apply honest.returned handle
  rw [returned?, tells.ended, tells.refused]
  exact comes

/-- A device that lives has no unfinished teardown beside which buffers could be
posted. -/
theorem isOrderly_of_issuesDistinct {moment : Moment} (sound : moment.before.Sound)
    (living : moment.before.device.stage ≠ .dead) (distinct : moment.issuesDistinct = true) :
    moment.isOrderly = true := by
  obtain ⟨engine, input⟩ := moment
  cases input with
  | startBringUp supply => exact distinct
  | proceedBringUp =>
      have finished : engine.teardowns = 0 := by
        by_contra begun
        exact living (sound.reception.begun begun)
      simp [isOrderly, finished]
  | _ => rfl

/-- What becomes of the receive buffers.  A transfer that ends finds the ring not
full and its slot empty, and leaves its buffer there.  So does a buffer that the
pass submitted and the transport refuses.  Any other buffer stays in its slot, or
it is submitted or taken by the pass. -/
structure Preserves (moment : Moment) : Prop where
  ended : ∀ transfer ∈ moment.ended?, moment.before.receive.isFull = false ∧
    ∃ index, moment.before.receive.handles[index]? = some transfer.handle ∧
      moment.before.receive.buffer? index = none ∧
      moment.after.receive.buffer? index = some transfer.content
  refused : ∀ handle ∈ moment.refused?, ∃ work, moment.before.pass = .submitting work ∧
    work.handle = handle ∧ moment.before.receive.handles[work.index]? = some handle ∧
    moment.before.receive.buffer? work.index = none ∧
    moment.after.receive.buffer? work.index = some work.buffer
  kept : ∀ index buffer, moment.before.receive.buffer? index = some buffer →
    moment.after.receive.buffer? index = some buffer ∨
      moment.after.receive.buffer? index = none ∧ ∃ handle,
        moment.after.pass.work? = some ⟨index, handle, buffer⟩ ∨
          moment.after.bringUp = .submitting ⟨index, handle, buffer⟩

end Moment

namespace History

/-- Every buffer of an engine is accounted for after a history. -/
structure Conserves (losses : Nat → List Handle) (engine : Engine) (history : History) :
    Prop where
  kept : engine.custody.Kept (history.flatMap Moment.effects)
  placed : engine.reception.Placed
  balances : engine.reception.Balances (history.ledger losses)
  preserved : ∀ moment ∈ history, moment.Preserves

variable {losses : Nat → List Handle}

theorem conserves_fresh (config : Config) : Conserves losses (Engine.fresh config) [] where
  kept := (Engine.orderly_fresh config).kept
  placed := Reception.placed_untouched
  balances :=
    { distinct := List.nodup_nil
      known := fun _ member => nomatch member
      once := fun _ _ named => nomatch named }
  preserved := fun _ member => nomatch member

theorem Conserves.after {history : History} {moment : Moment}
    (conserves : Conserves losses moment.before history) (sound : moment.before.Sound)
    (distinct : moment.issuesDistinct = true) (honest : moment.Honest losses history)
    (alive : moment.after.device.stage ≠ .dead) :
    Conserves losses moment.after (history ++ [moment]) := by
  obtain ⟨event, step, tells⟩ := moment.reception_step
  have received := sound.reception
  have living := step.alive alive
  have placed := conserves.placed
  have balances := conserves.balances
  have returned := honest.returned_of_tells tells
  have kept : moment.after.custody.Kept ((history ++ [moment]).flatMap Moment.effects) := by
    rw [List.flatMap_append, List.flatMap_singleton]
    exact conserves.kept.step
      (moment.custody_step sound (Moment.isOrderly_of_issuesDistinct sound living distinct))
  have undrained : event ≠ .drained := by
    rintro rfl
    exact living (received.begun step.begun_of_drained)
  have posted : ∀ transfer, event = .filed transfer →
      moment.before.receive.stop ∉ moment.before.bringUp.unposted := by
    rintro transfer rfl unposted
    have vacant := (balances.vacant step.expects_of_filed.handles_stop (returned _ rfl)).1
    exact (placed.unposted _ unposted).2 vacant
  have preserves : moment.Preserves := by
    refine ⟨?_, ?_, fun index buffer => balances.kept_step received step alive returned⟩
    · intro transfer ended
      rw [Option.mem_def, tells.ended] at ended
      have held := returned _ (Reception.Event.returned?_of_ended? ended)
      obtain ⟨index, named, before, behind⟩ :=
        balances.ended_step received step living ended held
      exact ⟨placed.room received (Ring.lt_of_handles named) before, index, named, before, behind⟩
    · intro handle refused
      rw [Option.mem_def, tells.refused] at refused
      have held := returned _ (Reception.Event.returned?_of_refused? refused)
      exact balances.refused_step placed step alive refused held
  refine ⟨kept, placed.step received step undrained posted, ?_, ?_⟩
  · rw [ledger_concat]
    have moved := balances.step placed received step alive kept.nodup_receive returned
    have same : moment.returned? = event.returned? := by
      rw [Moment.returned?, tells.ended, tells.refused]
      rfl
    rw [← same, ← tells.reposted] at moved
    exact moved.lose honest.lost
  · intro earlier member
    rcases List.mem_append.mp member with early | last
    · exact conserves.preserved earlier early
    · rw [List.mem_singleton.mp last]
      exact preserves

/-- Every buffer is accounted for after every run of a device that lives. -/
theorem conserves (config : Config) (inputs : List Input)
    (distinct : ∀ moment ∈ (Engine.fresh config).history inputs, moment.issuesDistinct = true)
    (honest : Throughout (Moment.Honest losses) ((Engine.fresh config).history inputs))
    (alive : ((Engine.fresh config).run inputs).1.device.stage ≠ .dead) :
    Conserves losses ((Engine.fresh config).run inputs).1
      ((Engine.fresh config).history inputs) := by
  induction inputs using List.reverseRecOn with
  | nil => exact conserves_fresh config
  | append_singleton inputs input hypothesis =>
      rw [Engine.history_concat] at distinct honest
      rw [Throughout.concat_iff] at honest
      rw [Engine.run_concat] at alive
      obtain ⟨event, step, -⟩ :=
        (Moment.mk ((Engine.fresh config).run inputs).1 input).reception_step
      have before := hypothesis (fun moment member => distinct moment (by simp [member]))
        honest.1 (step.alive alive)
      rw [Engine.run_concat, Engine.history_concat]
      exact before.after (Engine.sound_run config inputs) (distinct _ (by simp)) honest.2 alive

end History

/-- The ring is found full only by a transfer that ends. -/
theorem Moment.isFull_of_anomaly? {moment : Moment}
    (met : moment.anomaly? = some .receiveRingFull) :
    ∃ transfer, moment.ended? = some transfer ∧ moment.before.receive.isFull = true := by
  obtain ⟨transfer, input, -⟩ := Engine.not_expects_of_anomaly? met rfl
  refine ⟨transfer, by rw [ended?, input], ?_⟩
  rw [anomaly?, input] at met
  simp only [Engine.anomaly?] at met
  split at met
  · contradiction
  · split at met
    next full => exact full
    next => split at met <;> cases met

namespace Engine

/-- No receive buffer is lost or duplicated by an engine that is up, over whole
runs.  The transport may return the buffers that it holds in any order and with any
status, refuse them and lose them.  The buffer of every slot is in the slot, with
the pass, with the transport or lost, and in one of these places only, so that the
buffers add up; without a pass there are only three places.  No transfer ever finds
the ring full or a buffer in its slot, and no buffer in a slot is replaced. -/
theorem receive_buffers_conserved (config : Config) (inputs : List Input)
    (losses : Nat → List Handle) (up : History.IsUp ((fresh config).history inputs))
    (distinct : ∀ moment ∈ (fresh config).history inputs, moment.issuesDistinct = true)
    (honest : Throughout (Moment.Honest losses) ((fresh config).history inputs)) :
    let history := (fresh config).history inputs
    let engine := ((fresh config).run inputs).1
    let ledger := history.ledger losses
    (∀ index < receiveSlots, ∃ handle, engine.receive.handles[index]? = some handle ∧
        (engine.receive.buffer? index).isSome.toNat + (engine.pass.has index).toNat +
          ledger.held.count handle + ledger.lost.count handle = 1) ∧
      engine.receiveOccupancy + engine.receive.parked.length +
          engine.pass.work?.toList.length + ledger.held.length + ledger.lost.length =
        receiveSlots ∧
      (engine.pass = .idle →
        (∀ index < receiveSlots, ∃ handle, engine.receive.handles[index]? = some handle ∧
          (engine.receive.buffer? index).isSome.toNat +
            ledger.held.count handle + ledger.lost.count handle = 1) ∧
        engine.receiveOccupancy + engine.receive.parked.length +
          ledger.held.length + ledger.lost.length = receiveSlots) ∧
      (∀ moment ∈ history, moment.Preserves) ∧
      engine.reported.has .receiveRingFull = false ∧
      ∀ effect ∈ ((fresh config).run inputs).2, effect.warned? ≠ some .receiveRingFull := by
  intro history engine ledger
  have conserves := History.conserves config inputs distinct honest up.alive
  have received := (sound_run config inputs).reception
  have accepts := up.reception.1
  have once : ∀ index < receiveSlots, ∃ handle,
      engine.receive.handles[index]? = some handle ∧
        (engine.receive.buffer? index).isSome.toNat + (engine.pass.has index).toNat +
          ledger.held.count handle + ledger.lost.count handle = 1 := by
    intro index below
    have within : index < engine.receive.handles.length := by
      rw [Ring.handles, List.length_map]
      exact below.trans_eq (received.populated accepts).symm
    have named := List.getElem?_eq_getElem within
    exact ⟨_, named, conserves.balances.once index _ named⟩
  have total := conserves.balances.total conserves.placed received accepts
  have room : ∀ moment ∈ history, moment.anomaly? ≠ some .receiveRingFull := by
    intro moment member met
    obtain ⟨transfer, ended, full⟩ := Moment.isFull_of_anomaly? met
    have notFull := ((conserves.preserved moment member).ended transfer ended).1
    rw [full] at notFull
    contradiction
  refine ⟨once, total, ?_, conserves.preserved, ?_, ?_⟩
  · intro idle
    rw [idle] at once
    have nothing : engine.reception.pass.work? = none := congrArg Pass.work? idle
    rw [nothing] at total
    exact ⟨once, total⟩
  · rw [← Bool.not_eq_true, has_run]
    rintro ⟨moment, member, met⟩
    exact room moment member met
  · intro effect member warned
    obtain ⟨moment, inHistory, met⟩ := exists_of_warned config inputs member warned
    exact room moment inHistory met

/-- The inputs of a run in which a transfer ends out of turn, another one in turn,
and the transport refuses the buffer that the pass gives back. -/
def refusalInputs : List Input :=
  let all : Memory := fun _ => true
  bringUpInputs ++
    [.completeReceive ⟨385, ⟨[1]⟩, .io 5, 0⟩, .completeReceive ⟨384, ⟨[2]⟩, .io 5, 0⟩,
      .startPass, .proceedPass all, .proceedPass all, .answerRepost (some ⟨.io 5, false⟩),
      .proceedPass all]

/-- In that run the transport also loses a buffer.  At its end two slots outside the
window hold their buffers. -/
theorem receive_buffers_conserved_refusal :
    let losses : Nat → List Handle := fun place => if place = 36 then [390] else []
    let history := (fresh .small).history refusalInputs
    let engine := ((fresh .small).run refusalInputs).1
    let ledger := history.ledger losses
    History.IsUp history ∧ Throughout (Moment.Honest losses) history ∧ engine.pass = .idle ∧
      engine.receive.parked = [1, 0] ∧ ledger.lost = [390] ∧ ledger.held.length = 13 ∧
      engine.receiveOccupancy + engine.receive.parked.length +
        ledger.held.length + ledger.lost.length = receiveSlots := by
  intro losses history engine ledger
  have facts : History.IsUp history ∧ Throughout (Moment.Honest losses) history ∧
      engine.pass = .idle ∧ engine.receive.parked = [1, 0] ∧ ledger.lost = [390] ∧
      ledger.held.length = 13 := by
    decide +kernel
  obtain ⟨up, honest, idle, parked, lost, held⟩ := facts
  have distinct : ∀ moment ∈ history, moment.issuesDistinct = true := by
    -- deciding that the handles supplied are distinct would compare each with each
    show ∀ moment ∈ (fresh .small).history refusalInputs, moment.issuesDistinct = true
    rw [refusalInputs, bringUpInputs, List.cons_append, Engine.history, List.forall_mem_cons]
    constructor
    · simp only [Moment.issuesDistinct, Supply.nodup_ample, decide_true]
    · decide +kernel
  obtain ⟨-, -, boundary, -⟩ :=
    receive_buffers_conserved .small refusalInputs losses up distinct honest
  exact ⟨up, honest, idle, parked, lost, held, (boundary idle).2⟩

end Engine

end WlanDatapath
