import Mathlib.Algebra.Order.BigOperators.Group.Finset
import WlanDatapath.Proofs.CutOff
import WlanDatapath.Proofs.FlowControl

/-!
# Transfers that never end

The ring of an output endpoint is retired at its front only, by the end of the transfer
there.  A transfer whose end was dismissed, or that the transport lost, does not end
again: the transport no longer has it, and the transport gets its handle again only with
the slot behind the window, which a slot in the window reaches by being retired.

So such a transfer is stranded (`Transmission.Stranded`).  Each transfer that is retired
brings the front of the window one slot closer to it, nothing retires it, and the frames
that still fit behind it are the last ones that the endpoint accepts.
`stranded_transfer_wedges_endpoint` says this of every continuation of a run until the
device is torn down.

What carries the argument is that the transport has no more than what is in flight
(`Transmission.Backed`), whichever of its transfers it ends, on whichever address, and
whichever it loses.
-/

namespace WlanDatapath

/-! ## Places in the window -/

namespace Ring

variable {Slot : Type} {ring : Ring Slot} {index place : Nat}

/-- The slot at a place of the window is that many slots behind its front. -/
theorem eq_of_turn (turn : ring.window[place]? = some index) :
    place < ring.used ∧ (ring.start + place) % ring.capacity = index := by
  rw [window, List.getElem?_map, Option.map_eq_some_iff] at turn
  obtain ⟨offset, inRange, rfl⟩ := turn
  obtain ⟨below, rfl⟩ := List.getElem?_eq_some_iff.mp inRange
  rw [List.length_range] at below
  rw [List.getElem_range]
  exact ⟨below, rfl⟩

/-- The place of a slot in the window is its distance from the front. -/
theorem turn_eq (sound : ring.WellFormed) (turn : ring.window[place]? = some index) :
    place = (index + ring.capacity - ring.start) % ring.capacity := by
  obtain ⟨below, same⟩ := eq_of_turn turn
  exact distance_eq sound.start_lt (below.trans_le sound.used_le) same

/-- A handle is in use where the window has a slot with it. -/
theorem mem_inUse_iff {ring : Ring Handle} {handle : Handle} :
    some handle ∈ ring.inUse ↔ ∃ index ∈ ring.window, ring.slots[index]? = some handle :=
  List.mem_map

end Ring

/-! ## Handles have one place -/

/-- No handle is in two slots of the output endpoints. -/
def Transmission.Distinct (transmission : Transmission) : Prop :=
  ∀ (first second : Lane) (early late : Nat) (handle : Handle),
    (transmission.lanes.get first).slots[early]? = some handle →
    (transmission.lanes.get second).slots[late]? = some handle → first = second ∧ early = late

/-- A handle is in the ring of one endpoint at most as often as in all of them. -/
theorem Custody.count_transmit_le (custody : Custody) (lane : Lane) (handle : Handle) :
    (custody.transmit lane).count handle ≤ ∑ lane, (custody.transmit lane).count handle := by
  let counts : Lane → Nat := fun lane => (custody.transmit lane).count handle
  show counts lane ≤ ∑ lane, counts lane
  exact Finset.single_le_sum_of_canonicallyOrdered (Finset.mem_univ lane)

namespace Custody.Kept

variable {custody : Custody} {trace : List Effect}

/-- No handle is counted twice. -/
theorem count_le_one (kept : Kept custody trace) (handle : Handle) : custody.count handle ≤ 1 := by
  have bound := List.nodup_iff_count_le_one.mp kept.distinct handle
  have balance := kept.balanced handle
  omega

/-- A handle of an output endpoint is no handle of the receive ring. -/
theorem notMem_receive (kept : Kept custody trace) {lane : Lane} {handle : Handle}
    (member : handle ∈ custody.transmit lane) : handle ∉ custody.receive := by
  intro received
  have bound := kept.count_le_one handle
  have here := List.count_pos_iff.mpr member
  have there := List.count_pos_iff.mpr received
  have part := custody.count_transmit_le lane handle
  rw [count] at bound
  omega

/-- A handle of an output endpoint is in one slot. -/
theorem place_unique (kept : Kept custody trace) {first second : Lane} {early late : Nat}
    {handle : Handle} (here : (custody.transmit first)[early]? = some handle)
    (there : (custody.transmit second)[late]? = some handle) : first = second ∧ early = late := by
  have same : first = second := by
    by_contra apart
    have bound := kept.count_le_one handle
    have mine := List.count_pos_iff.mpr (List.mem_of_getElem? here)
    have others := List.count_pos_iff.mpr (List.mem_of_getElem? there)
    have pair : ∑ lane ∈ {first, second}, (custody.transmit lane).count handle ≤
        ∑ lane, (custody.transmit lane).count handle :=
      Finset.sum_le_sum_of_subset (Finset.subset_univ _)
    rw [Finset.sum_pair apart] at pair
    rw [count] at bound
    omega
  subst same
  have nodup : (custody.transmit first).Nodup := by
    rw [List.nodup_iff_count_le_one]
    intro other
    have bound := kept.count_le_one other
    have part := custody.count_transmit_le first other
    rw [count] at bound
    omega
  exact ⟨rfl, (List.getElem?_inj (List.getElem?_eq_some_iff.mp here).1 nodup).mp
    (here.trans there.symm)⟩

end Custody.Kept

theorem Engine.distinct_transmission {engine : Engine} {trace : List Effect}
    (kept : engine.custody.Kept trace) : engine.transmission.Distinct :=
  fun _ _ _ _ _ here there => kept.place_unique here there

/-! ## What the transport has of transmission -/

namespace Moment

/-- The handle of the transmit transfer that ends. -/
def sentHandle? (moment : Moment) : Option Handle :=
  moment.sent?.map (·.2.handle)

/-- The handles on which the transport takes frames. -/
def launched (moment : Moment) : List Handle :=
  moment.transmitted.filterMap fun submission =>
    if submission.2.2 = none then some submission.2.1.handle else none

/-- The transfer that is retired on an endpoint. -/
def retiredOn? (lane : Lane) (moment : Moment) : Option (Transfer Outgoing) :=
  moment.retiring?.bind fun retired => if retired.1 = lane then some retired.2 else none

end Moment

namespace History

/-- What the transport has of transmission after a history, if it loses given transfers
after each moment. -/
def flights (losses : Nat → List Handle) (history : History) : Ledger :=
  history.zipIdx.foldl
    (fun ledger place =>
      (ledger.move place.1.sentHandle? place.1.launched).lose (losses place.2)) {}

@[simp]
theorem flights_nil (losses : Nat → List Handle) : flights losses [] = {} := rfl

@[simp]
theorem flights_concat (losses : Nat → List Handle) (history : History) (moment : Moment) :
    flights losses (history ++ [moment]) =
      ((history.flights losses).move moment.sentHandle? moment.launched).lose
        (losses history.length) := by
  simp [flights, List.zipIdx_append]

/-- The transfers that were retired on an endpoint, in order. -/
def retiredOn (history : History) (lane : Lane) : List (Transfer Outgoing) :=
  history.filterMap (Moment.retiredOn? lane)

@[simp]
theorem retiredOn_concat (history : History) (moment : Moment) (lane : Lane) :
    retiredOn (history ++ [moment]) lane =
      history.retiredOn lane ++ (moment.retiredOn? lane).toList := by
  simp [retiredOn, List.filterMap_eq_flatMap_toList]

end History

/-- The transport ends only transfers that it has. -/
def Moment.EndsHeld (losses : Nat → List Handle) (past : History) (moment : Moment) : Prop :=
  ∀ handle ∈ moment.sentHandle?, handle ∈ (past.flights losses).held

instance (losses : Nat → List Handle) (past : History) (moment : Moment) :
    Decidable (moment.EndsHeld losses past) :=
  -- the quantifier is decided over what ends, not over all handles
  decidable_of_iff
    ((moment.sentHandle?.all fun handle => (past.flights losses).held.contains handle) = true)
    (by
      rw [Option.all_eq_true]
      simp only [List.contains_iff_mem]
      exact Iff.rfl)

namespace Transmission

variable {transmission next : Transmission} {event : Event} {ledger : Ledger} {lane : Lane}

namespace Event

/-- The handle of the transfer that ends. -/
def sentHandle? (event : Event) : Option Handle :=
  event.sent?.map (·.2.handle)

/-- The handles on which the transport takes frames. -/
def launched (event : Event) : List Handle :=
  (event.taken?.map (·.2.handle)).toList

theorem Tells.sentHandle? {moment : Moment} (tells : event.Tells moment) :
    moment.sentHandle? = event.sentHandle? :=
  congrArg _ tells.sent

theorem Tells.launched {moment : Moment} (tells : event.Tells moment) :
    moment.launched = event.launched := by
  rw [Moment.launched, tells.transmitted]
  cases event <;> rfl

end Event

/-! ### The transport has what is in flight -/

/-- The transport has each transfer once, and it is in flight on some endpoint. -/
structure Backed (transmission : Transmission) (ledger : Ledger) : Prop where
  once : ledger.held.Nodup
  inUse : ∀ handle ∈ ledger.held, ∃ lane : Lane,
    some handle ∈ (transmission.lanes.get lane).inUse

/-- A handle stays in use until its transfer ends. -/
theorem Sound.inUse_step (sound : transmission.Sound) (step : Step transmission event next)
    (undrained : event ≠ .drained) {handle : Handle} (unended : event.sentHandle? ≠ some handle)
    (member : some handle ∈ (transmission.lanes.get lane).inUse) :
    some handle ∈ (next.lanes.get lane).inUse := by
  have ring := step.lane_step lane
  by_cases taken : ∃ transfer, event = .taken lane transfer
  · obtain ⟨transfer, rfl⟩ := taken
    rw [ring.inUse_taken (sound.lanes lane)]
    exact List.mem_append_left _ member
  by_cases retired : ∃ address transfer, event = .retired lane address transfer
  · obtain ⟨address, transfer, rfl⟩ := retired
    rw [ring.inUse_retired (sound.lanes lane), List.mem_cons] at member
    exact member.resolve_left fun same => unended same.symm
  rw [ring.inUse_eq sound undrained (fun transfer same => taken ⟨transfer, same⟩)
    fun address transfer same => retired ⟨address, transfer, same⟩]
  exact member

/-- A frame goes out on the handle of the slot behind the window. -/
theorem Step.offers_of_transmitted (step : Step transmission event next) :
    ∀ submission ∈ event.transmitted transmission.config,
      ∃ lane : Lane, (transmission.lanes.get lane).Offers submission.2.1.handle := by
  cases step with
  | taken _ _ offers | refused _ _ offers =>
      intro submission member
      rw [List.mem_singleton.mp member]
      exact ⟨_, offers⟩
  | _ => simp [Event.transmitted]

/-- The handle of the slot behind a window is not in use. -/
theorem Distinct.notMem_inUse (distinct : transmission.Distinct) (sound : transmission.Sound)
    {handle : Handle} (offers : (transmission.lanes.get lane).Offers handle) (other : Lane) :
    some handle ∉ (transmission.lanes.get other).inUse := by
  intro member
  obtain ⟨index, inWindow, named⟩ := Ring.mem_inUse_iff.mp member
  obtain ⟨rfl, rfl⟩ := distinct lane other _ _ _ offers.2.2 named
  exact Ring.stop_notMem_window (sound.lanes lane) offers.2.1 inWindow

namespace Backed

theorem lose (backed : transmission.Backed ledger) (handles : List Handle) :
    transmission.Backed (ledger.lose handles) where
  once := backed.once.sublist (List.diff_sublist _ _)
  inUse handle member := backed.inUse handle ((List.diff_sublist _ _).subset member)

theorem step (backed : transmission.Backed ledger) (sound : transmission.Sound)
    (distinct : transmission.Distinct) (step : Step transmission event next)
    (undrained : event ≠ .drained) :
    next.Backed (ledger.move event.sentHandle? event.launched) := by
  have remains : ∀ handle ∈ ledger.held, event.sentHandle? ≠ some handle →
      ∃ lane : Lane, some handle ∈ (next.lanes.get lane).inUse := by
    intro handle held unended
    obtain ⟨lane, member⟩ := backed.inUse handle held
    exact ⟨lane, sound.inUse_step step undrained unended member⟩
  by_cases taken : ∃ lane transfer, event = .taken lane transfer
  · obtain ⟨lane, transfer, rfl⟩ := taken
    obtain ⟨used, offers⟩ := step.offers_of_transmitted _ (List.mem_singleton_self _)
    have after := (step.lane_step lane).inUse_taken (sound.lanes lane)
    refine ⟨?_, ?_⟩
    · refine List.nodup_append'.mpr ⟨backed.once, List.nodup_singleton _, ?_⟩
      intro handle held launched
      obtain rfl := List.mem_singleton.mp launched
      obtain ⟨other, member⟩ := backed.inUse _ held
      exact distinct.notMem_inUse sound offers other member
    · intro handle member
      rcases List.mem_append.mp member with held | launched
      · exact remains handle held (by simp [Event.sentHandle?, Event.sent?])
      · obtain rfl := List.mem_singleton.mp launched
        exact ⟨lane, by rw [after]; simp⟩
  · have unlaunched : event.launched = [] := by
      cases event with
      | taken lane transfer => exact absurd ⟨lane, transfer, rfl⟩ taken
      | _ => rfl
    rw [unlaunched, Ledger.move]
    cases ended : event.sentHandle? with
    | none =>
        rw [ended] at remains
        exact ⟨by simpa using backed.once, fun handle member =>
          remains handle (by simpa using member) (by simp)⟩
    | some gone =>
        rw [ended] at remains
        refine ⟨by simpa using backed.once.erase gone, fun handle member => ?_⟩
        obtain ⟨apart, held⟩ := backed.once.mem_erase_iff.mp (by simpa using member)
        exact remains handle held fun same => apart (Option.some.inj same).symm

end Backed

/-! ### Stranded transfers -/

/-- A slot is in the window, so many transfers are to be retired before its own, and the
transport does not have that transfer. -/
structure Stranded (transmission : Transmission) (ledger : Ledger) (lane : Lane) (index : Nat)
    (handle : Handle) (ahead : Nat) : Prop where
  turn : (transmission.lanes.get lane).window[ahead]? = some index
  named : (transmission.lanes.get lane).slots[index]? = some handle
  gone : handle ∉ ledger.held

namespace Event

/-- The transfer that is retired on an endpoint. -/
def retiredOn? (lane : Lane) : Event → Option (Transfer Outgoing)
  | .retired used _ transfer => if used = lane then some transfer else none
  | _ => none

end Event

namespace Stranded

variable {index ahead : Nat} {handle : Handle}

theorem inUse (stranded : transmission.Stranded ledger lane index handle ahead) :
    some handle ∈ (transmission.lanes.get lane).inUse :=
  Ring.mem_inUse_iff.mpr ⟨index, List.mem_of_getElem? stranded.turn, stranded.named⟩

theorem lose (stranded : transmission.Stranded ledger lane index handle ahead)
    (handles : List Handle) :
    transmission.Stranded (ledger.lose handles) lane index handle ahead where
  turn := stranded.turn
  named := stranded.named
  gone member := stranded.gone ((List.diff_sublist _ _).subset member)

/-- The transport does not get the handle again. -/
theorem gone_step (stranded : transmission.Stranded ledger lane index handle ahead)
    (sound : transmission.Sound) (distinct : transmission.Distinct)
    (step : Step transmission event next) :
    handle ∉ (ledger.move event.sentHandle? event.launched).held := by
  intro member
  rcases List.mem_append.mp member with held | launched
  · cases ended : event.sentHandle? with
    | none => exact stranded.gone (by simpa [ended] using held)
    | some other =>
        rw [ended] at held
        exact stranded.gone (List.mem_of_mem_erase held)
  · obtain ⟨taken, happens, rfl⟩ :
        ∃ taken, event.taken? = some taken ∧ taken.2.handle = handle := by
      simpa [Event.launched] using launched
    cases event with
    | taken used transfer =>
        cases happens
        obtain ⟨behind, offers⟩ := step.offers_of_transmitted _ (List.mem_singleton_self _)
        exact distinct.notMem_inUse sound offers lane stranded.inUse
    | _ => cases happens

/-- The front of the window comes closer to a slot with every transfer that is retired on
its endpoint, and only so, unless that slot is retired. -/
theorem turn_step (stranded : transmission.Stranded ledger lane index handle ahead)
    (sound : transmission.Sound) {ring : Ring Handle}
    (step : LaneStep transmission lane event ring) (undrained : event ≠ .drained)
    (held : ∀ other, event.sentHandle? = some other → other ∈ ledger.held) :
    ∃ rest, ring.window[rest]? = some index ∧ ring.slots[index]? = some handle ∧
      rest + (event.retiredOn? lane).toList.length = ahead ∧
      ring.used + (event.retiredOn? lane).toList.length =
        (transmission.lanes.get lane).used + (event.takenOn? lane).toList.length := by
  have turn := stranded.turn
  have named := stranded.named
  have before := sound.lanes lane
  cases step with
  | kept _ untaken unretired =>
      have noTake : event.takenOn? lane = none := Event.takenOn?_eq_none_iff.mpr untaken
      have noRetirement : event.retiredOn? lane = none := by
        cases event with
        | retired used address transfer =>
            exact if_neg fun same : used = lane => unretired address transfer (same ▸ rfl)
        | _ => rfl
      exact ⟨ahead, turn, named, by rw [noRetirement]; rfl, by rw [noRetirement, noTake]⟩
  | @published transfer ring offers published =>
      have window := Ring.window_publish before published
      have noTransfer : (Event.taken lane transfer).retiredOn? lane = none := rfl
      have takes : (Event.taken lane transfer).takenOn? lane = some transfer :=
        Event.takenOn?_taken transfer
      obtain ⟨-, rfl⟩ := Ring.publish_eq_ok published
      refine ⟨ahead, ?_, named, by rw [noTransfer]; rfl, by rw [noTransfer, takes]; rfl⟩
      rw [window, List.getElem?_append_left (List.getElem?_eq_some_iff.mp turn).1]
      exact turn
  | @retired address transfer oldest ring awaits retired =>
      have window := Ring.window_retire before retired
      have retires : (Event.retired lane address transfer).retiredOn? lane = some transfer :=
        if_pos rfl
      obtain ⟨present, rfl, rfl⟩ := Ring.retire?_eq_some retired
      simp only [Ring.isEmpty, beq_eq_false_iff_ne] at present
      rw [window] at turn
      cases ahead with
      | zero =>
          -- the slot at the front is the one whose transfer ended
          obtain rfl := Option.some.inj turn
          have same : transfer.handle = handle := Option.some.inj (awaits.2.2.symm.trans named)
          have returned : transfer.handle ∈ ledger.held := held _ rfl
          exact absurd (same ▸ returned) stranded.gone
      | succ rest =>
          refine ⟨rest, turn, named, by rw [retires]; rfl, ?_⟩
          rw [retires]
          show (transmission.lanes.get lane).used - 1 + 1 = _
          simp [Event.takenOn?, Event.taken?]
          omega
  | extended created =>
      rw [sound.untouched created lane] at turn
      cases turn
  | emptied => exact absurd rfl undrained

/-- A stranded transfer stays stranded. -/
theorem step (stranded : transmission.Stranded ledger lane index handle ahead)
    (sound : transmission.Sound) (distinct : transmission.Distinct)
    (step : Step transmission event next) (undrained : event ≠ .drained)
    (held : ∀ other, event.sentHandle? = some other → other ∈ ledger.held) :
    ∃ rest, next.Stranded (ledger.move event.sentHandle? event.launched) lane index handle rest ∧
      rest + (event.retiredOn? lane).toList.length = ahead ∧
      (next.lanes.get lane).used + (event.retiredOn? lane).toList.length =
        (transmission.lanes.get lane).used + (event.takenOn? lane).toList.length := by
  obtain ⟨rest, turn, named, closer, used⟩ :=
    stranded.turn_step sound (step.lane_step lane) undrained held
  exact ⟨rest, ⟨turn, named, stranded.gone_step sound distinct step⟩, closer, used⟩

end Stranded

end Transmission

/-- The pass and the bringing up submit handles of the receive ring. -/
theorem Reception.Step.mem_handles_of_submitted {reception next : Reception}
    {event : Reception.Event} (step : Reception.Step reception event next)
    {opened : List (Work × Nat)} {asked : List Segment}
    (carries : reception.Carries opened asked) {handle : Handle}
    (submits : event.submitted? = some handle) : handle ∈ reception.ring.handles := by
  cases step with
  | posted posting below found =>
      cases submits
      exact List.mem_of_getElem? (Ring.handles_of_slot found)
  | @givenBack work returning =>
      cases submits
      exact List.mem_of_getElem? (carries.named work (by rw [returning]; rfl))
  | _ => cases submits

/-! ## Moments -/

namespace Transmission

variable {transmission next : Transmission} {event : Event} {lane : Lane}

theorem Step.awaits_of_retired {address : UInt8} {transfer : Transfer Outgoing}
    (step : Step transmission (.retired lane address transfer) next) :
    (transmission.lanes.get lane).Awaits transfer.handle := by
  cases step with
  | retired _ awaits => exact awaits

/-- The transfer that is retired is the one that ends in turn. -/
theorem Event.Tells.retiredOn? {moment : Moment} (tells : event.Tells moment)
    (step : Step moment.before.transmission event next) (lane : Lane) :
    moment.retiredOn? lane = event.retiredOn? lane := by
  rw [Moment.retiredOn?, Moment.retiring?, tells.sent]
  cases event with
  | retired used address transfer =>
      have found : moment.before.config.lane? address = some used := step.found_of_retired
      have awaits : (moment.before.transmit.get used).Awaits transfer.handle :=
        step.awaits_of_retired
      simp [Event.sent?, found, awaits, Event.retiredOn?]
  | dismissed address transfer | ignored address transfer =>
      cases found : moment.before.config.lane? address with
      | none => simp [Event.sent?, found, Event.retiredOn?]
      | some used =>
          have unawaited : ¬ (moment.before.transmit.get used).Awaits transfer.handle :=
            step.unawaited (by simp) found
          simp [Event.sent?, found, unawaited, Event.retiredOn?]
  | _ => rfl

/-- As many frames are accepted on an endpoint as the transport takes there. -/
theorem Event.Tells.length_acceptedOn? {moment : Moment} (tells : event.Tells moment)
    (lane : Lane) :
    (moment.acceptedOn? lane).toList.length = (event.takenOn? lane).toList.length := by
  cases taken : event.takenOn? lane with
  | none =>
      rw [tells.acceptedOn?_eq_none (Event.takenOn?_eq_none_iff.mp taken)]
      rfl
  | some transfer =>
      obtain rfl := Event.eq_taken_of_takenOn? taken
      obtain ⟨frame, accepted, -⟩ := tells.exists_acceptedOn?
      rw [accepted]
      rfl

end Transmission

namespace Moment

variable {moment : Moment} {ledger : Ledger} {lane : Lane} {index ahead : Nat} {handle : Handle}

/-- How the transfer of a slot in the window is stranded: it ends and is counted as a
mismatch, or it is among those that the transport loses after the moment. -/
inductive Strands (moment : Moment) (lane : Lane) (index : Nat) (handle : Handle)
    (losses : List Handle) : Prop where
  | dismissed (inWindow : index ∈ (moment.before.transmit.get lane).window)
      (named : (moment.before.transmit.get lane).slots[index]? = some handle)
      (ended : moment.sentHandle? = some handle)
      (counted : moment.after.counters.txMismatches = moment.before.counters.txMismatches + 1)
  | lost (inWindow : index ∈ (moment.after.transmit.get lane).window)
      (named : (moment.after.transmit.get lane).slots[index]? = some handle)
      (gone : handle ∈ losses)

/-- A transfer that is retired is not counted as a mismatch. -/
theorem unmet_of_retired {address : UInt8} {transfer : Transfer Outgoing}
    (sent : moment.sent? = some (address, transfer))
    (found : moment.before.config.lane? address = some lane)
    (awaits : (moment.before.transmit.get lane).Awaits transfer.handle) :
    moment.after.counters.txMismatches = moment.before.counters.txMismatches := by
  have met := moment.records.met .transmit
  obtain ⟨engine, input⟩ := moment
  cases input with
  | completeTransmit address transfer =>
      cases sent
      have unmet := Engine.anomaly?_of_awaits found awaits
      rw [anomaly?, unmet] at met
      exact met
  | _ => cases sent

/-- A transfer that is counted as a mismatch leaves the rings alone. -/
theorem transmission_of_counted (ended : moment.sentHandle? = some handle)
    (counted : moment.after.counters.txMismatches = moment.before.counters.txMismatches + 1) :
    moment.after.transmission = moment.before.transmission := by
  obtain ⟨event, step, tells⟩ := moment.transmission_step
  rw [tells.sentHandle?] at ended
  have sent := tells.sent
  generalize moment.after.transmission = after at step
  cases step with
  | dismissed | ignored => rfl
  | retired found awaits =>
      rw [unmet_of_retired sent found awaits] at counted
      omega
  | _ => cases ended

/-- The transport does not have the transfer that was stranded. -/
theorem Strands.stranded {losses : List Handle} (strands : moment.Strands lane index handle losses)
    (once : ledger.held.Nodup)
    (backed : moment.after.transmission.Backed (ledger.move moment.sentHandle? moment.launched)) :
    ∃ ahead, moment.after.transmission.Stranded
      ((ledger.move moment.sentHandle? moment.launched).lose losses) lane index handle ahead := by
  cases strands with
  | dismissed inWindow named ended counted =>
      have same := transmission_of_counted ended counted
      obtain ⟨ahead, turn⟩ := List.mem_iff_getElem?.mp inWindow
      refine ⟨ahead, Transmission.Stranded.lose ?_ losses⟩
      rw [same]
      refine ⟨turn, named, ?_⟩
      obtain ⟨event, -, tells⟩ := moment.transmission_step
      rw [ended]
      have nothing : moment.launched = [] := by
        rw [tells.sentHandle?] at ended
        rw [tells.launched]
        cases event <;> first | rfl | cases ended
      simpa [Ledger.move, nothing] using once.not_mem_erase
  | lost inWindow named gone =>
      obtain ⟨ahead, turn⟩ := List.mem_iff_getElem?.mp inWindow
      refine ⟨ahead, turn, named, fun member => ?_⟩
      exact (backed.once.mem_sdiff_iff.mp member).2 gone

/-- Nothing is submitted on the handle of a stranded transfer. -/
theorem unsubmitted_of_stranded {trace : List Effect} {opened : List (Work × Nat)}
    {asked : List Segment}
    (stranded : moment.before.transmission.Stranded ledger lane index handle ahead)
    (sound : moment.before.Sound) (kept : moment.before.custody.Kept trace)
    (carries : moment.before.reception.Carries opened asked) :
    ∀ effect ∈ moment.effects, effect.submitted? ≠ some handle := by
  intro effect member submits
  cases effect with
  | submitReceive address transfer =>
      cases submits
      obtain ⟨event, step, tells⟩ := moment.reception_step
      have inside : transfer.handle ∈ moment.reposted :=
        List.mem_filterMap.mpr ⟨_, member, rfl⟩
      rw [tells.reposted, Option.mem_toList] at inside
      exact kept.notMem_receive (List.mem_of_getElem? stranded.named)
        (step.mem_handles_of_submitted carries inside)
  | submitTransmit address transfer refusal =>
      cases submits
      obtain ⟨event, step, tells⟩ := moment.transmission_step
      have inside : (address, transfer, refusal) ∈ moment.transmitted :=
        List.mem_filterMap.mpr ⟨_, member, rfl⟩
      rw [tells.transmitted] at inside
      obtain ⟨used, offers⟩ := step.offers_of_transmitted _ inside
      exact (Engine.distinct_transmission kept).notMem_inUse sound.transmission offers lane
        stranded.inUse
  | _ => cases submits

end Moment

namespace Moment

variable {moment : Moment}

/-- A device that lives lived before. -/
theorem living (alive : moment.after.device.stage ≠ .dead) :
    moment.before.device.stage ≠ .dead := by
  obtain ⟨event, step, -⟩ := moment.reception_step
  exact step.alive alive

/-- A device that lives drains no ring. -/
theorem undrained (moment : Moment) (sound : moment.before.Sound)
    (alive : moment.after.device.stage ≠ .dead) {event : Transmission.Event}
    {next : Transmission} (step : Transmission.Step moment.before.transmission event next) :
    event ≠ .drained := by
  rintro rfl
  exact living alive (sound.reception.begun step.begun_of_drained)

end Moment

/-! ## Runs -/

namespace History

variable {losses : Nat → List Handle}

/-- The handles are accounted for, and the transport has no more than is in flight. -/
structure Tracks (losses : Nat → List Handle) (engine : Engine) (history : History) : Prop where
  kept : engine.custody.Kept (history.flatMap Moment.effects)
  backed : engine.transmission.Backed (history.flights losses)

theorem tracks_fresh (config : Config) : Tracks losses (Engine.fresh config) [] where
  kept := (Engine.orderly_fresh config).kept
  backed := ⟨List.nodup_nil, fun _ member => nomatch member⟩

/-- What the transport has before it loses anything is in flight. -/
theorem Tracks.moved {history : History} {moment : Moment}
    (tracks : Tracks losses moment.before history) (sound : moment.before.Sound)
    (alive : moment.after.device.stage ≠ .dead) :
    moment.after.transmission.Backed
      ((history.flights losses).move moment.sentHandle? moment.launched) := by
  obtain ⟨event, step, tells⟩ := moment.transmission_step
  rw [tells.sentHandle?, tells.launched]
  exact tracks.backed.step sound.transmission (Engine.distinct_transmission tracks.kept) step
    (moment.undrained sound alive step)

theorem Tracks.after {history : History} {moment : Moment}
    (tracks : Tracks losses moment.before history) (sound : moment.before.Sound)
    (distinct : moment.issuesDistinct = true) (alive : moment.after.device.stage ≠ .dead) :
    Tracks losses moment.after (history ++ [moment]) where
  kept := by
    rw [List.flatMap_append, List.flatMap_singleton]
    exact tracks.kept.step (moment.custody_step sound
      (Moment.isOrderly_of_issuesDistinct sound (moment.living alive) distinct))
  backed := by
    rw [flights_concat]
    exact (tracks.moved sound alive).lose _

/-- Every run of a device that lives keeps track of its handles and transfers. -/
theorem tracks (config : Config) (inputs : List Input)
    (distinct : ∀ moment ∈ (Engine.fresh config).history inputs, moment.issuesDistinct = true)
    (alive : ((Engine.fresh config).run inputs).1.device.stage ≠ .dead) :
    Tracks losses ((Engine.fresh config).run inputs).1
      ((Engine.fresh config).history inputs) := by
  induction inputs using List.reverseRecOn with
  | nil => exact tracks_fresh config
  | append_singleton inputs input hypothesis =>
      rw [Engine.history_concat, List.forall_mem_append, List.forall_mem_singleton] at distinct
      rw [Engine.run_concat] at alive
      rw [Engine.run_concat, Engine.history_concat]
      exact (hypothesis distinct.1 (Moment.living alive)).after (Engine.sound_run config inputs)
        distinct.2 alive

theorem length_history (engine : Engine) (inputs : List Input) :
    (engine.history inputs).length = inputs.length := by
  induction inputs generalizing engine with
  | nil => rfl
  | cons input later hypothesis => rw [Engine.history, List.length_cons, hypothesis]; rfl

end History

namespace Engine

variable {losses : Nat → List Handle}

/-- Over a whole run a stranded transfer stays stranded, the front of the window comes
closer to it with every transfer that is retired on its endpoint, and the transfers in
flight there are those before, less the retired ones, and the accepted ones. -/
theorem stranded_run (config : Config) (before more : List Input)
    (distinct : ∀ moment ∈ (fresh config).history (before ++ more), moment.issuesDistinct = true)
    (ends : Throughout (Moment.EndsHeld losses) ((fresh config).history (before ++ more)))
    (alive : ((fresh config).run (before ++ more)).1.device.stage ≠ .dead)
    {lane : Lane} {index ahead : Nat} {handle : Handle}
    (stranded : ((fresh config).run before).1.transmission.Stranded
      (((fresh config).history before).flights losses) lane index handle ahead) :
    let engine := ((fresh config).run before).1
    ∃ rest, (engine.run more).1.transmission.Stranded
        (((fresh config).history (before ++ more)).flights losses) lane index handle rest ∧
      rest + ((engine.history more).retiredOn lane).length = ahead ∧
      ((engine.run more).1.transmit.get lane).used + ((engine.history more).retiredOn lane).length =
        (engine.transmit.get lane).used + ((engine.history more).acceptedOn lane).length := by
  intro engine
  induction more using List.reverseRecOn with
  | nil =>
      rw [List.append_nil]
      exact ⟨ahead, stranded, rfl, rfl⟩
  | append_singleton more input hypothesis =>
      let moment : Moment := ⟨((fresh config).run (before ++ more)).1, input⟩
      have here : (engine.run more).1 = moment.before :=
        (congrArg Prod.fst (run_append (fresh config) before more)).symm
      rw [← List.append_assoc, history_concat] at distinct ends
      rw [← List.append_assoc, run_concat] at alive
      rw [List.forall_mem_append] at distinct
      rw [Throughout.concat_iff] at ends
      have living : moment.before.device.stage ≠ .dead := moment.living alive
      obtain ⟨between, still, first, load⟩ := hypothesis distinct.1 ends.1 living
      have tracks : History.Tracks losses moment.before _ :=
        History.tracks config (before ++ more) distinct.1 living
      have sound : moment.before.Sound := sound_run config (before ++ more)
      obtain ⟨event, step, tells⟩ := moment.transmission_step
      rw [here] at still load
      obtain ⟨rest, behind, second, change⟩ := still.step sound.transmission
        (distinct_transmission tracks.kept) step (moment.undrained sound alive step)
        (by rw [← tells.sentHandle?]; exact ends.2)
      refine ⟨rest, ?_, ?_, ?_⟩
      · rw [← List.append_assoc, history_concat, History.flights_concat, tells.sentHandle?,
          tells.launched, run_concat, here]
        exact behind.lose _
      · rw [history_concat, here, History.retiredOn_concat, List.length_append,
          tells.retiredOn? step]
        omega
      · rw [history_concat, run_concat, here, History.retiredOn_concat, History.acceptedOn_concat,
          List.length_append, List.length_append, tells.retiredOn? step, tells.length_acceptedOn?]
        have change : (moment.after.transmit.get lane).used +
            (event.retiredOn? lane).toList.length = (moment.before.transmit.get lane).used +
              (event.takenOn? lane).toList.length := change
        have last : moment.after.transmit = (Moment.mk moment.before input).after.transmit := rfl
        rw [← last]
        omega

section

variable (config : Config) (before more : List Input)
    (distinct : ∀ moment ∈ (fresh config).history (before ++ more), moment.issuesDistinct = true)
    (ends : Throughout (Moment.EndsHeld losses) ((fresh config).history (before ++ more)))
    (alive : ((fresh config).run (before ++ more)).1.device.stage ≠ .dead)
    {lane : Lane} {index ahead : Nat} {handle : Handle}
    (stranded : ((fresh config).run before).1.transmission.Stranded
      (((fresh config).history before).flights losses) lane index handle ahead)

include distinct ends alive stranded

/-- Behind a stranded transfer nothing is submitted on its handle. -/
theorem unsubmitted_run :
    ∀ moment ∈ ((fresh config).run before).1.history more,
      ∀ effect ∈ moment.effects, effect.submitted? ≠ some handle := by
  intro moment member
  obtain ⟨past, later, split⟩ := List.append_of_mem member
  obtain ⟨between, input, after, rfl, -, same, -⟩ := history_eq_append_cons split
  rw [← List.append_assoc, history_append, List.forall_mem_append] at distinct
  rw [← List.append_assoc, history_append, Throughout.append_iff] at ends
  rw [← List.append_assoc, run_append] at alive
  have living : ((fresh config).run (before ++ between)).1.device.stage ≠ .dead := fun dead =>
    alive (dead_run dead (input :: after))
  obtain ⟨rest, still, -⟩ :=
    stranded_run config before between distinct.1 ends.1 living stranded
  have here : moment.before = ((fresh config).run (before ++ between)).1 := by
    rw [same, run_append]
  rw [← congrArg Prod.fst (run_append (fresh config) before between), ← here] at still
  have tracks : History.Tracks losses ((fresh config).run (before ++ between)).1 _ :=
    History.tracks config (before ++ between) distinct.1 living
  exact Moment.unsubmitted_of_stranded still (here ▸ sound_run config (before ++ between))
    (here ▸ tracks.kept) (here ▸ carries_run config (before ++ between))

/-- The front of the window never passes a stranded transfer. -/
theorem start_run :
    let engine := ((fresh config).run before).1
    let start := (engine.transmit.get lane).start
    let final := (engine.run more).1
    let retired := ((engine.history more).retiredOn lane).length
    retired ≤ (index + transmitSlots - start) % transmitSlots ∧
      (final.transmit.get lane).start = (start + retired) % transmitSlots ∧
      index ∈ (final.transmit.get lane).window := by
  intro engine start final retired
  obtain ⟨rest, still, closer, -⟩ := stranded_run config before more distinct ends alive stranded
  have sound : engine.Sound := sound_run config before
  have behind : final.Sound := by
    have sound := sound_run config (before ++ more)
    rwa [run_append] at sound
  have first := Ring.eq_of_turn stranded.turn
  have last := Ring.eq_of_turn still.turn
  refine ⟨?_, ?_, List.mem_of_getElem? still.turn⟩
  · have distance := Ring.turn_eq (sound.transmission.lanes lane) stranded.turn
    rw [sound.transmission.capacity lane] at distance
    exact (Nat.le.intro ((Nat.add_comm _ _).trans closer)).trans_eq distance
  · have first := first.2
    have last := last.2
    rw [sound.transmission.capacity lane, ← closer, Nat.add_comm rest, ← Nat.add_assoc] at first
    rw [behind.transmission.capacity lane] at last
    have moved : start + retired + rest ≡ (final.transmit.get lane).start + rest
      [MOD transmitSlots] := first.trans last.symm
    have below := (behind.transmission.lanes lane).start_lt
    rw [behind.transmission.capacity lane] at below
    exact (Nat.mod_eq_of_lt below).symm.trans (Nat.ModEq.add_right_cancel' rest moved).symm

/-- An endpoint with a stranded transfer never runs empty, and it accepts fewer frames than
it has slots. -/
theorem load_run :
    let engine := ((fresh config).run before).1
    let final := (engine.run more).1
    (final.transmit.get lane).used ≠ 0 ∧
      ((engine.history more).acceptedOn lane).length ≤ transmitSlots - 1 := by
  dsimp only
  obtain ⟨rest, still, closer, load⟩ := stranded_run config before more distinct ends alive stranded
  have behind := sound_run config (before ++ more)
  rw [run_append] at behind
  have first := (Ring.eq_of_turn stranded.turn).1
  have last := (Ring.eq_of_turn still.turn).1
  have full := (behind.transmission.lanes lane).used_le.trans_eq (behind.transmission.capacity lane)
  simp only [transmission] at first last full
  exact ⟨Nat.ne_zero_of_lt last, by omega⟩

end

/-- A transfer that is stranded wedges its output endpoint until the device is torn down.
The transport may end what it has in any order and on any address, refuse frames and lose
transfers.  Once a transfer in flight ended and was counted as a mismatch, or was lost,
every continuation of the run keeps its slot in the window: at most as many transfers are
retired on the endpoint as there are slots between the front of the window and that slot,
the endpoint is never empty again and accepts fewer frames than it has slots, and nothing
is submitted on that handle any more. -/
theorem stranded_transfer_wedges_endpoint (config : Config) (before more : List Input)
    (input : Input) (losses : Nat → List Handle)
    (distinct : ∀ moment ∈ (fresh config).history (before ++ input :: more),
      moment.issuesDistinct = true)
    (ends : Throughout (Moment.EndsHeld losses) ((fresh config).history (before ++ input :: more)))
    (alive : ((fresh config).run (before ++ input :: more)).1.device.stage ≠ .dead)
    {lane : Lane} {index : Nat} {handle : Handle}
    (strands : (Moment.mk ((fresh config).run before).1 input).Strands lane index handle
      (losses before.length)) :
    let moment : Moment := ⟨((fresh config).run before).1, input⟩
    let start := (moment.after.transmit.get lane).start
    let later := moment.after.history more
    let final := (moment.after.run more).1
    (later.retiredOn lane).length ≤ (index + transmitSlots - start) % transmitSlots ∧
      (final.transmit.get lane).start =
        (start + (later.retiredOn lane).length) % transmitSlots ∧
      index ∈ (final.transmit.get lane).window ∧ (final.transmit.get lane).used ≠ 0 ∧
      (later.acceptedOn lane).length ≤ transmitSlots - 1 ∧
      ∀ other ∈ later, ∀ effect ∈ other.effects, effect.submitted? ≠ some handle := by
  intro moment start later final
  rw [List.append_cons] at distinct ends alive
  have first : ((fresh config).run (before ++ [input])).1 = moment.after := run_concat _ _ _
  have living : moment.after.device.stage ≠ .dead := by
    rw [run_append, first] at alive
    exact fun dead => alive (dead_run dead more)
  have sound : moment.before.Sound := sound_run config before
  have tracks : History.Tracks losses moment.before ((fresh config).history before) := by
    rw [history_append, history_append, List.forall_mem_append, List.forall_mem_append] at distinct
    exact History.tracks config before distinct.1.1 (moment.living living)
  obtain ⟨ahead, stranded⟩ := strands.stranded tracks.backed.once (tracks.moved sound living)
  have stranded : ((fresh config).run (before ++ [input])).1.transmission.Stranded
      (((fresh config).history (before ++ [input])).flights losses) lane index handle ahead := by
    rw [history_concat, History.flights_concat, History.length_history, first]
    exact stranded
  obtain ⟨bound, front, inWindow⟩ := start_run config _ more distinct ends alive stranded
  obtain ⟨busy, accepted⟩ := load_run config _ more distinct ends alive stranded
  have unsubmitted := unsubmitted_run config _ more distinct ends alive stranded
  rw [first] at bound front inWindow busy accepted unsubmitted
  exact ⟨bound, front, inWindow, busy, accepted, unsubmitted⟩

/-- Three frames are sent on one endpoint. -/
def strandingInputs : List Input :=
  bringUpInputs ++ [sending 1, sending 1, sending 1]

/-- The transfer of the second frame ends first, out of turn.  Then the first transfer
ends in turn, a fourth frame is accepted, and the end of the third transfer is
dismissed too. -/
theorem stranded_transfer_wedges_endpoint_overtaken :
    let moment : Moment := ⟨((fresh .small).run strandingInputs).1, ending 1 65⟩
    let more : List Input := [ending 1 64, sending 1, ending 1 66]
    let lane : Lane := ⟨1, by decide⟩
    let later := moment.after.history more
    let final := (moment.after.run more).1
    (later.retiredOn lane).length = 1 ∧ (later.acceptedOn lane).length = 1 ∧
      (final.transmit.get lane).start = 1 ∧ 1 ∈ (final.transmit.get lane).window ∧
      ∀ other ∈ later, ∀ effect ∈ other.effects, effect.submitted? ≠ some 65 := by
  intro moment more lane later final
  have facts : 1 ∈ (moment.before.transmit.get lane).window ∧
      (moment.before.transmit.get lane).slots[1]? = some 65 ∧
      moment.sentHandle? = some 65 ∧
      moment.after.counters.txMismatches = moment.before.counters.txMismatches + 1 ∧
      (moment.after.transmit.get lane).start = 0 ∧
      (later.retiredOn lane).length = 1 ∧ (later.acceptedOn lane).length = 1 ∧
      ((fresh .small).run (strandingInputs ++ ending 1 65 :: more)).1.device.stage ≠ .dead := by
    decide +kernel
  obtain ⟨inWindow, named, ended, counted, start, retired, accepted, alive⟩ := facts
  have ends : Throughout (Moment.EndsHeld fun _ => [])
      ((fresh .small).history (strandingInputs ++ ending 1 65 :: more)) := by
    decide +kernel
  have distinct : ∀ moment ∈ (fresh .small).history (strandingInputs ++ ending 1 65 :: more),
      moment.issuesDistinct = true := by
    -- deciding that the handles supplied are distinct would compare each with each
    rw [strandingInputs, bringUpInputs, List.cons_append, List.cons_append, history,
      List.forall_mem_cons]
    constructor
    · simp only [Moment.issuesDistinct, Supply.nodup_ample, decide_true]
    · decide +kernel
  have strands : moment.Strands lane 1 65 [] := .dismissed inWindow named ended counted
  obtain ⟨-, front, stays, -, -, unsubmitted⟩ :=
    stranded_transfer_wedges_endpoint .small strandingInputs more (ending 1 65) (fun _ => [])
      distinct ends alive strands
  have front : (final.transmit.get lane).start = 1 := by
    rw [front, start, retired]
    rfl
  exact ⟨retired, accepted, front, stays, unsubmitted⟩

end Engine

end WlanDatapath
