import WlanDatapath.Proofs.Lifecycle

/-!
# What is delivered

The receive path is a list function in disguise: whatever was filed is decoded
once, in the order of filing, buffer after buffer.  `Transfer.deliverable` is
that function for one transfer, and `deliveries_of_pass` says that the frames
handed up by the end of a pass are those of all transfers filed so far, if bringing up
is one operation.  A transfer may end while buffers are being posted, too, but a slot
that is still to be posted can lose the buffer that is filed into it
(`deliveries_of_timely`).

The proof splits the transfers filed into those already taken out of the ring and
those that wait in its window (`Reception.Progress`).  Segments of the buffer that
is being decoded belong to the former and are still to come.
-/

namespace WlanDatapath

/-! ## The specification -/

/-- The segment passes its checks. -/
def Segment.isSound (segment : Segment) : Bool :=
  segment.rejection?.isNone

/-- The segments of a transfer that are to be delivered, in memory order: the sound ones in
as many octets of its buffer as it reports. -/
def Transfer.deliverable (transfer : Transfer Buffer) : List Segment :=
  if transfer.status.isOk then
    (Segment.walk (transfer.content.octets.take transfer.length)).1.filter Segment.isSound
  else []

/-- The frames of a transfer, given the answer to every request for memory. -/
def Transfer.frames (memory : Memory) (transfer : Transfer Buffer) :
    List (Octets × Descriptor) :=
  if transfer.status.isOk then
    WlanDatapath.frames memory (transfer.content.octets.take transfer.length)
  else []

/-- Nothing but sound segments is delivered. -/
theorem Transfer.filterMap_deliverable (memory : Memory) (transfer : Transfer Buffer) :
    transfer.deliverable.filterMap (Segment.delivery? memory) = transfer.frames memory := by
  unfold deliverable frames WlanDatapath.frames
  split
  · rw [List.filterMap_filter]
    congr 1
    funext segment
    cases rejected : segment.rejection? with
    | none => simp [Segment.isSound, rejected]
    | some rejection => simp [Segment.isSound, Segment.delivery?_of_rejection rejected, rejected]
  · rfl

namespace History

/-- The transfers that the ring accepted, in order. -/
def filed (history : History) : List (Transfer Buffer) :=
  history.filterMap Moment.filed?

/-- The segments for which memory was asked, with the answers, in order. -/
def asked (history : History) : List (Segment × Memory) :=
  history.filterMap Moment.asked?

/-- The frames handed up, with their descriptors, in order. -/
def delivered (history : History) : List (Octets × Descriptor) :=
  history.flatMap Moment.delivered

end History

/-! ## Segments still to come -/

/-- The sound segments that a walker has not yet stepped over. -/
def Walker.upcoming (walker : Walker) : List Segment :=
  if walker.finished then [] else (Segment.walk walker.rest).1.filter Segment.isSound

/-- The sound segments of the current buffer that are still to come. -/
def Pass.upcoming : Pass → List Segment
  | .walking _ walker | .delivering _ walker => walker.upcoming
  | .idle | .popping | .returning _ | .submitting _ => []

namespace Walker

variable {walker : Walker}

/-- A segment that is found is the next one to come if it is sound. -/
theorem upcoming_of_found {segment : Segment} (found : walker.next.1 = some (.ok segment)) :
    walker.upcoming = [segment].filter Segment.isSound ++ walker.next.2.upcoming := by
  obtain ⟨rest, walked, finished⟩ := walker
  cases finished with
  | true => simp [next] at found
  | false =>
      cases read : Segment.read? rest with
      | none => simp [next, read] at found
      | some item =>
          cases item with
          | error defect => simp [next, read] at found
          | ok item =>
              obtain ⟨first, later⟩ := item
              have same : first = segment := by simpa [next, read] using found
              subst same
              have whole : Segment.walk rest =
                  (first :: (Segment.walk later).1, (Segment.walk later).2) := by
                rw [Segment.walk]
                split <;> simp_all
              simp [upcoming, next, read, whole, List.filter_cons]
              split <;> rfl

/-- A walk that finds no further segment has none to come. -/
theorem upcoming_of_over (exhausted : ∀ segment, walker.next.1 ≠ some (.ok segment)) :
    walker.upcoming = [] := by
  obtain ⟨rest, walked, finished⟩ := walker
  cases finished with
  | true => rfl
  | false =>
      have nothing : (Segment.walk rest).1 = [] := by
        rw [Segment.walk]
        split
        next => rfl
        next => rfl
        next first later read => exact absurd (by simp [next, read]) (exhausted first)
      simp [upcoming, nothing]

end Walker

/-! ## Transfers that wait in the window -/

/-- What a finished transfer leaves in a slot. -/
def Transfer.outcome (transfer : Transfer Buffer) : Buffer × Status × Nat :=
  (transfer.content, transfer.status, transfer.length)

/-- What the transfer filed into a slot left there. -/
def ReceiveSlot.outcome? (slot : ReceiveSlot) : Option (Buffer × Status × Nat) :=
  slot.buffer.map fun buffer => (buffer, slot.status, slot.length)

namespace Ring

variable {ring next : Ring ReceiveSlot}

/-- What a slot index stands for. -/
def outcome? (ring : Ring ReceiveSlot) (index : Nat) : Option (Buffer × Status × Nat) :=
  ring.slots[index]?.bind ReceiveSlot.outcome?

/-- What the slots of the window hold, oldest first. -/
def pending (ring : Ring ReceiveSlot) : List (Option (Buffer × Status × Nat)) :=
  ring.window.map ring.outcome?

theorem outcome?_modify_of_ne {index other : Nat} (change : ReceiveSlot → ReceiveSlot)
    (apart : index ≠ other) : (ring.modify index change).outcome? other = ring.outcome? other := by
  simp [outcome?, modify, apart]

/-- Changes outside the window do not matter. -/
theorem pending_modify {index : Nat} (change : ReceiveSlot → ReceiveSlot)
    (outside : index ∉ ring.window) : (ring.modify index change).pending = ring.pending := by
  apply List.map_congr_left
  intro other member
  exact outcome?_modify_of_ne change fun same => outside (same ▸ member)

/-- Putting a buffer back does not matter if every slot of the window has one. -/
theorem pending_putBack (index : Nat) (buffer : Buffer)
    (filled : ∀ outcome ∈ ring.pending, outcome ≠ none) :
    (ring.putBack index buffer).pending = ring.pending := by
  apply List.map_congr_left
  intro other member
  have held := filled _ (List.mem_map_of_mem member)
  simp only [outcome?, putBack, modify, List.getElem?_modify]
  cases found : ring.slots[other]? with
  | none => simp
  | some slot =>
      simp only [outcome?, found, Option.bind_some, ReceiveSlot.outcome?, ne_eq,
        Option.map_eq_none_iff] at held
      obtain ⟨own, holds⟩ := Option.ne_none_iff_exists'.mp held
      simp only [Option.map_eq_map, Option.map_some, Option.bind_some]
      split
      · rw [ReceiveSlot.putBack_of_buffer holds]
      · rfl

/-- Filing empties no slot. -/
theorem outcome?_file_ne_none (transfer : Transfer Buffer) {index : Nat}
    (held : ring.outcome? index ≠ none) : (ring.file transfer).outcome? index ≠ none := by
  by_cases same : ring.stop = index
  · subst same
    obtain ⟨outcome, holds⟩ := Option.ne_none_iff_exists'.mp held
    obtain ⟨slot, found, -⟩ := Option.bind_eq_some_iff.mp holds
    simp [outcome?, file, modify, found, ReceiveSlot.outcome?, ReceiveSlot.file]
  · have other : (ring.file transfer).outcome? index = ring.outcome? index :=
      outcome?_modify_of_ne (ReceiveSlot.file transfer) same
    rwa [other]

/-- Filing adds what the transfer left. -/
theorem pending_file (sound : ring.WellFormed) {transfer : Transfer Buffer}
    (expected : ring.Expects transfer.handle) :
    (ring.file transfer).pending = ring.pending ++ [some transfer.outcome] := by
  obtain ⟨-, room, turn⟩ := expected
  obtain ⟨slot, found, -⟩ := Option.map_eq_some_iff.mp turn
  have published := publish_file transfer room
  have window := window_publish (sound.modify ring.stop (ReceiveSlot.file transfer)) published
  have outside := pending_modify (ReceiveSlot.file transfer) (stop_notMem_window sound room)
  have last : (ring.file transfer).outcome? ring.stop = some transfer.outcome := by
    have same : ring.slots[ring.stop]? = some slot := found
    simp [outcome?, file, modify, same, ReceiveSlot.outcome?, ReceiveSlot.file,
      Transfer.outcome]
  rw [pending, window, List.map_append, List.map_singleton]
  show (ring.modify ring.stop (ReceiveSlot.file transfer)).pending ++ [_] = _
  rw [outside]
  exact congrArg (fun outcome => ring.pending ++ [outcome]) last

/-- Retirement takes out what came first. -/
theorem pending_retire (sound : ring.WellFormed) {index : Nat}
    (retired : ring.retire? = some (index, next)) :
    ring.pending = ring.outcome? index :: next.pending := by
  have window := window_retire sound retired
  obtain ⟨-, -, rfl⟩ := retire?_eq_some retired
  rw [pending, window, List.map_cons]
  rfl

/-- The slot that is retired is not in the window any more. -/
theorem notMem_window_of_retire (sound : ring.WellFormed) {index : Nat}
    (retired : ring.retire? = some (index, next)) : index ∉ next.window := by
  have distinct := nodup_window sound
  rw [window_retire sound retired] at distinct
  exact (List.nodup_cons.mp distinct).1

end Ring

/-! ## Progress -/

/-- The slots whose buffers were posted are those below this index. -/
def BringUp.posted : BringUp → Nat
  | .posting index => index
  | .submitting work => work.index + 1
  | .idle | .failing _ => receiveSlots

/-- Once nothing is being posted, all slots were. -/
theorem BringUp.posted_eq {bringUp : BringUp} (finished : bringUp.isPosting = false) :
    bringUp.posted = receiveSlots := by
  cases bringUp with
  | idle | failing failure => rfl
  | posting index | submitting work => cases finished

namespace Reception

/-- How the transfers filed and the segments for which memory was asked relate to
what is done and what waits. -/
structure Progress (reception : Reception) (filed : List (Transfer Buffer))
    (asked : List Segment) (done waiting : List (Transfer Buffer)) : Prop where
  posted : ∀ index ∈ reception.ring.window, index < reception.bringUp.posted
  split : filed = done ++ waiting
  pending : reception.ring.pending = waiting.map fun transfer => some transfer.outcome
  asked : asked ++ reception.pass.upcoming = done.flatMap Transfer.deliverable

variable {reception next : Reception} {event : Event} {filed done waiting : List (Transfer Buffer)}
  {asked : List Segment}

namespace Progress

/-- Every slot of the window holds a buffer. -/
theorem filled (progress : Progress reception filed asked done waiting) :
    ∀ outcome ∈ reception.ring.pending, outcome ≠ none := by
  intro outcome member
  rw [progress.pending] at member
  obtain ⟨transfer, -, rfl⟩ := List.mem_map.mp member
  simp

/-- Nothing is taken out, filed or asked for. -/
theorem keep (progress : Progress reception filed asked done waiting)
    (window : next.ring.window = reception.ring.window)
    (pending : next.ring.pending = reception.ring.pending)
    (posted : ∀ index ∈ reception.ring.window, index < reception.bringUp.posted →
      index < next.bringUp.posted)
    (upcoming : next.pass.upcoming = reception.pass.upcoming) :
    Progress next filed asked done waiting where
  posted index member :=
    posted index (window ▸ member) (progress.posted index (window ▸ member))
  split := progress.split
  pending := pending.trans progress.pending
  asked := upcoming ▸ progress.asked

/-- A buffer is put back. -/
theorem putBack (progress : Progress reception filed asked done waiting) {index : Nat}
    {buffer : Buffer} (ring : next.ring = reception.ring.putBack index buffer)
    (posted : next.bringUp = reception.bringUp)
    (upcoming : next.pass.upcoming = reception.pass.upcoming) :
    Progress next filed asked done waiting := by
  refine progress.keep ?_ ?_ (fun _ _ below => posted ▸ below) upcoming
  · rw [ring]
    rfl
  · rw [ring]
    exact Ring.pending_putBack index buffer progress.filled

/-- The slot that is retired holds a buffer. -/
theorem present (progress : Progress reception filed asked done waiting)
    (sound : reception.Sound) {index : Nat} {ring : Ring ReceiveSlot}
    (retired : reception.ring.retire? = some (index, ring)) :
    ∃ slot buffer, ring.slots[index]? = some slot ∧ slot.buffer = some buffer := by
  have front := progress.filled (reception.ring.outcome? index)
  rw [Ring.pending_retire sound.ring retired] at front
  obtain ⟨outcome, held⟩ := Option.ne_none_iff_exists'.mp (front (List.mem_cons_self ..))
  obtain ⟨slot, found, left⟩ := Option.bind_eq_some_iff.mp held
  obtain ⟨buffer, holds, -⟩ := Option.map_eq_some_iff.mp left
  rw [(Ring.retire?_eq_some retired).2.2]
  exact ⟨slot, buffer, found, holds⟩

/-- A transfer is filed. -/
theorem file (progress : Progress reception filed asked done waiting) (sound : reception.Sound)
    {transfer : Transfer Buffer} (expected : reception.ring.Expects transfer.handle)
    (timely : reception.ring.stop < reception.bringUp.posted)
    (ring : next.ring = reception.ring.file transfer)
    (posted : next.bringUp = reception.bringUp) (pass : next.pass = reception.pass) :
    Progress next (filed ++ [transfer]) asked done (waiting ++ [transfer]) := by
  have published := Ring.publish_file transfer expected.2.1
  have window := Ring.window_publish
    (sound.ring.modify reception.ring.stop (ReceiveSlot.file transfer)) published
  refine ⟨?_, ?_, ?_, pass ▸ progress.asked⟩
  · intro index member
    rw [ring, window, List.mem_append, List.mem_singleton] at member
    rw [posted]
    rcases member with early | rfl
    · exact progress.posted index early
    · exact timely
  · rw [progress.split, List.append_assoc]
  · rw [ring, Ring.pending_file sound.ring expected, progress.pending, List.map_append]
    rfl

/-- The oldest transfer is taken out of the window. -/
theorem take (progress : Progress reception filed asked done waiting) (sound : reception.Sound)
    {index : Nat} {ring : Ring ReceiveSlot} {slot : ReceiveSlot} {buffer : Buffer}
    (popping : reception.pass = .popping)
    (retired : reception.ring.retire? = some (index, ring))
    (found : ring.slots[index]? = some slot) (held : slot.buffer = some buffer)
    (vacated : next.ring = ring.vacate index) (posted : next.bringUp = reception.bringUp)
    (upcoming : next.pass.upcoming =
      if slot.status.isOk then
        (Segment.walk (buffer.filled slot.length)).1.filter Segment.isSound
      else []) :
    ∃ done waiting, Progress next filed asked done waiting := by
  have window := Ring.window_retire sound.ring retired
  have pending := Ring.pending_retire sound.ring retired
  have outside := Ring.notMem_window_of_retire sound.ring retired
  have slots : ring.slots = reception.ring.slots := by
    rw [(Ring.retire?_eq_some retired).2.2]
  have outcome : reception.ring.outcome? index = some (buffer, slot.status, slot.length) := by
    rw [Ring.outcome?, ← slots, found]
    simp [ReceiveSlot.outcome?, held]
  rw [outcome, progress.pending] at pending
  cases waiting with
  | nil => simp at pending
  | cons transfer later =>
      rw [List.map_cons, List.cons.injEq, Option.some.injEq] at pending
      obtain ⟨same, rest⟩ := pending
      simp only [Transfer.outcome, Prod.mk.injEq] at same
      obtain ⟨content, status, length⟩ := same
      refine ⟨done ++ [transfer], later, ?_, ?_, ?_, ?_⟩
      · intro other member
        rw [vacated] at member
        rw [posted]
        exact progress.posted other (window ▸ List.mem_cons_of_mem _ member)
      · rw [progress.split, List.append_assoc]
        rfl
      · rw [vacated, Ring.vacate, Ring.pending_modify _ outside]
        exact rest.symm
      · have before := progress.asked
        rw [popping, Pass.upcoming, List.append_nil] at before
        rw [upcoming, before, List.flatMap_append, List.flatMap_singleton, Transfer.deliverable,
          content, status, length, Buffer.filled]

/-- The pass looks at a segment. -/
theorem look (progress : Progress reception filed asked done waiting) {work : Work}
    {walker : Walker} {segment : Segment} {passed : List Segment}
    (walking : reception.pass = .walking work walker)
    (found : walker.next.1 = some (.ok segment))
    (sifted : [segment].filter Segment.isSound = passed) (ring : next.ring = reception.ring)
    (posted : next.bringUp = reception.bringUp)
    (upcoming : next.pass.upcoming = walker.next.2.upcoming) :
    Progress next filed (asked ++ passed) done waiting where
  posted := by
    rw [ring, posted]
    exact progress.posted
  split := progress.split
  pending := ring ▸ progress.pending
  asked := by
    rw [upcoming, ← sifted, List.append_assoc, ← Walker.upcoming_of_found found,
      ← progress.asked, walking]
    rfl

end Progress

/-- A transfer is filed into a slot that was posted. -/
def Event.IsTimely (event : Event) (reception : Reception) : Prop :=
  ∀ transfer, event = .filed transfer → reception.ring.stop < reception.bringUp.posted

/-- Every step of a device that lives makes progress. -/
theorem Progress.step (progress : Progress reception filed asked done waiting)
    (sound : reception.Sound) (step : Step reception event next) (alive : next.stage ≠ .dead)
    (timely : event.IsTimely reception) :
    ∃ done waiting, Progress next (filed ++ event.filed?.toList)
      (asked ++ (event.asked?.map Prod.fst).toList) done waiting := by
  have silent : event.filed? = none → event.asked? = none →
      (∃ done waiting, Progress next filed asked done waiting) →
      ∃ done waiting, Progress next (filed ++ event.filed?.toList)
        (asked ++ (event.asked?.map Prod.fst).toList) done waiting := by
    intro noFiling noRequest kept
    rw [noFiling, noRequest]
    simpa using kept
  have still : ∀ index ∈ reception.ring.window, index < reception.bringUp.posted →
      index < reception.bringUp.posted := fun _ _ below => below
  cases step with
  | acquisitionFailed | slotMissing | postRefused | closed => exact absurd rfl alive
  | drained begun => exact absurd (sound.begun begun) alive
  | acquired created =>
      have before := sound.untouched created
      subst before
      exact silent rfl rfl ⟨_, _, progress.keep rfl rfl (by simp [untouched]) rfl⟩
  | @posted index slot buffer posting below found held =>
      rw [posting] at still
      have outside : index ∉ reception.ring.window := by
        intro member
        have bound := progress.posted index member
        rw [posting] at bound
        exact absurd bound (Nat.lt_irrefl _)
      refine silent rfl rfl ⟨_, _, progress.keep rfl (Ring.pending_modify _ outside) ?_ rfl⟩
      intro other member below
      rw [posting] at below
      exact Nat.lt_succ_of_lt below
  | passedOver posting =>
      refine silent rfl rfl ⟨_, _, progress.keep rfl rfl ?_ rfl⟩
      intro other member below
      rw [posting] at below
      exact Nat.lt_succ_of_lt below
  | cameUp posting all =>
      refine silent rfl rfl ⟨_, _, progress.keep rfl rfl ?_ rfl⟩
      intro index member _
      exact (Ring.lt_of_mem_window sound.ring member).trans_eq sound.capacity
  | postTaken submitting =>
      refine silent rfl rfl ⟨_, _, progress.keep rfl rfl ?_ rfl⟩
      intro other member below
      rw [submitting] at below
      exact below
  | @filed transfer expected =>
      refine ⟨done, waiting ++ [transfer], ?_⟩
      show Progress _ (filed ++ [transfer]) (asked ++ []) _ _
      rw [List.append_nil]
      exact progress.file sound expected (timely transfer rfl) rfl rfl rfl
  | dismissedTo => exact silent rfl rfl ⟨_, _, progress.putBack rfl rfl rfl⟩
  | passStarted entered =>
      have idle := sound.idle_of_enter? entered
      refine silent rfl rfl ⟨_, _, progress.keep rfl rfl still ?_⟩
      rw [idle]
      rfl
  | nothingLeft popping =>
      refine silent rfl rfl ⟨_, _, progress.keep rfl rfl still ?_⟩
      rw [popping, leave]
      split <;> rfl
  | slotLost popping retired missing =>
      obtain ⟨slot, buffer, found, -⟩ := progress.present sound retired
      rw [missing] at found
      contradiction
  | slotSkipped popping retired found vacant =>
      obtain ⟨slot, buffer, same, held⟩ := progress.present sound retired
      rw [found, Option.some.injEq] at same
      rw [← same, vacant] at held
      contradiction
  | opened popping retired found held succeeded accepts =>
      refine silent rfl rfl (progress.take sound popping retired found held rfl rfl ?_)
      rw [if_pos succeeded]
      rfl
  | @setAside index ring slot buffer popping retired found held unread =>
      refine silent rfl rfl (progress.take sound popping retired found held rfl rfl ?_)
      rw [if_neg]
      · rfl
      · intro succeeded
        have shut := unread succeeded
        have created : reception.stage = .created := by
          cases stage : reception.stage <;> simp_all [Stage.accepts]
        rw [sound.untouched created] at popping
        cases popping
  | walked walking exhausted =>
      refine silent rfl rfl ⟨_, _, progress.keep rfl rfl still ?_⟩
      rw [walking]
      exact (Walker.upcoming_of_over exhausted).symm
  | @rejected work walker segment walking found rejection =>
      refine silent rfl rfl ⟨done, waiting, ?_⟩
      rw [← List.append_nil asked]
      exact progress.look walking found (by simp [Segment.isSound, rejection]) rfl rfl rfl
  | @dropped work walker segment memory walking found sound lost =>
      refine ⟨done, waiting, ?_⟩
      show Progress _ (filed ++ []) (asked ++ [segment]) _ _
      rw [List.append_nil]
      exact progress.look walking found (by simp [Segment.isSound, sound]) rfl rfl rfl
  | @handedUp work walker segment memory frame walking found sound copied =>
      refine ⟨done, waiting, ?_⟩
      show Progress _ (filed ++ []) (asked ++ [segment]) _ _
      rw [List.append_nil]
      exact progress.look walking found (by simp [Segment.isSound, sound]) rfl rfl rfl
  | judged delivering =>
      refine silent rfl rfl ⟨_, _, progress.keep rfl rfl still ?_⟩
      rw [delivering]
      rfl
  | givenBack returning =>
      refine silent rfl rfl ⟨_, _, progress.keep rfl rfl still ?_⟩
      rw [returning]
      rfl
  | kept returning =>
      refine silent rfl rfl ⟨_, _, progress.putBack rfl rfl ?_⟩
      rw [returning]
      rfl
  | taken submitting =>
      refine silent rfl rfl ⟨_, _, progress.keep rfl rfl still ?_⟩
      rw [submitting]
      rfl
  | refused submitting =>
      refine silent rfl rfl ⟨_, _, progress.putBack rfl rfl ?_⟩
      rw [submitting]
      rfl
  | unchanged | dismissed => exact silent rfl rfl ⟨_, _, progress.keep rfl rfl still rfl⟩

/-- When the pass ends, nothing waits. -/
theorem Progress.empty_of_ends (progress : Progress reception filed asked done waiting)
    (sound : reception.Sound) (step : Step reception event next) (active : reception.pass ≠ .idle)
    (idle : next.pass = .idle) : next.ring.used = 0 := by
  cases step with
  | nothingLeft popping empty =>
      show reception.ring.used = 0
      unfold Ring.retire? at empty
      split at empty
      next none => simpa [Ring.isEmpty] using none
      next => contradiction
  | slotLost popping retired missing =>
      obtain ⟨slot, buffer, found, -⟩ := progress.present sound retired
      rw [missing] at found
      contradiction
  | slotSkipped popping =>
      rw [popping] at idle
      contradiction
  | passStarted | opened | setAside | walked | rejected | dropped | handedUp | judged | givenBack
  | kept | taken | refused => cases idle
  | unchanged | acquired | acquisitionFailed | posted | passedOver | slotMissing | cameUp
  | postTaken | postRefused | filed | dismissed | dismissedTo | closed | drained =>
      exact absurd idle active

end Reception

/-! ## Runs -/

/-- An input of bringing up. -/
def Input.isOfBringUp : Input → Bool
  | .startBringUp _ | .proceedBringUp | .answerPost _ => true
  | _ => false

/-- Bringing up is one operation: nothing else happens while buffers are being posted. -/
def History.BringsUpAtOnce (history : History) : Prop :=
  ∀ moment ∈ history, moment.before.bringUp.isPosting = true → moment.input.isOfBringUp = true

instance (history : History) : Decidable history.BringsUpAtOnce :=
  inferInstanceAs (Decidable (∀ moment ∈ history, _ → _))

namespace Moment

/-- While buffers are being posted, a transfer is filed only into a slot that was
posted. -/
def isTimely (moment : Moment) : Bool :=
  !moment.before.bringUp.isPosting || moment.filed?.isNone ||
    decide (moment.before.receive.stop < moment.before.bringUp.posted)

/-- Nothing is filed while bringing up is one operation. -/
theorem isTimely_of_isOfBringUp {moment : Moment}
    (whole : moment.before.bringUp.isPosting = true → moment.input.isOfBringUp = true) :
    moment.isTimely = true := by
  cases posting : moment.before.bringUp.isPosting with
  | false => simp [isTimely, posting]
  | true =>
      have quiet : moment.ended? = none := by
        have own := whole posting
        unfold ended?
        split
        next transfer input => simp [input, Input.isOfBringUp] at own
        next => rfl
      simp [isTimely, filed?, quiet]

/-- The pass ends. -/
def endsPass (moment : Moment) : Bool :=
  moment.before.pass != .idle && moment.after.pass == .idle

end Moment

namespace History

/-- What a history shows agrees with what is done and what waits. -/
structure Delivers (engine : Engine) (history : History) : Prop where
  sound : engine.Sound
  progress : (∀ moment ∈ history, moment.isTimely = true) → engine.device.stage ≠ .dead →
    ∃ done waiting, engine.reception.Progress history.filed (history.asked.map Prod.fst)
      done waiting
  delivered : history.delivered =
    history.asked.filterMap fun request => request.1.delivery? request.2

theorem delivers_fresh (config : Config) : Delivers (Engine.fresh config) [] where
  sound := Engine.sound_fresh config
  progress _ _ := by
    refine ⟨[], [], ?_, rfl, rfl, rfl⟩
    intro index member
    simp [Engine.fresh, Engine.reception] at member
  delivered := rfl

theorem Delivers.after {history : History} {moment : Moment}
    (before : Delivers moment.before history) : Delivers moment.after (history ++ [moment]) := by
  obtain ⟨event, step, tells⟩ := moment.reception_step
  have filed : History.filed (history ++ [moment]) =
      History.filed history ++ event.filed?.toList := by
    rw [History.filed, List.filterMap_append, List.filterMap_cons, tells.filed]
    cases event.filed? <;> rfl
  have asked : History.asked (history ++ [moment]) =
      History.asked history ++ event.asked?.toList := by
    rw [History.asked, List.filterMap_append, List.filterMap_cons, tells.asked]
    cases event.asked? <;> rfl
  refine ⟨before.sound.after, ?_, ?_⟩
  · intro timely alive
    obtain ⟨done, waiting, progress⟩ := before.progress
      (fun earlier member => timely earlier (by simp [member])) (step.alive alive)
    have inTime : event.IsTimely moment.before.reception := by
      rintro transfer rfl
      have last := timely moment (by simp)
      show moment.before.receive.stop < moment.before.bringUp.posted
      cases posting : moment.before.bringUp.isPosting with
      | true => simpa [Moment.isTimely, tells.filed, Reception.Event.filed?, posting] using last
      | false =>
          rw [BringUp.posted_eq posting]
          exact before.sound.reception.ring.stop_lt.trans_eq before.sound.reception.capacity
    have next := progress.step before.sound.reception step alive inTime
    rw [filed, asked, List.map_append]
    cases requested : event.asked? <;> simpa [requested] using next
  · rw [asked, List.filterMap_append, History.delivered, List.flatMap_append,
      List.flatMap_singleton, tells.delivered]
    have earlier := before.delivered
    rw [History.delivered] at earlier
    rw [earlier]
    cases event.asked? with
    | none => rfl
    | some request =>
        simp only [Option.bind_some, Option.toList_some, List.filterMap_cons, List.filterMap_nil]
        cases request.1.delivery? request.2 <;> rfl

end History

namespace Engine

/-- What a pass has delivered when it ends, if transfers that end while buffers are being
posted are filed into slots that were posted. -/
theorem deliveries_of_timely (config : Config) (inputs : List Input) (last : Input)
    (up : History.IsUp ((fresh config).history (inputs ++ [last])))
    (timely : ∀ moment ∈ (fresh config).history (inputs ++ [last]), moment.isTimely = true)
    (ends : Moment.endsPass ⟨((fresh config).run inputs).1, last⟩ = true) :
    let history := (fresh config).history (inputs ++ [last])
    ((fresh config).run (inputs ++ [last])).1.receiveOccupancy = 0 ∧
      history.asked.map Prod.fst = history.filed.flatMap Transfer.deliverable ∧
      history.delivered =
        history.asked.filterMap (fun request => request.1.delivery? request.2) ∧
      ∀ memory, (∀ request ∈ history.asked, request.2 = memory) →
        history.delivered = history.filed.flatMap (Transfer.frames memory) := by
  have whole : ∀ inputs, History.Delivers ((fresh config).run inputs).1
      ((fresh config).history inputs) :=
    History.invariant History.Delivers (History.delivers_fresh config) fun _ _ before =>
      before.after
  obtain ⟨sound, early, -⟩ := whole inputs
  obtain ⟨-, late, delivered⟩ := whole (inputs ++ [last])
  have alive := up.alive
  obtain ⟨event, step, -⟩ := (Moment.mk ((fresh config).run inputs).1 last).reception_step
  simp only [Moment.endsPass, bne_iff_ne, ne_eq, beq_iff_eq, Bool.and_eq_true] at ends
  rw [← run_concat] at step ends
  rw [history_concat] at timely
  obtain ⟨done, waiting, before⟩ :=
    early (fun moment member => timely moment (by simp [member])) (step.alive alive)
  have empty := before.empty_of_ends sound.reception step ends.1 ends.2
  rw [← history_concat] at timely
  obtain ⟨done, waiting, progress⟩ := late timely alive
  have pending := progress.pending
  have none : waiting = [] := by
    have window : ((fresh config).run (inputs ++ [last])).1.reception.ring.window = [] := by
      rw [← List.length_eq_zero_iff, Ring.length_window]
      exact empty
    rw [Ring.pending, window, List.map_nil] at pending
    exact List.map_eq_nil_iff.mp pending.symm
  have asked := progress.asked
  have idle : ((fresh config).run (inputs ++ [last])).1.reception.pass = .idle := ends.2
  rw [idle, Pass.upcoming, List.append_nil] at asked
  have filed := progress.split
  rw [none, List.append_nil] at filed
  rw [← filed] at asked
  refine ⟨empty, asked, delivered, ?_⟩
  intro memory same
  calc ((fresh config).history (inputs ++ [last])).delivered
      = ((fresh config).history (inputs ++ [last])).asked.filterMap
          (Segment.delivery? memory ∘ Prod.fst) := by
        rw [delivered]
        apply List.filterMap_congr
        intro request member
        rw [same request member]
        rfl
    _ = (((fresh config).history (inputs ++ [last])).filed.flatMap
          Transfer.deliverable).filterMap (Segment.delivery? memory) := by
        rw [← List.filterMap_map]
        exact congrArg (List.filterMap (Segment.delivery? memory)) asked
    _ = ((fresh config).history (inputs ++ [last])).filed.flatMap (Transfer.frames memory) := by
        rw [List.filterMap_flatMap]
        exact congrArg (List.flatMap · _) (funext (Transfer.filterMap_deliverable memory))

/-- Delivery over whole runs of an engine that is up, where bringing up is one operation.
When a pass ends, no transfer waits, memory was asked for the sound segments of all
successful transfers that the ring accepted, in the order in which it accepted them, and
the frames handed up are those for which it was granted.  So nothing is delivered twice,
skipped, reordered or taken from a failed transfer, whatever transfers end, whatever they
report and whatever becomes of the frames. -/
theorem deliveries_of_pass (config : Config) (inputs : List Input) (last : Input)
    (up : History.IsUp ((fresh config).history (inputs ++ [last])))
    (whole : ((fresh config).history (inputs ++ [last])).BringsUpAtOnce)
    (ends : Moment.endsPass ⟨((fresh config).run inputs).1, last⟩ = true) :
    let history := (fresh config).history (inputs ++ [last])
    ((fresh config).run (inputs ++ [last])).1.receiveOccupancy = 0 ∧
      history.asked.map Prod.fst = history.filed.flatMap Transfer.deliverable ∧
      history.delivered =
        history.asked.filterMap (fun request => request.1.delivery? request.2) ∧
      ∀ memory, (∀ request ∈ history.asked, request.2 = memory) →
        history.delivered = history.filed.flatMap (Transfer.frames memory) :=
  deliveries_of_timely config inputs last up
    (fun moment member => Moment.isTimely_of_isOfBringUp (whole moment member)) ends

/-- The inputs of a pass over a transfer with two segments.  While the first frame
is being judged another transfer fails. -/
def aggregateInputs : List Input :=
  let segment : Segment := ⟨(0, 0), .blank, [8, 0, 0, 0], ⟨0⟩⟩
  let all : Memory := fun _ => true
  bringUpInputs ++
    [.completeReceive ⟨384, ⟨segment.encode ++ segment.encode⟩, .ok, 72⟩, .startPass,
      .proceedPass all, .proceedPass all, .completeReceive ⟨385, ⟨segment.encode⟩, .io 5, 36⟩,
      .answerDelivery false, .proceedPass all, .answerDelivery true, .proceedPass all,
      .proceedPass all, .answerRepost none, .proceedPass all, .proceedPass all,
      .answerRepost none, .proceedPass all]

/-- The deliveries of that pass. -/
theorem deliveries_of_pass_aggregate :
    let last : Input := .proceedPass fun _ => true
    let history := (fresh .small).history (aggregateInputs ++ [last])
    History.IsUp history ∧ history.BringsUpAtOnce ∧
      Moment.endsPass ⟨((fresh .small).run aggregateInputs).1, last⟩ = true ∧
      history.filed.length = 2 ∧ history.delivered.length = 2 ∧
      history.asked.map Prod.fst = history.filed.flatMap Transfer.deliverable := by
  intro last history
  have facts : History.IsUp history ∧ history.BringsUpAtOnce ∧
      Moment.endsPass ⟨((fresh .small).run aggregateInputs).1, last⟩ = true ∧
      history.filed.length = 2 ∧ history.delivered.length = 2 := by
    decide +kernel
  obtain ⟨up, whole, ends, filed, delivered⟩ := facts
  exact ⟨up, whole, ends, filed, delivered,
    (deliveries_of_pass .small aggregateInputs last up whole ends).2.1⟩

end Engine

end WlanDatapath
