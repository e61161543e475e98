import WlanDatapath.Proofs.Screening

/-!
# Buffers that come back once

If no buffer is made up and each comes back at most once, handles need not be distinct for
the pass to see nothing of what is written over the buffers.

A transfer can end on the handle of a slot that is still to be posted only if an earlier
slot has the same handle.  Once the later slot is posted it has no buffer, and a buffer with
its handle is put back to the earlier one.  So the later slot stays empty, and the pass
skips it (`Reception.Overlooked`).  `Reception.Guarded` says that every slot in the window is
shielded or overlooked, and `Guarded.moves` that every move keeps this.

One buffer could still get there, the one that the pass took from that very slot.  But this
slot is the one just before the window (`Reception.Trails`), and while a slot waits to be
posted, the window does not reach around to it (`Reception.load`).
-/

namespace WlanDatapath

/-! ## How many buffers there are -/

theorem BringUp.length_unposted_posting {index : Nat} (below : index < receiveSlots) :
    (BringUp.posting index).unposted.length =
      (BringUp.posting (index + 1)).unposted.length + 1 := by
  rw [unposted_posting below, List.length_cons]

theorem BringUp.length_unposted_le (bringUp : BringUp) :
    bringUp.unposted.length ≤ receiveSlots := by
  cases bringUp <;> simp [unposted]

namespace Reception

variable {reception next : Reception} {event : Event}

/-- The slots that wait for the pass or to be posted, and the buffer that the pass has. -/
def load (reception : Reception) : Nat :=
  reception.ring.used + reception.pass.work?.toList.length +
    reception.bringUp.unposted.length

theorem load_leave (reception : Reception) :
    reception.leave.load = reception.ring.used + reception.bringUp.unposted.length := by
  simp only [load, leave]
  split <;> simp [Pass.work?]

/-- What is submitted leaves the load, and only what ends joins it. -/
theorem Step.load_le (step : Step reception event next)
    (begun : reception.stage ≠ .created) :
    next.load + event.submitted?.toList.length ≤ reception.load + event.ended?.toList.length := by
  let used := reception.ring.used
  let taken := reception.pass.work?.toList.length
  let waiting := reception.bringUp.unposted.length
  cases step with
  | acquired created | acquisitionFailed created => exact absurd created begun
  | unchanged | dismissed | dismissedTo | closed => exact Nat.le_add_right _ _
  | posted posting below =>
      rw [load, load, posting, BringUp.length_unposted_posting below]
      exact (Nat.add_assoc _ _ 1).le
  | passedOver posting below =>
      rw [load, load, posting, BringUp.length_unposted_posting below]
      exact Nat.le_succ _
  | postTaken submitting =>
      rw [load, load, submitting]
      exact Nat.le_refl _
  | slotMissing | cameUp | postRefused => exact Nat.add_le_add_left (Nat.zero_le _) _
  | filed =>
      show used + 1 + taken + waiting ≤ used + taken + waiting + 1
      omega
  | passStarted | kept | taken | refused =>
      show used + 0 + waiting ≤ used + taken + waiting
      omega
  | nothingLeft =>
      show reception.leave.load ≤ used + taken + waiting
      rw [load_leave]
      show used + waiting ≤ used + taken + waiting
      omega
  | @slotLost index ring popping retired =>
      have fewer := Ring.used_of_retire? retired
      show Reception.load (leave _) ≤ used + taken + waiting
      rw [load_leave]
      show ring.used + waiting ≤ reception.ring.used + taken + waiting
      omega
  | @slotSkipped index ring slot popping retired =>
      have fewer := Ring.used_of_retire? retired
      show ring.used + taken + waiting ≤ reception.ring.used + taken + waiting
      omega
  | @opened index ring slot buffer popping retired
  | @setAside index ring slot buffer popping retired =>
      have fewer := Ring.used_of_retire? retired
      show ring.used + 1 + waiting ≤ reception.ring.used + taken + waiting
      omega
  | walked place | rejected place | dropped place | handedUp place | judged place =>
      rw [load, load, place]
      exact Nat.le_refl _
  | givenBack place =>
      rw [load, load, place]
      show used + 0 + waiting + 1 ≤ used + 1 + waiting
      omega
  | @drained bringUp _ _ waits =>
      have fewer : bringUp.unposted.length ≤ waiting := by
        rcases waits with rfl | ⟨-, rfl⟩
        · exact Nat.le_refl _
        · exact Nat.zero_le _
      show 0 + taken + bringUp.unposted.length ≤ used + taken + waiting
      omega

/-- While nothing was filed and no buffer is under way, all slots may wait to be posted. -/
theorem Vacant.load_le (vacant : reception.Vacant) : reception.load ≤ receiveSlots := by
  have used : reception.ring.used = 0 := by
    rw [← Ring.length_window, vacant.window, List.length_nil]
  have free : reception.pass.work? = none := by
    by_contra taken
    obtain ⟨work, has⟩ := Option.ne_none_iff_exists'.mp taken
    have carries := Pass.carried?_of_work? has
    rw [vacant.carried] at carries
    contradiction
  rw [load, used, free]
  simpa using reception.bringUp.length_unposted_le

/-! ## Where the pass is -/

/-- The pass has a buffer of the slot that was the oldest just before. -/
def Trails (reception : Reception) : Prop :=
  ∀ work, reception.pass.carried? = some work →
    work.index < receiveSlots ∧ reception.ring.start = (work.index + 1) % receiveSlots

theorem Trails.step (trails : reception.Trails) (sound : reception.Sound)
    (step : Step reception event next) : next.Trails := by
  intro work has
  rcases step.carried sound has with ⟨had, -, start⟩ | ⟨ring, slot, retired, -, -, vacated⟩
  · rw [start]
    exact trails work had
  · have inRange := sound.ring.start_lt
    obtain ⟨-, place, rfl⟩ := Ring.retire?_eq_some retired
    rw [sound.capacity, ← place] at inRange
    refine ⟨inRange, ?_⟩
    rw [vacated, ← sound.capacity, place]
    rfl

/-- While the ring is not full, that slot is not in the window. -/
theorem Trails.notMem_window (trails : reception.Trails) (sound : reception.Sound) {work : Work}
    (has : reception.pass.carried? = some work) (room : reception.ring.used < receiveSlots) :
    work.index ∉ reception.ring.window := by
  obtain ⟨inRange, start⟩ := trails work has
  intro member
  obtain ⟨offset, within, same⟩ := Ring.mem_window_iff.mp member
  rw [start, sound.capacity] at same
  simp only [receiveSlots] at inRange room same
  omega

/-! ## What must not be seen -/

/-- The buffer of a slot with this handle was posted. -/
def Known (reception : Reception) (handle : Handle) : Prop :=
  ∃ index : Nat, reception.ring.handles[index]? = some handle ∧
    index ∉ reception.bringUp.unposted

/-- A slot of the window lost its buffer, and none comes back to it. -/
structure Overlooked (reception : Reception) (index : Nat) : Prop where
  vacant : reception.ring.buffer? index = none
  /-- A transfer with its handle goes to an earlier slot. -/
  second : ∃ earlier < index, reception.ring.handles[earlier]? = reception.ring.handles[index]?
  elsewhere : ∀ work, reception.pass.carried? = some work → work.index ≠ index

/-- Of the slots in the window the pass sees nothing of what is written over the buffers, if
no buffers are around but those that were submitted on some handles. -/
structure Guarded (reception : Reception) (overlay : Overlay) (handles : List Handle) :
    Prop where
  shown : ∀ index ∈ reception.ring.window,
    reception.ring.Shields overlay.slots index ∨ reception.Overlooked index
  window : ∀ index ∈ reception.ring.window, ∀ handle,
    reception.ring.handles[index]? = some handle → reception.Known handle
  carried : ∀ work, reception.pass.carried? = some work → reception.Known work.handle
  submitted : ∀ handle ∈ handles, reception.Known handle

end Reception

namespace Reception

variable {reception next : Reception} {overlay further : Overlay} {handles : List Handle}
  {index : Nat}

theorem Known.of_eq {handle : Handle} (known : reception.Known handle)
    (same : next.ring.handles = reception.ring.handles)
    (unposted : ∀ index ∈ next.bringUp.unposted, index ∈ reception.bringUp.unposted) :
    next.Known handle := by
  obtain ⟨index, named, posted⟩ := known
  exact ⟨index, same ▸ named, fun member => posted (unposted index member)⟩

namespace Guarded

/-- While nothing was filed and no buffer is under way, nothing is seen. -/
theorem of_vacant (vacant : reception.Vacant) (overlay : Overlay) :
    reception.Guarded overlay [] where
  shown index inWindow := by simp [vacant.window] at inWindow
  window index inWindow := by simp [vacant.window] at inWindow
  carried work has := by simp [vacant.carried] at has
  submitted := by simp

theorem readsThrough {engine : Engine} (sound : engine.reception.Sound)
    (guarded : engine.device.accepts = true → engine.reception.Guarded overlay handles) :
    engine.ReadsThrough overlay.slots := by
  intro accepts index ring slot buffer retired found held succeeded
  have window := Ring.window_retire sound.ring retired
  have before : engine.receive.slots[index]? = some slot := by
    rw [(Ring.retire?_eq_some retired).2.2] at found
    exact found
  rcases (guarded accepts).shown index (window ▸ List.mem_cons_self) with shields | overlooked
  · exact shields.shown before held succeeded
  · have holds : engine.receive.buffer? index = some buffer :=
      Ring.buffer?_eq_some_iff.mpr ⟨slot, before, held⟩
    exact absurd (holds.symm.trans overlooked.vacant) (by simp)

/-- A slot of which nothing changes. -/
theorem shown_of_eq (guarded : reception.Guarded overlay handles)
    (inWindow : index ∈ reception.ring.window)
    (same : next.ring.slots[index]? = reception.ring.slots[index]?)
    (above : further.slots index = overlay.slots index)
    (named : next.ring.handles = reception.ring.handles)
    (carried : ∀ work, next.pass.carried? = some work → work.index = index →
      reception.pass.carried? = some work) :
    next.ring.Shields further.slots index ∨ next.Overlooked index := by
  rcases guarded.shown index inWindow with shields | overlooked
  · exact Or.inl (shields.of_eq same above)
  · refine Or.inr ⟨?_, named ▸ overlooked.second, fun work has place => ?_⟩
    · rw [Ring.buffer?, same]
      exact overlooked.vacant
    · exact overlooked.elsewhere work (carried work has place) place

/-- What has to be looked at in a step. -/
theorem of_shown (guarded : reception.Guarded overlay handles) {more : List Handle}
    (named : next.ring.handles = reception.ring.handles)
    (unposted : ∀ index ∈ next.bringUp.unposted, index ∈ reception.bringUp.unposted)
    (window : ∀ index ∈ next.ring.window, index ∉ reception.ring.window →
      ∀ handle, reception.ring.handles[index]? = some handle → reception.Known handle)
    (carried : ∀ work, next.pass.carried? = some work → reception.Known work.handle)
    (submitted : ∀ handle ∈ more, next.Known handle)
    (shown : ∀ index ∈ next.ring.window,
      next.ring.Shields further.slots index ∨ next.Overlooked index) :
    next.Guarded further (handles ++ more) := by
  refine ⟨shown, fun index inWindow handle found => ?_, fun work has => ?_, ?_⟩
  · rw [named] at found
    by_cases before : index ∈ reception.ring.window
    · exact (guarded.window index before handle found).of_eq named unposted
    · exact (window index inWindow before handle found).of_eq named unposted
  · exact (carried work has).of_eq named unposted
  · rw [List.forall_mem_append]
    exact ⟨fun handle member => (guarded.submitted handle member).of_eq named unposted, submitted⟩

/-- Of the slots nothing changes, and the window does not grow. -/
theorem keep (guarded : reception.Guarded overlay handles)
    (within : next.Within further reception overlay) (above : further.slots = overlay.slots)
    (slots : next.ring.slots = reception.ring.slots)
    (window : ∀ index ∈ next.ring.window, index ∈ reception.ring.window) :
    next.Guarded further (handles ++ []) := by
  have named : next.ring.handles = reception.ring.handles := congrArg (List.map _) slots
  refine guarded.of_shown named within.unposted ?_ ?_ (by simp) fun index inWindow => ?_
  · exact fun index inWindow outside => absurd (window index inWindow) outside
  · exact fun work has => guarded.carried work (within.carried work has).1
  · refine guarded.shown_of_eq (window index inWindow) ?_ (congrFun above index) named ?_
    · rw [slots]
    · exact fun work has _ => (within.carried work has).1

/-- A buffer is put back to a slot that is not overlooked. -/
theorem putBack (guarded : reception.Guarded overlay handles)
    (within : next.Within further reception overlay) {buffer : Buffer} {octets : Octets}
    (ring : next.ring = reception.ring.putBack index buffer)
    (above : further.slots = reception.ring.putBackOver overlay.slots index octets)
    (seen : ¬ reception.Overlooked index) : next.Guarded further (handles ++ []) := by
  have window : next.ring.window = reception.ring.window := by
    rw [ring]
    rfl
  cases held : reception.ring.buffer? index with
  | some own =>
      rw [Ring.putBack_of_buffer? held] at ring
      rw [reception.ring.putBackOver_of_buffer? _ held] at above
      exact guarded.keep within above (congrArg Ring.slots ring)
        fun index member => window ▸ member
  | none =>
      have outside : index ∉ reception.ring.window := by
        intro inWindow
        rcases guarded.shown index inWindow with shields | overlooked
        · exact shields.buffer?_ne_none held
        · exact seen overlooked
      have named : next.ring.handles = reception.ring.handles := by
        rw [ring, Ring.handles_putBack]
      rw [Ring.putBackOver, if_pos held] at above
      refine guarded.of_shown named within.unposted ?_ ?_ (by simp) fun other inWindow => ?_
      · exact fun other inWindow before => absurd (window ▸ inWindow) before
      · exact fun work has => guarded.carried work (within.carried work has).1
      · rw [window] at inWindow
        have apart : other ≠ index := by
          rintro rfl
          exact outside inWindow
        refine guarded.shown_of_eq inWindow ?_ ?_ named ?_
        · rw [ring]
          exact Ring.getElem?_modify_of_ne apart _
        · rw [above]
          exact Function.update_of_ne apart _ _
        · exact fun work has _ => (within.carried work has).1

/-- The transfer whose turn it is, is filed. -/
theorem file (guarded : reception.Guarded overlay handles) (sound : reception.Sound)
    (within : next.Within further reception overlay) {transfer : Transfer Buffer}
    {octets : Octets} (expected : reception.ring.Expects transfer.handle)
    (ring : next.ring = reception.ring.file transfer)
    (above : further.slots = Function.update overlay.slots reception.ring.stop octets)
    (known : reception.Known transfer.handle)
    (shielded : transfer.status.isOk = true →
      (transfer.content.write octets).filled transfer.length =
        transfer.content.filled transfer.length) :
    next.Guarded further (handles ++ []) := by
  have window : next.ring.window = reception.ring.window ++ [reception.ring.stop] := by
    rw [ring, Ring.window_file sound.ring transfer expected.2.1]
  have named : next.ring.handles = reception.ring.handles := by
    rw [ring, Ring.handles_file]
  have only : ∀ index ∈ next.ring.window, index ∉ reception.ring.window →
      index = reception.ring.stop := by
    intro index inWindow outside
    rw [window, List.mem_append, List.mem_singleton] at inWindow
    exact inWindow.resolve_left outside
  refine guarded.of_shown named within.unposted ?_ ?_ (by simp) fun index inWindow => ?_
  · intro index inWindow outside handle found
    rw [only index inWindow outside, expected.handles_stop, Option.some.injEq] at found
    exact found ▸ known
  · exact fun work has => guarded.carried work (within.carried work has).1
  · by_cases place : index = reception.ring.stop
    · have below := Ring.lt_of_handles expected.handles_stop
      have filed : next.ring.slots[reception.ring.stop]? = some (ReceiveSlot.file transfer _) :=
        ring ▸ Ring.getElem?_file (List.getElem?_eq_getElem below)
      rw [place]
      refine Or.inl ⟨_, transfer.content, filed, rfl, ?_⟩
      rw [above, Function.update_self]
      exact shielded
    · have before : index ∈ reception.ring.window := by
        by_contra outside
        exact place (only index inWindow outside)
      refine guarded.shown_of_eq before ?_ ?_ named ?_
      · rw [ring]
        exact Ring.getElem?_modify_of_ne place _
      · rw [above]
        exact Function.update_of_ne place _ _
      · exact fun work has _ => (within.carried work has).1

/-- The pass takes the oldest buffer. -/
theorem take (guarded : reception.Guarded overlay handles) (sound : reception.Sound)
    {ring : Ring ReceiveSlot} {slot : ReceiveSlot} {buffer : Buffer}
    (retired : reception.ring.retire? = some (index, ring))
    (found : ring.slots[index]? = some slot)
    (vacated : next.ring = ring.vacate index) (bringUp : next.bringUp = reception.bringUp)
    (carried : next.pass.carried? = some ⟨index, slot.handle, buffer⟩) :
    next.Guarded { overlay with carried := overlay.slots index } (handles ++ []) := by
  have yields := vacated ▸ Ring.yields_of_retire sound.ring retired
  have before : ∀ other ∈ next.ring.window, other ∈ reception.ring.window := by
    intro other member
    rw [yields.window]
    exact List.mem_cons_of_mem _ member
  refine guarded.of_shown yields.handles (fun _ member => bringUp ▸ member) ?_ ?_ (by simp)
    fun other inWindow => ?_
  · exact fun other inWindow absent => absurd (before other inWindow) absent
  · intro work has
    rw [carried, Option.some.injEq] at has
    subst has
    rw [(Ring.retire?_eq_some retired).2.2] at found
    have inWindow : index ∈ reception.ring.window := yields.window ▸ List.mem_cons_self
    exact guarded.window index inWindow _ (Ring.handles_of_slot found)
  · have apart : other ≠ index := by
      rintro rfl
      exact yields.outside inWindow
    refine guarded.shown_of_eq (before other inWindow) (yields.others other apart) rfl
      yields.handles ?_
    intro work has place
    rw [carried, Option.some.injEq] at has
    subst has
    exact absurd place.symm apart

/-- The next slot is posted. -/
theorem post (guarded : reception.Guarded overlay handles)
    (populated : reception.ring.slots.length = receiveSlots) {slot : ReceiveSlot}
    {buffer : Buffer} (posting : reception.bringUp = .posting index)
    (below : index < receiveSlots) (found : reception.ring.slots[index]? = some slot)
    (ring : next.ring = reception.ring.vacate index)
    (bringUp : next.bringUp = .submitting ⟨index, slot.handle, buffer⟩)
    (pass : next.pass = reception.pass)
    (apart : ∀ work, reception.pass.carried? = some work → work.index = index →
      index ∉ reception.ring.window) :
    next.Guarded { overlay with posted := overlay.slots index } (handles ++ [slot.handle]) := by
  have own := Ring.handles_of_slot found
  have named : next.ring.handles = reception.ring.handles := by
    rw [ring, Ring.handles_vacate]
  have window : next.ring.window = reception.ring.window := by
    rw [ring]
    rfl
  have waiting : reception.bringUp.unposted = index :: next.bringUp.unposted := by
    rw [posting, bringUp, BringUp.unposted_posting below]
    rfl
  refine guarded.of_shown named ?_ ?_ ?_ ?_ fun other inWindow => ?_
  · intro other member
    rw [waiting]
    exact List.mem_cons_of_mem _ member
  · exact fun other inWindow absent => absurd (window ▸ inWindow) absent
  · exact fun work has => guarded.carried work (pass ▸ has)
  · rw [List.forall_mem_singleton]
    refine ⟨index, named ▸ own, fun member => ?_⟩
    simp only [bringUp, BringUp.unposted, List.mem_range'_1] at member
    omega
  · rw [window] at inWindow
    by_cases place : other = index
    · subst place
      obtain ⟨earlier, same, posted⟩ := guarded.window other inWindow _ own
      refine Or.inr ⟨?_, ⟨earlier, ?_, ?_⟩, fun work has there => ?_⟩
      · rw [ring, Ring.buffer?_vacate, if_pos rfl]
      · have inRange := Ring.lt_of_handles same
        simp only [posting, BringUp.unposted, List.mem_range'_1] at posted
        omega
      · rw [named, same, own]
      · exact apart work (pass ▸ has) there inWindow
    · refine guarded.shown_of_eq inWindow ?_ rfl named ?_
      · rw [ring]
        exact Ring.getElem?_modify_of_ne place _
      · exact fun work has _ => pass ▸ has

/-- The pass gives a buffer back. -/
theorem give (guarded : reception.Guarded overlay handles) {work : Work}
    (returning : reception.pass = .returning work) :
    Guarded { reception with pass := .submitting work } overlay (handles ++ [work.handle]) := by
  have carries : reception.pass.carried? = some work := by
    rw [returning]
    rfl
  have same : ∀ other : Work, (Pass.submitting work).carried? = some other →
      reception.pass.carried? = some other := fun other has => carries.trans has
  refine guarded.of_shown rfl (fun _ member => member) ?_ ?_ ?_ fun index inWindow => ?_
  · exact fun index inWindow absent => absurd inWindow absent
  · exact fun other has => guarded.carried other (same other has)
  · rw [List.forall_mem_singleton]
    exact guarded.carried work carries
  · exact guarded.shown_of_eq inWindow rfl rfl rfl fun other has _ => same other has

/-- A transfer that goes to a slot does not go to a later one. -/
theorem not_overlooked_of_position? {handle : Handle}
    (owner : (reception.ring.position? fun slot => slot.handle == handle) = some index) :
    ¬ reception.Overlooked index := by
  rintro ⟨-, ⟨earlier, before, same⟩, -⟩
  rw [Ring.handles_of_position? owner] at same
  have inRange := Ring.lt_of_handles same
  obtain ⟨_, -, first⟩ := List.findIdx?_eq_some_iff_getElem.mp owner
  have other := first earlier before
  have own := Ring.handles_of_slot (List.getElem?_eq_getElem inRange)
  rw [same, Option.some.injEq] at own
  simp [own] at other

/-- **What is not seen is not seen later**, if the transfer that ends was submitted. -/
theorem moves (guarded : reception.Guarded overlay handles) (sound : reception.Sound)
    (populated : reception.ring.slots.length = receiveSlots)
    (accepts : next.stage.accepts = true) {ended : Option (Transfer Buffer × Octets)}
    {more : List (Transfer Buffer × Octets)}
    (apart : ∀ index ∈ reception.bringUp.unposted, ∀ work,
      reception.pass.carried? = some work → work.index = index → index ∉ reception.ring.window)
    (admits : ∀ pair ∈ ended, pair.1.handle ∈ handles ∧ (pair.1.status.isOk = true →
      (pair.1.content.write pair.2).filled pair.1.length =
        pair.1.content.filled pair.1.length))
    (moves : reception.Moves overlay ended next further more) :
    next.Guarded further (handles ++ more.map fun pair => pair.1.handle) := by
  cases moves with
  | kept within above slots window => exact guarded.keep within above slots window
  | released _ _ shut | postRefused _ _ _ _ shut =>
      rw [accepts] at shut
      contradiction
  | putBack within carries ring above =>
      exact guarded.putBack within ring above fun overlooked =>
        overlooked.elsewhere _ carries rfl
  | dismissed within owner ring above =>
      exact guarded.putBack within ring above (not_overlooked_of_position? owner)
  | filed within expected ring above =>
      obtain ⟨submitted, shielded⟩ := admits _ rfl
      exact guarded.file sound within expected ring above (guarded.submitted _ submitted) shielded
  | taken retired found held vacated bringUp carried =>
      exact guarded.take sound retired found vacated bringUp carried
  | posted posting below found held ring bringUp pass =>
      refine guarded.post populated posting below found ring bringUp pass (apart _ ?_)
      rw [posting, BringUp.unposted_posting below]
      exact List.mem_cons_self
  | given returning => exact guarded.give returning

end Guarded

end Reception

end WlanDatapath
