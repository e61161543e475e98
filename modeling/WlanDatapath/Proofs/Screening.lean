import WlanDatapath.Proofs.Movements

/-!
# Buffers that absorb what is written over them

The pass reads the buffer of a slot in the window as far as the transfer reported that was
filed there.  Usually that transfer brought the buffer, and of what is written over it
nothing shows as far as that (`Ring.Shields`).  But a transfer may end before its slot was
posted.  Then posting takes the buffer out again, the slot stays in the window, and
another buffer may be put back to it.

`Reception.Screened` covers this for distinct handles.  While a slot is still to be
posted, a transfer on its handle was made up, and its buffer absorbs what is written over
it: that changes nothing.  So whatever is put back to the slot later absorbs it too.
`Screened.moves` shows that every move keeps this.
-/

namespace WlanDatapath

/-! ## What must not be seen -/

/-- Writing octets over a buffer changes nothing. -/
def Buffer.Absorbs (buffer : Buffer) (octets : Octets) : Prop :=
  buffer.write octets = buffer

namespace Ring

variable (ring : Ring ReceiveSlot) (slots : Nat → Octets) (index : Nat)

/-- What is written over the buffer in a slot changes nothing. -/
def Absorbs : Prop :=
  ∀ buffer, ring.buffer? index = some buffer → buffer.Absorbs (slots index)

/-- A slot holds a buffer, and of what is written over it nothing shows as far as a
transfer that succeeded reported. -/
def Shields : Prop :=
  ∃ slot buffer, ring.slots[index]? = some slot ∧ slot.buffer = some buffer ∧
    (slot.status.isOk = true →
      (buffer.write (slots index)).filled slot.length = buffer.filled slot.length)

variable {ring slots index} {next : Ring ReceiveSlot} {others : Nat → Octets}

theorem Absorbs.of_eq (absorbs : ring.Absorbs slots index)
    (same : next.slots[index]? = ring.slots[index]?) (above : others index = slots index) :
    next.Absorbs others index := by
  intro buffer held
  rw [buffer?, same] at held
  rw [above]
  exact absorbs buffer held

theorem Shields.of_eq (shields : ring.Shields slots index)
    (same : next.slots[index]? = ring.slots[index]?) (above : others index = slots index) :
    next.Shields others index := by
  rw [Shields, same, above]
  exact shields

/-- Of the buffer of such a slot nothing shows. -/
theorem Shields.shown (shields : ring.Shields slots index) {slot : ReceiveSlot} {buffer : Buffer}
    (found : ring.slots[index]? = some slot) (held : slot.buffer = some buffer)
    (succeeded : slot.status.isOk = true) :
    (buffer.write (slots index)).filled slot.length = buffer.filled slot.length := by
  obtain ⟨other, own, there, holds, shown⟩ := shields
  obtain rfl : other = slot := Option.some.inj (there.symm.trans found)
  obtain rfl : own = buffer := Option.some.inj (holds.symm.trans held)
  exact shown succeeded

/-- Such a slot holds its buffer. -/
theorem Shields.buffer?_ne_none (shields : ring.Shields slots index) :
    ring.buffer? index ≠ none := by
  obtain ⟨slot, buffer, found, holds, -⟩ := shields
  rw [Ring.buffer?_eq_some_iff.mpr ⟨slot, found, holds⟩]
  exact Option.some_ne_none _

/-- A change of one slot leaves the others alone. -/
theorem getElem?_modify_of_ne {place : Nat} (apart : index ≠ place)
    (change : ReceiveSlot → ReceiveSlot) :
    (ring.modify place change).slots[index]? = ring.slots[index]? := by
  simp [modify, Ne.symm apart]

/-- A ring whose oldest slot was emptied and left the window. -/
structure Yields (ring : Ring ReceiveSlot) (index : Nat) (next : Ring ReceiveSlot) : Prop where
  window : ring.window = index :: next.window
  outside : index ∉ next.window
  handles : next.handles = ring.handles
  others : ∀ other ≠ index, next.slots[other]? = ring.slots[other]?

theorem yields_of_retire (sound : ring.WellFormed) (retired : ring.retire? = some (index, next)) :
    ring.Yields index (next.vacate index) := by
  have window : (next.vacate index).window = next.window := rfl
  refine ⟨?_, ?_, ?_, fun other apart => ?_⟩
  · rw [window, window_retire sound retired]
  · rw [window]
    exact notMem_window_of_retire sound retired
  · rw [handles_vacate, handles_retire retired]
  · refine (getElem?_modify_of_ne apart _).trans ?_
    rw [(retire?_eq_some retired).2.2]

/-- A transfer is filed into the slot behind the window. -/
theorem getElem?_file {transfer : Transfer Buffer} {slot : ReceiveSlot}
    (found : ring.slots[ring.stop]? = some slot) :
    (ring.file transfer).slots[ring.stop]? = some (slot.file transfer) := by
  simp [file, modify, found]

theorem window_file (sound : ring.WellFormed) (transfer : Transfer Buffer)
    (room : ring.isFull = false) :
    (ring.file transfer).window = ring.window ++ [ring.stop] := by
  have published := window_publish (sound.modify ring.stop (ReceiveSlot.file transfer))
    (publish_file transfer room)
  exact published

/-- A slot that holds a buffer keeps it. -/
theorem putBack_of_buffer? {own buffer : Buffer} (held : ring.buffer? index = some own) :
    ring.putBack index buffer = ring := by
  obtain ⟨slot, found, holds⟩ := buffer?_eq_some_iff.mp held
  have same : (ring.putBack index buffer).slots = ring.slots := by
    apply List.ext_getElem?
    intro place
    by_cases here : index = place
    · subst here
      simp [putBack, modify, found, ReceiveSlot.putBack_of_buffer holds]
    · exact getElem?_modify_of_ne (Ne.symm here) _
  exact congrArg (fun slots => { ring with slots := slots }) same

/-- An empty slot takes no other buffer than the one that is put back. -/
theorem eq_of_putBack {own buffer : Buffer} (vacant : ring.buffer? index = none)
    (held : (ring.putBack index buffer).buffer? index = some own) : own = buffer := by
  rw [putBack, buffer?_modify, if_pos rfl] at held
  obtain ⟨slot, found, holds⟩ := Option.bind_eq_some_iff.mp held
  rw [buffer?, found, Option.bind_some] at vacant
  simpa [ReceiveSlot.putBack, vacant] using holds.symm

end Ring

namespace Reception

/-- What is written over the buffers of a slot that are not in it changes nothing: over the
one that the pass has, the one that is being posted and those that were submitted. -/
structure AbsorbsElsewhere (reception : Reception) (overlay : Overlay)
    (submitted : List (Transfer Buffer × Octets)) (index : Nat) : Prop where
  carried : ∀ work, reception.pass.carried? = some work → work.index = index →
    work.buffer.Absorbs overlay.carried
  posted : ∀ work, reception.bringUp = .submitting work → work.index = index →
    work.buffer.Absorbs overlay.posted
  submitted : ∀ pair ∈ submitted, reception.ring.handles[index]? = some pair.1.handle →
    pair.1.content.Absorbs pair.2

/-- What is written over the buffers is not seen by the pass, now or later. -/
structure Screened (reception : Reception) (overlay : Overlay)
    (submitted : List (Transfer Buffer × Octets)) : Prop where
  shown : ∀ index,
    (reception.ring.Absorbs overlay.slots index ∧
        reception.AbsorbsElsewhere overlay submitted index) ∨
      (index ∈ reception.ring.window → reception.ring.Shields overlay.slots index)
  unposted : ∀ index ∈ reception.bringUp.unposted,
    reception.AbsorbsElsewhere overlay submitted index ∧
      (index ∈ reception.ring.window → reception.ring.Absorbs overlay.slots index)

/-- The handles of the slots are distinct, and the pass knows the handle of the buffer that
it carries. -/
structure Labelled (reception : Reception) : Prop where
  distinct : reception.ring.handles.Nodup
  named : ∀ work, reception.pass.carried? = some work →
    reception.ring.handles[work.index]? = some work.handle

/-- What is written over the buffer of a transfer that ends is not seen if the others of its
slot absorb what is written over them. -/
structure Admits (reception : Reception) (overlay : Overlay)
    (submitted : List (Transfer Buffer × Octets)) (transfer : Transfer Buffer)
    (octets : Octets) : Prop where
  absorbed : ∀ index, reception.ring.handles[index]? = some transfer.handle →
    reception.AbsorbsElsewhere overlay submitted index → transfer.content.Absorbs octets
  shielded : transfer.status.isOk = true →
    (transfer.content.write octets).filled transfer.length =
      transfer.content.filled transfer.length

variable {reception next : Reception} {overlay further : Overlay}
  {submitted : List (Transfer Buffer × Octets)} {index : Nat}

theorem AbsorbsElsewhere.within (elsewhere : reception.AbsorbsElsewhere overlay submitted index)
    (within : next.Within further reception overlay) :
    next.AbsorbsElsewhere further submitted index where
  carried work has same := by
    obtain ⟨had, above⟩ := within.carried work has
    rw [above]
    exact elsewhere.carried work had same
  posted work submits same := by
    obtain ⟨submitted, above⟩ := within.posted work submits
    rw [above]
    exact elsewhere.posted work submitted same
  submitted pair member named := elsewhere.submitted pair member (within.handles _ _ named)

/-- One more buffer was submitted. -/
theorem AbsorbsElsewhere.concat (elsewhere : reception.AbsorbsElsewhere overlay submitted index)
    {transfer : Transfer Buffer} {octets : Octets}
    (absorbed : reception.ring.handles[index]? = some transfer.handle →
      transfer.content.Absorbs octets) :
    ∀ pair ∈ submitted ++ [(transfer, octets)],
      reception.ring.handles[index]? = some pair.1.handle → pair.1.content.Absorbs pair.2 := by
  simp only [List.forall_mem_append, List.forall_mem_singleton]
  exact ⟨elsewhere.submitted, absorbed⟩

/-- A handle names one slot. -/
theorem Labelled.eq_of_named (labelled : reception.Labelled) {other : Nat} {handle : Handle}
    (named : reception.ring.handles[index]? = some handle)
    (found : reception.ring.handles[other]? = some handle) : index = other :=
  (List.getElem?_inj (List.getElem?_eq_some_iff.mp named).1 labelled.distinct).mp
    (named.trans found.symm)

/-- Every step keeps the labels, if the handles stay distinct. -/
theorem Labelled.step (labelled : reception.Labelled) (sound : reception.Sound) {event : Event}
    (step : Step reception event next) (distinct : next.ring.handles.Nodup) :
    next.Labelled := by
  refine ⟨distinct, fun work has => ?_⟩
  rcases step.carried sound has with ⟨had, handles, -⟩ | ⟨ring, slot, -, found, handle, vacated⟩
  · rw [handles]
    exact labelled.named work had
  · rw [vacated, Ring.handles_vacate, handle]
    exact Ring.handles_of_slot found

namespace Screened

/-- At most one slot is concerned by a step. -/
theorem of_place (screened : reception.Screened overlay submitted)
    {resubmitted : List (Transfer Buffer × Octets)} (place : Nat)
    (slots : ∀ index, index ≠ place → next.ring.slots[index]? = reception.ring.slots[index]? ∧
      further.slots index = overlay.slots index)
    (window : ∀ index, index ≠ place → index ∈ next.ring.window → index ∈ reception.ring.window)
    (unposted : ∀ index, index ≠ place → index ∈ next.bringUp.unposted →
      index ∈ reception.bringUp.unposted)
    (elsewhere : ∀ index, index ≠ place → reception.AbsorbsElsewhere overlay submitted index →
      next.AbsorbsElsewhere further resubmitted index)
    (shown : (next.ring.Absorbs further.slots place ∧
        next.AbsorbsElsewhere further resubmitted place) ∨
      (place ∈ next.ring.window → next.ring.Shields further.slots place))
    (waiting : place ∈ next.bringUp.unposted →
      next.AbsorbsElsewhere further resubmitted place ∧
        (place ∈ next.ring.window → next.ring.Absorbs further.slots place)) :
    next.Screened further resubmitted := by
  refine ⟨fun index => ?_, fun index member => ?_⟩
  · by_cases apart : index = place
    · rw [apart]
      exact shown
    · obtain ⟨same, above⟩ := slots index apart
      rcases screened.shown index with ⟨here, away⟩ | shields
      · exact Or.inl ⟨here.of_eq same above, elsewhere index apart away⟩
      · exact Or.inr fun inWindow => (shields (window index apart inWindow)).of_eq same above
  · by_cases apart : index = place
    · rw [apart] at member ⊢
      exact waiting member
    · obtain ⟨same, above⟩ := slots index apart
      obtain ⟨away, here⟩ := screened.unposted index (unposted index apart member)
      exact ⟨elsewhere index apart away,
        fun inWindow => (here (window index apart inWindow)).of_eq same above⟩

/-- Of the slots nothing changes, and the window does not grow. -/
theorem keep (screened : reception.Screened overlay submitted)
    (within : next.Within further reception overlay) (above : further.slots = overlay.slots)
    (slots : next.ring.slots = reception.ring.slots)
    (window : ∀ index ∈ next.ring.window, index ∈ reception.ring.window) :
    next.Screened further submitted := by
  have same : ∀ index : Nat, next.ring.slots[index]? = reception.ring.slots[index]? := by
    rw [slots]
    exact fun _ => rfl
  refine ⟨fun index => ?_, fun index member => ?_⟩
  · rcases screened.shown index with ⟨here, away⟩ | shields
    · exact Or.inl ⟨here.of_eq (same index) (congrFun above index), away.within within⟩
    · refine Or.inr fun inWindow => ?_
      exact (shields (window index inWindow)).of_eq (same index) (congrFun above index)
  · obtain ⟨away, here⟩ := screened.unposted index (within.unposted index member)
    refine ⟨away.within within, fun inWindow => ?_⟩
    exact (here (window index inWindow)).of_eq (same index) (congrFun above index)

/-- The window is closed. -/
theorem close (screened : reception.Screened overlay submitted)
    (within : next.Within further reception overlay) (window : next.ring.window = []) :
    next.Screened further submitted := by
  refine ⟨fun index => Or.inr fun inWindow => ?_, fun index member => ⟨?_, fun inWindow => ?_⟩⟩
  · simp [window] at inWindow
  · exact (screened.unposted index (within.unposted index member)).1.within within
  · simp [window] at inWindow

/-- A buffer is put back. -/
theorem putBack (screened : reception.Screened overlay submitted)
    (within : next.Within further reception overlay) {buffer : Buffer} {octets : Octets}
    (ring : next.ring = reception.ring.putBack index buffer)
    (above : further.slots = reception.ring.putBackOver overlay.slots index octets)
    (absorbed : reception.AbsorbsElsewhere overlay submitted index → buffer.Absorbs octets) :
    next.Screened further submitted := by
  have window : next.ring.window = reception.ring.window := by
    rw [ring]
    rfl
  cases held : reception.ring.buffer? index with
  | some own =>
      rw [Ring.putBack_of_buffer? held] at ring
      rw [reception.ring.putBackOver_of_buffer? _ held] at above
      exact screened.keep within above (congrArg Ring.slots ring)
        fun index member => window ▸ member
  | none =>
      rw [Ring.putBackOver, if_pos held] at above
      have absorbs : reception.AbsorbsElsewhere overlay submitted index →
          next.ring.Absorbs further.slots index := by
        intro away own holds
        rw [ring] at holds
        rw [above, Function.update_self, Ring.eq_of_putBack held holds]
        exact absorbed away
      refine screened.of_place index ?_ ?_ ?_ ?_ ?_ ?_
      · intro other apart
        rw [ring, above]
        exact ⟨Ring.getElem?_modify_of_ne apart _, Function.update_of_ne apart _ _⟩
      · intro other _ member
        exact window ▸ member
      · intro other _ member
        exact within.unposted other member
      · intro other _ away
        exact away.within within
      · rcases screened.shown index with ⟨-, away⟩ | shields
        · exact Or.inl ⟨absorbs away, away.within within⟩
        · refine Or.inr fun inWindow => ?_
          exact absurd held (shields (window ▸ inWindow)).buffer?_ne_none
      · intro member
        have away := (screened.unposted index (within.unposted index member)).1
        exact ⟨away.within within, fun _ => absorbs away⟩

/-- The transfer whose turn it is, is filed. -/
theorem file (screened : reception.Screened overlay submitted) (sound : reception.Sound)
    (within : next.Within further reception overlay) {transfer : Transfer Buffer}
    {octets : Octets} (expected : reception.ring.Expects transfer.handle)
    (ring : next.ring = reception.ring.file transfer)
    (above : further.slots = Function.update overlay.slots reception.ring.stop octets)
    (absorbed : reception.AbsorbsElsewhere overlay submitted reception.ring.stop →
      transfer.content.Absorbs octets)
    (shielded : transfer.status.isOk = true →
      (transfer.content.write octets).filled transfer.length =
        transfer.content.filled transfer.length) :
    next.Screened further submitted := by
  have below := Ring.lt_of_handles expected.handles_stop
  have window : next.ring.window = reception.ring.window ++ [reception.ring.stop] := by
    rw [ring, Ring.window_file sound.ring transfer expected.2.1]
  have here : further.slots reception.ring.stop = octets := by
    rw [above, Function.update_self]
  refine screened.of_place reception.ring.stop ?_ ?_ ?_ ?_ ?_ ?_
  · intro index apart
    rw [ring, above]
    exact ⟨Ring.getElem?_modify_of_ne apart _, Function.update_of_ne apart _ _⟩
  · intro index apart member
    rw [window, List.mem_append, List.mem_singleton] at member
    exact member.resolve_right apart
  · intro index _ member
    exact within.unposted index member
  · intro index _ away
    exact away.within within
  · have filed : next.ring.slots[reception.ring.stop]? = some (ReceiveSlot.file transfer _) :=
      ring ▸ Ring.getElem?_file (List.getElem?_eq_getElem below)
    refine Or.inr fun _ => ⟨_, transfer.content, filed, rfl, ?_⟩
    rw [here]
    exact shielded
  · intro member
    have away := (screened.unposted _ (within.unposted _ member)).1
    refine ⟨away.within within, fun _ buffer held => ?_⟩
    rw [ring, Ring.buffer?_file below, if_pos rfl, Option.some.injEq] at held
    rw [here]
    exact held ▸ absorbed away

/-- The pass takes the oldest buffer. -/
theorem take (screened : reception.Screened overlay submitted) (sound : reception.Sound)
    {index : Nat} {ring : Ring ReceiveSlot} {slot : ReceiveSlot} {buffer : Buffer}
    (retired : reception.ring.retire? = some (index, ring))
    (found : ring.slots[index]? = some slot) (held : slot.buffer = some buffer)
    (vacated : next.ring = ring.vacate index) (bringUp : next.bringUp = reception.bringUp)
    (carried : next.pass.carried? = some ⟨index, slot.handle, buffer⟩) :
    next.Screened { overlay with carried := overlay.slots index } submitted := by
  have yields := vacated ▸ Ring.yields_of_retire sound.ring retired
  have elsewhere : ∀ other, reception.AbsorbsElsewhere overlay submitted other →
      (other = index → buffer.Absorbs (overlay.slots index)) →
      next.AbsorbsElsewhere { overlay with carried := overlay.slots index } submitted other := by
    intro other away here
    refine ⟨?_, bringUp ▸ away.posted, yields.handles ▸ away.submitted⟩
    intro work has same
    rw [carried, Option.some.injEq] at has
    subst has
    exact here same.symm
  refine screened.of_place index ?_ ?_ ?_ ?_ ?_ ?_
  · exact fun other apart => ⟨yields.others other apart, rfl⟩
  · intro other _ member
    rw [yields.window]
    exact List.mem_cons_of_mem _ member
  · intro other _ member
    exact bringUp ▸ member
  · exact fun other apart away => elsewhere other away fun same => absurd same apart
  · exact Or.inr fun member => absurd member yields.outside
  · intro member
    obtain ⟨away, here⟩ := screened.unposted index (bringUp ▸ member)
    refine ⟨elsewhere index away fun _ => ?_, fun member => absurd member yields.outside⟩
    rw [(Ring.retire?_eq_some retired).2.2] at found
    exact here (yields.window ▸ List.mem_cons_self) buffer
      (Ring.buffer?_eq_some_iff.mpr ⟨slot, found, held⟩)

/-- The next slot is posted. -/
theorem post (screened : reception.Screened overlay submitted) (labelled : reception.Labelled)
    {index : Nat} {slot : ReceiveSlot} {buffer : Buffer}
    (posting : reception.bringUp = .posting index) (below : index < receiveSlots)
    (found : reception.ring.slots[index]? = some slot) (held : slot.buffer = some buffer)
    (ring : next.ring = reception.ring.vacate index)
    (bringUp : next.bringUp = .submitting ⟨index, slot.handle, buffer⟩)
    (pass : next.pass = reception.pass) :
    next.Screened { overlay with posted := overlay.slots index }
      (submitted ++ [(.bind slot.handle buffer, overlay.slots index)]) := by
  have named := Ring.handles_of_slot found
  have handles : next.ring.handles = reception.ring.handles := by
    rw [ring, Ring.handles_vacate]
  have window : next.ring.window = reception.ring.window := by
    rw [ring]
    rfl
  have unposted : reception.bringUp.unposted = index :: next.bringUp.unposted := by
    rw [posting, bringUp, BringUp.unposted_posting below]
    rfl
  refine screened.of_place index ?_ ?_ ?_ ?_ ?_ ?_
  · intro other apart
    rw [ring]
    exact ⟨Ring.getElem?_modify_of_ne apart _, rfl⟩
  · intro other _ member
    exact window ▸ member
  · intro other _ member
    rw [unposted]
    exact List.mem_cons_of_mem _ member
  · intro other apart away
    refine ⟨pass ▸ away.carried, ?_, handles ▸ away.concat fun found => ?_⟩
    · intro work submits same
      rw [bringUp, BringUp.submitting.injEq] at submits
      subst submits
      exact absurd same.symm apart
    · exact absurd (labelled.eq_of_named found named) apart
  · obtain ⟨away, here⟩ := screened.unposted index (unposted ▸ List.mem_cons_self)
    by_cases inWindow : index ∈ reception.ring.window
    · have absorbs : buffer.Absorbs (overlay.slots index) :=
        here inWindow buffer (Ring.buffer?_eq_some_iff.mpr ⟨slot, found, held⟩)
      refine Or.inl ⟨?_, pass ▸ away.carried, ?_, handles ▸ away.concat fun _ => absorbs⟩
      · intro own holds
        rw [ring, Ring.buffer?_vacate, if_pos rfl] at holds
        contradiction
      · intro work submits _
        rw [bringUp, BringUp.submitting.injEq] at submits
        subst submits
        exact absorbs
    · exact Or.inr fun member => absurd (window ▸ member) inWindow
  · intro member
    simp only [bringUp, BringUp.unposted, List.mem_range'_1] at member
    omega

/-- The pass gives a buffer back. -/
theorem give (screened : reception.Screened overlay submitted) (labelled : reception.Labelled)
    {work : Work} (returning : reception.pass = .returning work) :
    Screened { reception with pass := .submitting work } overlay
      (submitted ++ [(.bind work.handle work.buffer, overlay.carried)]) := by
  have carries : reception.pass.carried? = some work := by
    rw [returning]
    rfl
  have elsewhere : ∀ index, reception.AbsorbsElsewhere overlay submitted index →
      AbsorbsElsewhere { reception with pass := .submitting work } overlay
        (submitted ++ [(.bind work.handle work.buffer, overlay.carried)]) index := by
    intro index away
    refine ⟨fun other has => away.carried other (carries.trans has), away.posted,
      away.concat fun found => ?_⟩
    exact away.carried work carries (labelled.eq_of_named (labelled.named work carries) found)
  refine ⟨fun index => ?_, fun index member => ?_⟩
  · exact (screened.shown index).imp (fun same => ⟨same.1, elsewhere index same.2⟩) id
  · exact (screened.unposted index member).imp (elsewhere index) id

/-- **What is not seen is not seen later**, if the transfer that ends is admitted. -/
theorem moves (screened : reception.Screened overlay submitted) (sound : reception.Sound)
    (labelled : reception.Labelled) {ended : Option (Transfer Buffer × Octets)}
    {more : List (Transfer Buffer × Octets)}
    (admits : ∀ pair ∈ ended, reception.Admits overlay submitted pair.1 pair.2)
    (moves : reception.Moves overlay ended next further more) :
    next.Screened further (submitted ++ more) := by
  cases moves with
  | kept within above slots window =>
      rw [List.append_nil]
      exact screened.keep within above slots window
  | released within window =>
      rw [List.append_nil]
      exact screened.close within window
  | putBack within carries ring above =>
      rw [List.append_nil]
      exact screened.putBack within ring above fun away => away.carried _ carries rfl
  | postRefused within submitting ring above =>
      rw [List.append_nil]
      exact screened.putBack within ring above fun away => away.posted _ submitting rfl
  | dismissed within owner ring above =>
      rw [List.append_nil]
      exact screened.putBack within ring above
        ((admits _ rfl).absorbed _ (Ring.handles_of_position? owner))
  | filed within expected ring above =>
      rw [List.append_nil]
      exact screened.file sound within expected ring above
        ((admits _ rfl).absorbed _ expected.handles_stop) (admits _ rfl).shielded
  | taken retired found held vacated bringUp carried =>
      rw [List.append_nil]
      exact screened.take sound retired found held vacated bringUp carried
  | posted posting below found held ring bringUp pass =>
      exact screened.post labelled posting below found held ring bringUp pass
  | given returning => exact screened.give labelled returning

/-- Of the buffer that the pass takes it reads what does not show what was written over. -/
theorem readsThrough {engine : Engine} (screened : engine.reception.Screened overlay submitted)
    (sound : engine.reception.Sound) : engine.ReadsThrough overlay.slots := by
  intro _ index ring slot buffer retired found held succeeded
  have window := Ring.window_retire sound.ring retired
  have before : engine.receive.slots[index]? = some slot := by
    rw [(Ring.retire?_eq_some retired).2.2] at found
    exact found
  rcases screened.shown index with ⟨here, -⟩ | shields
  · have absorbs := here buffer (Ring.buffer?_eq_some_iff.mpr ⟨slot, before, held⟩)
    rw [absorbs]
  · exact (shields (window ▸ List.mem_cons_self)).shown before held succeeded

/-- While nothing was filed and no buffer is under way, nothing is seen. -/
theorem of_vacant (vacant : next.Vacant) (overlay : Overlay) : next.Screened overlay [] := by
  refine ⟨fun index => Or.inr fun inWindow => ?_, fun index member => ⟨?_, fun inWindow => ?_⟩⟩
  · simp [vacant.window] at inWindow
  · refine ⟨fun work has => ?_, fun work submits => absurd submits (vacant.posted work), by simp⟩
    rw [vacant.carried] at has
    contradiction
  · simp [vacant.window] at inWindow

end Screened

end Reception

/-! ## Distinct handles -/

/-- An engine that was only created has no handle. -/
theorem Engine.count_of_created {engine : Engine} (sound : engine.Sound)
    (created : engine.device.stage = .created) (handle : Handle) :
    engine.custody.count handle = 0 := by
  have receive : engine.receive = .empty receiveSlots :=
    congrArg Reception.ring (sound.reception.untouched created)
  have transmit : ∀ lane : Lane, engine.transmit.get lane = .empty transmitSlots :=
    sound.transmission.untouched created
  simp [Custody.count, custody, receive, transmit, Ring.handles, Ring.empty]

namespace Moment

variable {moment : Moment}

theorem created_of_awakens (awake : moment.awakens = true) :
    moment.before.device.stage = .created := by
  obtain ⟨engine, input⟩ := moment
  cases input <;> simp_all [awakens]

/-- Handles are issued only when a device is brought up. -/
theorem issued_eq_nil (asleep : moment.awakens = false) : issued moment.effects = [] := by
  obtain ⟨engine, input⟩ := moment
  cases input with
  | startBringUp supply =>
      have begun : engine.device.stage ≠ .created := by
        simpa [awakens] using asleep
      rw [effects_startBringUp, Engine.startBringUp, if_pos begun]
      rfl
  | proceedBringUp | answerPost | completeReceive | startPass | proceedPass | answerDelivery
  | answerRepost | enqueue | completeTransmit | finishStatistics | beginTeardown
  | finishTeardown => exact Effect.watches_issued?.effects_eq_nil _ (by simp [Input.kinds])

/-- The handles issued at a moment are distinct, if the transport issues distinct ones. -/
theorem nodup_issued (distinct : moment.issuesDistinct = true) :
    (issued moment.effects).Nodup := by
  obtain ⟨engine, input⟩ := moment
  cases input with
  | startBringUp supply =>
      obtain ⟨slots, handles, accounted⟩ := engine.acquire_accounted supply acquisitions
      have nodup := accounted.taken.sublist.nodup (of_decide_eq_true distinct)
      rw [effects_startBringUp, Engine.startBringUp]
      split
      · exact List.nodup_nil
      · cases result : engine.acquire supply acquisitions with
        | mk acquired rest =>
            obtain ⟨effects, failure⟩ := rest
            rw [result] at nodup
            cases failure with
            | none => exact nodup
            | some failure =>
                simp only
                rw [issued_append_of_ne effects fun effect member kind => by
                  simpa [kind] using acquired.kind_abandon failure effect member]
                exact nodup
  | _ =>
      rw [issued_eq_nil rfl]
      exact List.nodup_nil

/-- No handle is in two slots, if the transport issues distinct ones. -/
theorem count_le_one (sound : moment.before.Sound) (distinct : moment.issuesDistinct = true)
    (single : ∀ handle, moment.before.custody.count handle ≤ 1) (handle : Handle) :
    moment.after.custody.count handle ≤ 1 := by
  have balanced := moment.balanced sound handle
  have bound := List.nodup_iff_count_le_one.mp (nodup_issued distinct) handle
  have before := single handle
  cases awake : moment.awakens with
  | false =>
      rw [issued_eq_nil awake, List.count_nil] at balanced
      omega
  | true =>
      have none := Engine.count_of_created sound (created_of_awakens awake) handle
      omega

/-- The labels of the slots are kept, if the transport issues distinct handles. -/
theorem labelled (sound : moment.before.Sound) (labelled : moment.before.reception.Labelled)
    (single : ∀ handle, moment.after.custody.count handle ≤ 1) :
    moment.after.reception.Labelled := by
  obtain ⟨event, step, -⟩ := moment.reception_step
  refine labelled.step sound.reception step ?_
  rw [List.nodup_iff_count_le_one]
  intro handle
  exact (Nat.le_add_right _ _).trans (single handle)

end Moment

end WlanDatapath
