import WlanDatapath.Proofs.Guarding

/-!
# What was left in a receive buffer stays there

Receive buffers are filled, taken out, given back and filled again, and are never
cleared.  `Station.stale_contents_hidden` says that nothing of what was in them before
the device came up is seen, as long as no transfer reports more octets than the device
wrote.

A `Station` is an engine with the buffers that it submitted.  At an `Occurrence` the
device writes to the front of one of these, and the transfer on it ends with what it
contains then; or the engine takes an input of another kind.  So a buffer comes back with
what it contained before, except for its front.

Both runs are compared with a third one, in which nothing was in the buffers.  `Mirrors`
says that a run differs from that one by an overlay only, and `Hides` that the pass does
not read the overlay.  This holds for one of two reasons.  Either no buffer comes back
twice and none is made up (`Conserved`), or the handles are distinct (`Distinguished`).
Without both, a buffer can be put into a slot in the window whose own buffer was posted
after a transfer had been filed there, and the pass reads from it as much as that
transfer reported.
-/

namespace WlanDatapath

/-! ## Engines and what was submitted -/

/-- Something that happens to an engine and to the buffers that it submitted. -/
inductive Occurrence where
  /-- The device has written octets to the front of a buffer that was submitted, and the
  transfer has ended. -/
  | ends (submission : Nat) (written : Octets) (status : Status) (length : Nat)
  /-- The engine takes an input.  A buffer in it is not one of those that were submitted. -/
  | takes (input : Input)

namespace Occurrence

/-- The submission whose transfer ends. -/
def ended? : Occurrence → Option Nat
  | .ends submission _ _ _ => some submission
  | .takes _ => none

/-- A transfer ends whose buffer was not submitted. -/
def isMadeUp : Occurrence → Bool
  | .takes (.completeReceive _) => true
  | _ => false

/-- A transfer that succeeded reports no more octets than were written. -/
def reportsWritten : Occurrence → Bool
  | .ends _ written status length => !status.isOk || decide (length ≤ written.length)
  | .takes _ => true

/-- The transport issues distinct handles. -/
def issuesDistinct : Occurrence → Bool
  | .takes (.startBringUp supply) => decide supply.handles.Nodup
  | _ => true

/-- The transport has no buffers but those that were submitted, and each ends once. -/
def Genuine (occurrences : List Occurrence) : Prop :=
  (∀ occurrence ∈ occurrences, occurrence.isMadeUp = false) ∧
    (occurrences.filterMap ended?).Nodup

end Occurrence

/-- A transfer that has ended after the device wrote to the front of its buffer. -/
def Transfer.ended (written : Octets) (status : Status) (length : Nat)
    (transfer : Transfer Buffer) : Transfer Buffer :=
  (transfer.overlaid written).complete status length

/-- An engine with the receive buffers that it submitted, in order and as they were then. -/
structure Station where
  engine : Engine
  submitted : List (Transfer Buffer) := []

/-- What others see of an occurrence: the acts of the engine and its reply. -/
abbrev Sight := List Effect × Reply

namespace Station

/-- The input that the engine takes, unless nothing was submitted that could have ended. -/
def input? (station : Station) : Occurrence → Option Input
  | .ends submission written status length =>
      station.submitted[submission]?.map fun transfer =>
        .completeReceive (transfer.ended written status length)
  | .takes input => some input

/-- The engine takes an input.  At the beginning of bringing up, its buffers contain what
is given for their slots. -/
def take (contents : Nat → Octets) (station : Station) (input : Input) : Station × Sight :=
  let moment : Moment := ⟨station.engine, input⟩
  ({ engine :=
      if moment.awakens then moment.after.overlaid ⟨contents, [], []⟩ else moment.after
     submitted := station.submitted ++ submissions moment.effects },
    moment.effects, moment.reply)

/-- What happens at an occurrence. -/
def step (contents : Nat → Octets) (station : Station) (occurrence : Occurrence) :
    Station × Sight :=
  match station.input? occurrence with
  | some input => station.take contents input
  | none => (station, [], .inapplicable)

/-- What happens at occurrences one after another. -/
def run (contents : Nat → Octets) (station : Station) :
    List Occurrence → Station × List Sight
  | [] => (station, [])
  | occurrence :: later =>
      let first := station.step contents occurrence
      let rest := first.1.run contents later
      (rest.1, first.2 :: rest.2)

end Station

/-- An act of which only the size of a submitted buffer is seen, and not what is in it. -/
def Effect.veiled : Effect → Effect
  | .submitReceive endpoint transfer =>
      .submitReceive endpoint { transfer with content := .zeroed transfer.content.capacity }
  | effect => effect

/-- What is seen of an occurrence without what is in submitted buffers. -/
def Sight.veiled (sight : Sight) : Sight :=
  (sight.1.map Effect.veiled, sight.2)

@[simp]
theorem Effect.veiled_overlaid (octets : Octets) (effect : Effect) :
    (effect.overlaid octets).veiled = effect.veiled := by
  cases effect <;> simp [overlaid, veiled, Transfer.overlaid]

theorem submissions_overlaid (octets : Octets) (effects : List Effect) :
    submissions (effects.map (Effect.overlaid octets)) =
      (submissions effects).map (Transfer.overlaid octets) := by
  simp only [submissions, List.filterMap_map, List.map_filterMap]
  congr 1
  funext effect
  cases effect <;> rfl

/-! ## Buffers that come back -/

/-- A transfer that ends at a moment, with what was written over its buffer. -/
theorem Moment.ended?_eq_some {moment : Moment} {octets : Octets} {pair : Transfer Buffer × Octets}
    (ended : (moment.ended?.map fun transfer => (transfer, octets)) = some pair) :
    moment.input = .completeReceive pair.1 ∧ octets = pair.2 := by
  obtain ⟨transfer, ends, rfl⟩ := Option.map_eq_some_iff.mp ended
  refine ⟨?_, rfl⟩
  unfold ended? at ends
  split at ends
  next other same => exact same.trans (congrArg Input.completeReceive (Option.some.inj ends))
  next => contradiction

/-- What the device writes over two buffers of one size covers what was there before. -/
theorem Buffer.write_octets_write (buffer : Buffer) (octets written : Octets) :
    (buffer.write written).write ((buffer.write octets).write written).octets =
      (buffer.write octets).write written :=
  write_octets _ (by simp)

theorem Transfer.ended_overlaid (transfer : Transfer Buffer) (octets written : Octets)
    (status : Status) (length : Nat) :
    (transfer.overlaid octets).ended written status length =
      (transfer.ended written status length).overlaid
        ((transfer.content.write octets).write written).octets := by
  have above := transfer.content.write_octets_write octets written
  exact congrArg (fun content => Transfer.mk transfer.handle content status length) above.symm

/-- What happens to an engine, and what was written over the buffer in it. -/
inductive Occurrence.Feeds (pairs : List (Transfer Buffer × Octets)) :
    Occurrence → Input → Octets → Prop where
  | takes (input : Input) : Feeds pairs (.takes input) input []
  | ends {submission written status length transfer octets}
      (found : pairs[submission]? = some (transfer, octets)) :
      Feeds pairs (.ends submission written status length)
        (.completeReceive (transfer.ended written status length))
        ((transfer.content.write octets).write written).octets

namespace Occurrence.Feeds

variable {pairs : List (Transfer Buffer × Octets)} {occurrence : Occurrence} {input : Input}
  {octets : Octets}

/-- Of a buffer that comes back nothing shows but what the device wrote. -/
theorem shielded (feeds : occurrence.Feeds pairs input octets)
    (reports : occurrence.reportsWritten = true) {transfer : Transfer Buffer}
    (ends : input = .completeReceive transfer) (succeeded : transfer.status.isOk = true) :
    (transfer.content.write octets).filled transfer.length =
      transfer.content.filled transfer.length := by
  cases feeds with
  | takes => simp
  | @ends submission written status length own octets =>
      cases ends
      have covered : length ≤ written.length := by
        have succeeded : status.isOk = true := succeeded
        simpa [Occurrence.reportsWritten, succeeded] using reports
      refine (congrArg (fun buffer => buffer.filled length)
        (own.content.write_octets_write octets written)).trans ?_
      exact Buffer.filled_write_congr _ (by simp) covered

/-- A buffer that comes back was submitted, if none is made up. -/
theorem handle_mem (feeds : occurrence.Feeds pairs input octets)
    (genuine : occurrence.isMadeUp = false) {transfer : Transfer Buffer}
    (ends : input = .completeReceive transfer) :
    transfer.handle ∈ pairs.map fun pair => pair.1.handle := by
  cases feeds with
  | takes =>
      rw [ends] at genuine
      cases genuine
  | ends found =>
      cases ends
      exact List.mem_map_of_mem (List.mem_of_getElem? found)

/-- A buffer that comes back absorbs what it absorbed when it was submitted. -/
theorem admits (feeds : occurrence.Feeds pairs input octets)
    (reports : occurrence.reportsWritten = true) {reception : Reception} {overlay : Overlay}
    {transfer : Transfer Buffer} (ends : input = .completeReceive transfer) :
    reception.Admits overlay pairs transfer octets := by
  refine ⟨fun index named away => ?_, feeds.shielded reports ends⟩
  cases feeds with
  | takes => simp [Buffer.Absorbs]
  | @ends submission written status length own octets found =>
      cases ends
      have absorbs : own.content.write octets = own.content :=
        away.submitted _ (List.mem_of_getElem? found) named
      have above := own.content.write_octets_write octets written
      rw [absorbs] at above ⊢
      exact above

end Occurrence.Feeds

/-! ## Where a run leads -/

namespace Station

variable {station plain : Station} {overlay : Overlay} {pairs : List (Transfer Buffer × Octets)}
  {occurrence : Occurrence}

/-- What holds wherever a run leads. -/
structure Orderly (station : Station) : Prop where
  sound : station.engine.Sound
  unsubmitted : station.engine.device.stage = .created → station.submitted = []

theorem orderly_fresh (config : Config) : Orderly { engine := .fresh config } where
  sound := Engine.sound_fresh config
  unsubmitted _ := rfl

/-- Nothing is written over the buffers when they are acquired. -/
theorem engine_take_blank (station : Station) (input : Input) :
    (station.take (fun _ => []) input).1.engine = (Moment.mk station.engine input).after := by
  unfold take
  simp only [Engine.overlaid_blank, ite_self]

theorem Orderly.take (orderly : station.Orderly) (input : Input) :
    (station.take (fun _ => []) input).1.Orderly := by
  have after := station.engine_take_blank input
  refine ⟨after ▸ @Engine.Sound.after ⟨station.engine, input⟩ orderly.sound, ?_⟩
  show (station.take _ input).1.engine.device.stage = _ → station.submitted ++ _ = []
  rw [after]
  intro again
  obtain ⟨event, step, -⟩ := (Moment.mk station.engine input).reception_step
  have created : station.engine.device.stage = .created := by
    by_contra begun
    exact step.begun begun again
  rw [orderly.unsubmitted created]
  exact Moment.submissions_of_created orderly.sound created

theorem Orderly.step (orderly : station.Orderly) (occurrence : Occurrence) :
    (station.step (fun _ => []) occurrence).1.Orderly := by
  unfold Station.step
  cases station.input? occurrence with
  | none => exact orderly
  | some input => exact orderly.take input

/-- The handles are distinct, and what lies over the buffers is screened by them. -/
structure Distinguished (plain : Station) (overlay : Overlay)
    (pairs : List (Transfer Buffer × Octets)) (later : List Occurrence) : Prop where
  distinct : ∀ occurrence ∈ later, occurrence.issuesDistinct = true
  single : ∀ handle, plain.engine.custody.count handle ≤ 1
  labelled : plain.engine.reception.Labelled
  screened : plain.engine.reception.Screened overlay pairs

/-- The buffers come back once, and what lies over them is guarded by that. -/
structure Conserved (plain : Station) (overlay : Overlay)
    (pairs : List (Transfer Buffer × Octets)) (past : List Nat) (later : List Occurrence) :
    Prop where
  genuine : ∀ occurrence ∈ later, occurrence.isMadeUp = false
  once : (past ++ later.filterMap Occurrence.ended?).Nodup
  submitted : ∀ submission ∈ past, submission < pairs.length
  trails : plain.engine.reception.Trails
  load : plain.engine.reception.load + pairs.length ≤ receiveSlots + past.length
  guarded : plain.engine.device.accepts = true →
    plain.engine.reception.Guarded overlay (pairs.map fun pair => pair.1.handle)

/-- What lies over the buffers is not seen. -/
def Hides (plain : Station) (overlay : Overlay) (pairs : List (Transfer Buffer × Octets))
    (later : List Occurrence) : Prop :=
  plain.Distinguished overlay pairs later ∨ ∃ past, plain.Conserved overlay pairs past later

variable {later : List Occurrence}

theorem Hides.readsThrough (hides : plain.Hides overlay pairs later) (orderly : plain.Orderly) :
    plain.engine.ReadsThrough overlay.slots := by
  rcases hides with distinguished | ⟨past, conserved⟩
  · exact distinguished.screened.readsThrough orderly.sound.reception
  · exact Reception.Guarded.readsThrough orderly.sound.reception conserved.guarded

/-- Nothing happens to the engine. -/
theorem Hides.skip (hides : plain.Hides overlay pairs (occurrence :: later)) :
    plain.Hides overlay pairs later := by
  rcases hides with distinguished | ⟨past, conserved⟩
  · obtain ⟨distinct, single, labelled, screened⟩ := distinguished
    exact Or.inl ⟨(List.forall_mem_cons.mp distinct).2, single, labelled, screened⟩
  · obtain ⟨genuine, once, submitted, trails, load, guarded⟩ := conserved
    refine Or.inr ⟨past, (List.forall_mem_cons.mp genuine).2, once.sublist ?_, submitted, trails,
      load, guarded⟩
    exact (List.sublist_cons_self _ _).filterMap _ |>.append_left past

/-- The pass never has a buffer of a slot that is to be posted and in the window. -/
theorem Conserved.apart {past : List Nat} (conserved : plain.Conserved overlay pairs past later)
    (orderly : plain.Orderly) :
    ∀ index ∈ plain.engine.reception.bringUp.unposted, ∀ work,
      plain.engine.reception.pass.carried? = some work → work.index = index →
        index ∉ plain.engine.reception.ring.window := by
  rintro index waits work has rfl
  have fewer : past.length ≤ pairs.length := by
    have single : past.Nodup := (List.nodup_append.mp conserved.once).1
    have within : past ⊆ List.range pairs.length := fun submission member =>
      List.mem_range.mpr (conserved.submitted submission member)
    simpa using (single.subperm within).length_le
  have waiting := List.length_pos_of_mem waits
  have load := conserved.load
  rw [Reception.load] at load
  exact conserved.trails.notMem_window orderly.sound.reception has (by omega)

/-- The handles stay distinct. -/
theorem Distinguished.take (distinguished : plain.Distinguished overlay pairs (occurrence :: later))
    (orderly : plain.Orderly) {input : Input} {octets : Octets}
    (feeds : occurrence.Feeds pairs input octets) {further : Overlay}
    {next : List (Transfer Buffer × Octets)}
    (screened : (plain.take (fun _ => []) input).1.engine.reception.Screened further next) :
    (plain.take (fun _ => []) input).1.Distinguished further next later := by
  obtain ⟨distinct, single, labelled, -⟩ := distinguished
  rw [List.forall_mem_cons] at distinct
  have issues : (Moment.mk plain.engine input).issuesDistinct = true := by
    cases feeds with
    | ends => rfl
    | takes => cases input <;> first | rfl | exact distinct.1
  have after : ∀ handle, (Moment.mk plain.engine input).after.custody.count handle ≤ 1 :=
    Moment.count_le_one orderly.sound issues single
  refine ⟨distinct.2, ?_, ?_, screened⟩
  · rw [engine_take_blank]
    exact after
  · rw [engine_take_blank]
    exact Moment.labelled orderly.sound labelled after

/-- Of the load and the buffers that were submitted only what ends is taken away. -/
theorem load_take_le (orderly : plain.Orderly) {past : List Nat}
    (load : plain.engine.reception.load + pairs.length ≤ receiveSlots + past.length)
    (original : plain.submitted = pairs.map Prod.fst) {input : Input} {octets : Octets}
    (feeds : occurrence.Feeds pairs input octets) (genuine : occurrence.isMadeUp = false) :
    (plain.take (fun _ => []) input).1.engine.reception.load +
        (plain.take (fun _ => []) input).1.submitted.length ≤
      receiveSlots + (past ++ occurrence.ended?.toList).length := by
  obtain ⟨event, step, tells⟩ := (Moment.mk plain.engine input).reception_step
  have count : plain.submitted.length = pairs.length := by
    rw [original, List.length_map]
  have ended : event.ended?.toList.length = occurrence.ended?.toList.length := by
    rw [← tells.ended]
    cases feeds with
    | ends => rfl
    | takes => cases input <;> first | rfl | cases genuine
  have sent : (submissions (Moment.mk plain.engine input).effects).length =
      event.submitted?.toList.length := by
    rw [← tells.reposted, Moment.reposted_eq_map, List.length_map]
  rw [engine_take_blank, take, List.length_append, List.length_append, ← ended]
  by_cases created : plain.engine.device.stage = .created
  · rw [orderly.unsubmitted created, Moment.submissions_of_created orderly.sound created]
    rw [orderly.sound.reception.untouched created] at step
    have bound := step.vacant_of_untouched.load_le
    simp only [List.length_nil]
    omega
  · have less := step.load_le created
    rw [count, sent]
    dsimp only at less ⊢
    omega

/-- The buffers still come back once. -/
theorem Conserved.take {past : List Nat}
    (conserved : plain.Conserved overlay pairs past (occurrence :: later))
    (orderly : plain.Orderly) (original : plain.submitted = pairs.map Prod.fst)
    {input : Input} {octets : Octets} (feeds : occurrence.Feeds pairs input octets)
    {further : Overlay} {next : List (Transfer Buffer × Octets)}
    (resubmitted : (plain.take (fun _ => []) input).1.submitted = next.map Prod.fst)
    (guarded : (plain.take (fun _ => []) input).1.engine.device.accepts = true →
      (plain.take (fun _ => []) input).1.engine.reception.Guarded further
        (next.map fun pair => pair.1.handle)) :
    (plain.take (fun _ => []) input).1.Conserved further next
      (past ++ occurrence.ended?.toList) later := by
  obtain ⟨genuine, once, submitted, trails, load, -⟩ := conserved
  rw [List.forall_mem_cons] at genuine
  have count : (plain.take (fun _ => []) input).1.submitted.length = next.length := by
    rw [resubmitted, List.length_map]
  have grown : pairs.length ≤ next.length := by
    rw [← count, Station.take, List.length_append, original, List.length_map]
    exact Nat.le_add_right _ _
  refine ⟨genuine.2, ?_, ?_, ?_, ?_, guarded⟩
  · rw [List.append_assoc]
    cases ended : occurrence.ended? <;> simpa [ended] using once
  · rw [List.forall_mem_append]
    refine ⟨fun submission member => (submitted submission member).trans_le grown, ?_⟩
    cases feeds with
    | takes => simp [Occurrence.ended?]
    | ends found =>
        have below := (List.getElem?_eq_some_iff.mp found).1
        simpa [Occurrence.ended?] using below.trans_le grown
  · obtain ⟨event, step, -⟩ := (Moment.mk plain.engine input).reception_step
    rw [engine_take_blank]
    exact trails.step orderly.sound.reception step
  · have sum := load_take_le orderly load original feeds genuine.1
    rwa [count] at sum

/-- What is not seen is not seen later. -/
theorem Hides.take (hides : plain.Hides overlay pairs (occurrence :: later))
    (orderly : plain.Orderly) (original : plain.submitted = pairs.map Prod.fst)
    (reports : occurrence.reportsWritten = true) {input : Input} {octets : Octets}
    (feeds : occurrence.Feeds pairs input octets)
    (asleep : (Moment.mk plain.engine input).awakens = false) {further : Overlay}
    {more : List (Transfer Buffer × Octets)}
    (resubmitted : (plain.take (fun _ => []) input).1.submitted = (pairs ++ more).map Prod.fst)
    (moves : plain.engine.reception.Moves overlay
      ((Moment.mk plain.engine input).ended?.map fun transfer => (transfer, octets))
      (Moment.mk plain.engine input).after.reception further more) :
    (plain.take (fun _ => []) input).1.Hides further (pairs ++ more) later := by
  rcases hides with distinguished | ⟨past, conserved⟩
  · refine Or.inl (distinguished.take orderly feeds ?_)
    rw [engine_take_blank]
    refine distinguished.screened.moves orderly.sound.reception distinguished.labelled ?_ moves
    intro pair member
    obtain ⟨ends, rfl⟩ := Moment.ended?_eq_some member
    exact feeds.admits reports ends
  · refine Or.inr ⟨_, conserved.take orderly original feeds resubmitted fun accepts => ?_⟩
    rw [engine_take_blank] at accepts ⊢
    rw [List.map_append]
    have before := Moment.accepts_of_asleep orderly.sound asleep accepts
    refine (conserved.guarded before).moves orderly.sound.reception
      (orderly.sound.reception.populated before) ?_ (conserved.apart orderly) ?_ moves
    · exact accepts
    · intro pair member
      obtain ⟨ends, rfl⟩ := Moment.ended?_eq_some member
      have genuine := (List.forall_mem_cons.mp conserved.genuine).1
      exact ⟨feeds.handle_mem genuine ends, feeds.shielded reports ends⟩

/-- Nothing is seen of what is in the buffers when bringing up begins. -/
theorem Hides.awaken (hides : plain.Hides overlay pairs (occurrence :: later))
    (orderly : plain.Orderly) (none : pairs = []) {input : Input} {octets : Octets}
    (feeds : occurrence.Feeds pairs input octets)
    (created : plain.engine.device.stage = .created) (contents : Nat → Octets) :
    (plain.take (fun _ => []) input).1.Hides ⟨contents, [], []⟩ [] later := by
  subst none
  have vacant : (Moment.mk plain.engine input).after.reception.Vacant := by
    obtain ⟨event, step, -⟩ := (Moment.mk plain.engine input).reception_step
    rw [orderly.sound.reception.untouched created] at step
    exact step.vacant_of_untouched
  have unsubmitted := orderly.unsubmitted created
  rcases hides with distinguished | ⟨past, conserved⟩
  · refine Or.inl (distinguished.take orderly feeds ?_)
    rw [engine_take_blank]
    exact .of_vacant vacant _
  · refine Or.inr ⟨_, conserved.take orderly unsubmitted feeds ?_ fun _ => ?_⟩
    · rw [Station.take, unsubmitted, Moment.submissions_of_created orderly.sound created]
      rfl
    · rw [engine_take_blank]
      exact .of_vacant vacant _

/-! ## Two runs -/

/-- A station is another one whose buffers were written over. -/
structure Mirrors (station plain : Station) (overlay : Overlay)
    (pairs : List (Transfer Buffer × Octets)) : Prop where
  engine : station.engine = plain.engine.overlaid overlay
  submitted : station.submitted = pairs.map fun pair => pair.1.overlaid pair.2
  original : plain.submitted = pairs.map Prod.fst

/-- The same happens to both engines but for what is written over a buffer. -/
theorem Mirrors.input? (mirrors : station.Mirrors plain overlay pairs) (occurrence : Occurrence) :
    plain.input? occurrence = none ∧ station.input? occurrence = none ∨
      ∃ input octets, plain.input? occurrence = some input ∧
        station.input? occurrence = some (input.overlaid octets) ∧
        occurrence.Feeds pairs input octets := by
  cases occurrence with
  | takes input =>
      refine Or.inr ⟨input, [], rfl, ?_, .takes input⟩
      rw [Input.overlaid_nil]
      rfl
  | ends submission written status length =>
      simp only [Station.input?, mirrors.submitted, mirrors.original, List.getElem?_map]
      cases found : pairs[submission]? with
      | none => exact Or.inl ⟨rfl, rfl⟩
      | some pair =>
          refine Or.inr ⟨_, _, rfl, congrArg (some <| Input.completeReceive ·) ?_, .ends found⟩
          exact pair.1.ended_overlaid pair.2 written status length

/-- Nothing was submitted by an engine that was only created. -/
theorem Mirrors.pairs_eq_nil (mirrors : station.Mirrors plain overlay pairs)
    (orderly : plain.Orderly) (created : plain.engine.device.stage = .created) : pairs = [] := by
  rw [← List.map_eq_nil_iff, ← mirrors.original, orderly.unsubmitted created]

/-- When bringing up begins, the buffers contain what is given for their slots. -/
theorem Mirrors.awaken (mirrors : station.Mirrors plain overlay pairs) (orderly : plain.Orderly)
    {input : Input} (awake : (Moment.mk plain.engine input).awakens = true)
    (created : plain.engine.device.stage = .created) (contents : Nat → Octets) :
    (station.take contents input).1.Mirrors (plain.take (fun _ => []) input).1
        ⟨contents, [], []⟩ [] ∧
      (station.take contents input).2 = (plain.take (fun _ => []) input).2 := by
  have untouched := orderly.sound.reception.untouched created
  have same : station.engine = plain.engine := by
    rw [mirrors.engine, Engine.overlaid_of_untouched overlay untouched]
  have none := mirrors.pairs_eq_nil orderly created
  have silent : submissions (Moment.mk plain.engine input).effects = [] :=
    Moment.submissions_of_created orderly.sound created
  refine ⟨⟨?_, ?_, ?_⟩, ?_⟩
  · rw [engine_take_blank, take, same]
    exact if_pos awake
  · simp only [take, mirrors.submitted, none, same, silent]
    rfl
  · simp only [take, mirrors.original, none, silent]
    rfl
  · rw [take, take, same]

/-- Another input is taken alike, and what was written over the buffers moves with them. -/
theorem Mirrors.follow (mirrors : station.Mirrors plain overlay pairs) {input : Input}
    {octets : Octets} (asleep : (Moment.mk plain.engine input).awakens = false)
    {ended : Option (Transfer Buffer × Octets)}
    (shadowed : (Moment.mk plain.engine input).Shadowed overlay ended (input.overlaid octets))
    (contents : Nat → Octets) :
    ∃ further more,
      (station.take contents (input.overlaid octets)).1.Mirrors
          (plain.take (fun _ => []) input).1 further (pairs ++ more) ∧
        (station.take contents (input.overlaid octets)).2.veiled =
          (plain.take (fun _ => []) input).2.veiled ∧
        plain.engine.reception.Moves overlay ended
          (Moment.mk plain.engine input).after.reception further more := by
  have sleeps : (Moment.mk station.engine (input.overlaid octets)).awakens = false := by
    rw [mirrors.engine]
    cases input <;> first | rfl | exact asleep
  obtain ⟨further, above, same, moves⟩ := shadowed
  rw [← mirrors.engine] at same
  have effects : (Moment.mk station.engine (input.overlaid octets)).effects =
      (Moment.mk plain.engine input).effects.map (Effect.overlaid above) :=
    congrArg (fun step => step.2.1) same
  have reply : (Moment.mk station.engine (input.overlaid octets)).reply =
      (Moment.mk plain.engine input).reply :=
    congrArg (fun step => step.2.2) same
  let fresh := submissions (Moment.mk plain.engine input).effects
  refine ⟨further, fresh.map fun transfer => (transfer, above), ⟨?_, ?_, ?_⟩, ?_, moves⟩
  · rw [engine_take_blank, take]
    simp only [sleeps, Bool.false_eq_true, if_false]
    exact congrArg Prod.fst same
  · simp only [take, mirrors.submitted, effects, submissions_overlaid, List.map_append,
      List.map_map]
    rfl
  · simp only [take, mirrors.original, List.map_append, List.map_map]
    exact congrArg _ (List.map_id fresh).symm
  · simp only [take, Sight.veiled, effects, reply, List.map_map, Function.comp_def,
      Effect.veiled_overlaid]

/-- **Every occurrence keeps the mirror**, and what is seen of it is the same. -/
theorem Mirrors.step (mirrors : station.Mirrors plain overlay pairs) (orderly : plain.Orderly)
    (hides : plain.Hides overlay pairs (occurrence :: later))
    (reports : occurrence.reportsWritten = true) (contents : Nat → Octets) :
    ∃ further more,
      (station.step contents occurrence).1.Mirrors (plain.step (fun _ => []) occurrence).1
          further more ∧
        (station.step contents occurrence).2.veiled =
          (plain.step (fun _ => []) occurrence).2.veiled ∧
        (plain.step (fun _ => []) occurrence).1.Hides further more later := by
  rcases mirrors.input? occurrence with
    ⟨original, mirrored⟩ | ⟨input, octets, original, mirrored, feeds⟩
  · refine ⟨overlay, pairs, ?_⟩
    simp only [Station.step, original, mirrored]
    exact ⟨mirrors, trivial, hides.skip⟩
  · simp only [Station.step, original, mirrored]
    cases awake : (Moment.mk plain.engine input).awakens with
    | true =>
        cases input with
        | startBringUp supply =>
            have created : plain.engine.device.stage = .created :=
              Moment.created_of_awakens awake
            have none := mirrors.pairs_eq_nil orderly created
            obtain ⟨next, same⟩ := mirrors.awaken orderly awake created contents
            refine ⟨_, _, next, congrArg Sight.veiled same, ?_⟩
            exact hides.awaken orderly none feeds created contents
        | _ => cases awake
    | false =>
        have shadowed := @Moment.shadowed ⟨plain.engine, input⟩ overlay orderly.sound awake
          (hides.readsThrough orderly) octets
        obtain ⟨further, more, next, same, moves⟩ := mirrors.follow awake shadowed contents
        refine ⟨further, _, next, same, ?_⟩
        exact hides.take orderly mirrors.original reports feeds awake next.original moves

/-- Every run keeps the mirror, and what is seen of it is the same. -/
theorem Mirrors.run {occurrences : List Occurrence} (mirrors : station.Mirrors plain overlay pairs)
    (orderly : plain.Orderly) (hides : plain.Hides overlay pairs occurrences)
    (reported : ∀ occurrence ∈ occurrences, occurrence.reportsWritten = true)
    (contents : Nat → Octets) :
    ∃ further more,
      (station.run contents occurrences).1.Mirrors (plain.run (fun _ => []) occurrences).1
          further more ∧
        (station.run contents occurrences).2.map Sight.veiled =
          (plain.run (fun _ => []) occurrences).2.map Sight.veiled := by
  induction occurrences generalizing station plain overlay pairs with
  | nil => exact ⟨overlay, pairs, mirrors, rfl⟩
  | cons occurrence later hypothesis =>
      rw [List.forall_mem_cons] at reported
      obtain ⟨further, more, next, first, still⟩ := mirrors.step orderly hides reported.1 contents
      obtain ⟨last, most, behind, rest⟩ :=
        hypothesis next (orderly.step occurrence) still reported.2
      refine ⟨last, most, behind, ?_⟩
      simp only [Station.run, List.map_cons, first, rest]

/-- Nothing is seen of the buffers of a fresh engine. -/
theorem hides_fresh (config : Config) {occurrences : List Occurrence}
    (trusted : Occurrence.Genuine occurrences ∨
      ∀ occurrence ∈ occurrences, occurrence.issuesDistinct = true) (overlay : Overlay) :
    Hides { engine := .fresh config } overlay [] occurrences := by
  have vacant : (Engine.fresh config).reception.Vacant := Reception.vacant_untouched
  rcases trusted with ⟨genuine, once⟩ | distinct
  · refine Or.inr ⟨[], genuine, once, by simp, ?_, ?_, fun _ => .of_vacant vacant overlay⟩
    · rintro work ⟨⟩
    · exact vacant.load_le
  · refine Or.inl ⟨distinct, fun handle => ?_, ⟨List.nodup_nil, ?_⟩, .of_vacant vacant overlay⟩
    · rw [Engine.count_of_created (Engine.sound_fresh config) rfl]
      exact Nat.zero_le 1
    · rintro work ⟨⟩

/-- **What was in the receive buffers before is not seen.**

Two runs are given the same occurrences, and differ in what the receive buffers contain
when they are acquired.  Every transfer that succeeds reports no more octets than the
device wrote to the front of the buffer in it.  The transport has no receive buffers but
those that were submitted, and gives each of them back at most once; if it makes buffers
up, the handles that it issued are distinct.

Then both runs show the same acts, but for what is in the buffers that are submitted, and
give the same replies, one after another.  The same is counted, and the engines differ in
nothing but what their buffers contain. -/
theorem stale_contents_hidden (config : Config) (occurrences : List Occurrence)
    (reported : ∀ occurrence ∈ occurrences, occurrence.reportsWritten = true)
    (trusted : Occurrence.Genuine occurrences ∨
      ∀ occurrence ∈ occurrences, occurrence.issuesDistinct = true)
    (contents other : Nat → Octets) :
    let first := run contents { engine := .fresh config } occurrences
    let second := run other { engine := .fresh config } occurrences
    first.2.map Sight.veiled = second.2.map Sight.veiled ∧
      first.1.engine.counters = second.1.engine.counters ∧
      ∃ engine overlay another, first.1.engine = Engine.overlaid overlay engine ∧
        second.1.engine = Engine.overlaid another engine := by
  have mirrors : Mirrors { engine := .fresh config } { engine := .fresh config } _ [] :=
    ⟨(Engine.overlaid_blank _).symm, rfl, rfl⟩
  have orderly := orderly_fresh config
  have hides := hides_fresh config trusted ⟨fun _ => [], [], []⟩
  obtain ⟨overlay, _, there, seen⟩ := mirrors.run orderly hides reported contents
  obtain ⟨another, _, here, same⟩ := mirrors.run orderly hides reported other
  refine ⟨seen.trans same.symm, ?_, _, overlay, another, there.engine, here.engine⟩
  rw [there.engine, here.engine]
  rfl

/-- The occurrences of a run in which a transfer brings a segment, and another one of given
length the front of a segment. -/
def truncatedOccurrences (length : Nat) : List Occurrence :=
  let segment : Segment := ⟨(0, 0), .blank, [8, 0, 0, 0], ⟨0⟩⟩
  let next : Occurrence := .takes (.proceedPass fun _ => true)
  let given : Occurrence := .takes (.answerRepost none)
  bringUpInputs.map .takes ++
    [.ends 0 segment.encode .ok 36, .ends 1 (segment.encode.take 30) .ok length,
      .takes .startPass, next, next, .takes (.answerDelivery true), next, next, given,
      next, next, next, given, next]

/-- What is behind that front is not seen, and still there when the buffer is submitted
again. -/
theorem stale_contents_hidden_truncated :
    let first := run (fun _ => []) { engine := .fresh .small } (truncatedOccurrences 30)
    let second := run (fun _ => List.replicate 36 0xff) { engine := .fresh .small }
      (truncatedOccurrences 30)
    first.1.submitted.length = 18 ∧ first.1.submitted[17]? ≠ second.1.submitted[17]? ∧
      (first.2.flatMap fun sight => sight.1.filterMap Effect.delivered?).length = 1 ∧
      first.2.map Sight.veiled = second.2.map Sight.veiled := by
  intro first second
  have facts : first.1.submitted.length = 18 ∧
      first.1.submitted[17]? ≠ second.1.submitted[17]? ∧
      (first.2.flatMap fun sight => sight.1.filterMap Effect.delivered?).length = 1 ∧
      (∀ occurrence ∈ truncatedOccurrences 30, occurrence.reportsWritten = true) ∧
      (∀ occurrence ∈ truncatedOccurrences 30, occurrence.isMadeUp = false) ∧
      ((truncatedOccurrences 30).filterMap Occurrence.ended?).Nodup := by
    decide +kernel
  obtain ⟨submitted, apart, delivered, reported, genuine⟩ := facts
  obtain ⟨same, -⟩ := stale_contents_hidden .small (truncatedOccurrences 30) reported
    (Or.inl genuine) (fun _ => []) fun _ => List.replicate 36 0xff
  exact ⟨submitted, apart, delivered, same⟩

-- a transfer that reports more than was written shows what was there before
example :
    let shown := fun contents : Nat → Octets =>
      (run contents { engine := .fresh .small } (truncatedOccurrences 36)).2.flatMap
        fun sight => sight.1.filterMap Effect.delivered?
    shown (fun _ => []) ≠ shown fun _ => List.replicate 36 0xff := by
  decide +kernel

-- and so does a buffer that is made up on a handle that was issued for two slots
example :
    let segment : Segment := ⟨(0, 0), .blank, [8, 0, 0, 0], ⟨0⟩⟩
    let twice : Supply :=
      { Supply.ample with
        handles := Supply.ample.handles.map fun handle => if handle = 385 then 384 else handle }
    let next : Occurrence := .takes (.proceedPass fun _ => true)
    let occurrences : List Occurrence :=
      [.takes (.startBringUp twice), .takes (.completeReceive ⟨384, .zeroed 36, .ok, 36⟩),
        .takes .proceedBringUp, .takes (.answerPost none), .takes .proceedBringUp,
        .takes (.answerPost none), .ends 0 [] .ok 0, .ends 1 [] .ok 0, .takes .startPass, next,
        next]
    let shown := fun contents : Nat → Octets =>
      (run contents { engine := .fresh .small } occurrences).2.flatMap
        fun sight => sight.1.filterMap Effect.delivered?
    shown (fun _ => []) ≠ shown fun _ => segment.encode := by
  decide +kernel

end Station

end WlanDatapath
