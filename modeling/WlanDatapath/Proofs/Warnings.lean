import Mathlib.Data.Nat.Bitwise
import WlanDatapath.Proofs.Anomalies
import WlanDatapath.Proofs.Lifecycle

/-!
# Warnings, counters and the kinds that are remembered

Three things keep track of anomalies: the log, the counters and the word of the kinds
that were reported.  They agree after every run.  The log has one line about each kind
that is remembered and none about any other, and the counter of a family has counted
exactly if a kind of the family is remembered (`warned_exactly_once`).

Kinds are looked up by their names, as whoever reads the word out does; the names that
are read out are those of the kinds that are remembered (`Reported.mem_names_iff`).
-/

namespace WlanDatapath

namespace Anomaly

/-- The name of an anomaly. -/
def name : Anomaly → String
  | .receiveMismatch => "RX_URB_MISMATCH"
  | .transmitMismatch => "TX_URB_MISMATCH"
  | .reservedNotZero => "RXWI_ZERO"
  | .notPacket => "NON_PKT"
  | .zeroLength => "SEG_LEN_ZERO"
  | .misaligned => "SEG_MISALIGNED"
  | .overrun => "SEG_OVERRUN"
  | .tooShort => "SEG_SHORT"
  | .receiveRingFull => "RX_RING_FULL"

/-- The anomalies of a family. -/
def Family.members : Family → List Anomaly
  | .receive => [.receiveMismatch, .receiveRingFull]
  | .transmit => [.transmitMismatch]
  | .segment => [.reservedNotZero, .notPacket]
  | .length => [.zeroLength, .misaligned, .overrun, .tooShort]

theorem mem_members_iff (anomaly : Anomaly) (family : Family) :
    anomaly ∈ family.members ↔ anomaly.family = family := by
  cases anomaly <;> cases family <;> decide

end Anomaly

/-! ## The names that are read out -/

namespace Reported

variable (reported : Reported) (anomaly : Anomaly)

/-- Reporting an anomaly is news if its kind is not remembered. -/
theorem report_fst : (reported.report anomaly.word).1 = !reported.has anomaly := by
  simp [report, has, bne]

/-- The kind of an anomaly is remembered if its bit is set. -/
theorem has_eq_testBit : reported.has anomaly = reported.word.toNat.testBit anomaly.bit := by
  have single : anomaly.word.toNat = 2 ^ anomaly.bit := by cases anomaly <;> rfl
  have masked : (reported.word &&& anomaly.word).toNat =
      (reported.word.toNat.testBit anomaly.bit).toNat * 2 ^ anomaly.bit := by
    rw [UInt32.toNat_and, single, Nat.and_two_pow]
  rw [Bool.eq_iff_iff, has, bne_iff_ne, ne_eq, ← UInt32.toNat_inj, masked, UInt32.toNat_zero]
  cases reported.word.toNat.testBit anomaly.bit <;> simp

/-- The names of the kinds that were reported are those of the kinds remembered. -/
theorem mem_names_iff : anomaly.name ∈ reported.names ↔ reported.has anomaly = true := by
  rw [has_eq_testBit]
  simp only [names, Wire.BitTable.names, List.mem_map, List.mem_filter]
  constructor
  · rintro ⟨entry, ⟨listed, set⟩, same⟩
    -- no two entries of the table share a name
    have paired : entry.1 = anomaly.bit := by
      revert same
      simp only [Anomaly.bits, List.mem_cons, List.not_mem_nil, or_false] at listed
      rcases listed with rfl | rfl | rfl | rfl | rfl | rfl | rfl | rfl | rfl <;>
        cases anomaly <;> decide
    rwa [paired] at set
  · intro set
    have listed : (anomaly.bit, anomaly.name) ∈ Anomaly.bits := by cases anomaly <;> decide
    exact ⟨_, ⟨listed, set⟩, rfl⟩

end Reported

/-! ## Whole runs -/

namespace Engine

variable (config : Config) (inputs : List Input)

/-- A run writes one line about each kind that it remembers, and none about another. -/
theorem count_warned_run (anomaly : Anomaly) :
    (((fresh config).run inputs).2.filterMap Effect.warned?).count anomaly =
      (((fresh config).run inputs).1.reported.has anomaly).toNat := by
  induction inputs using List.reverseRecOn with
  | nil => simp [fresh, Reported.has]
  | append_singleton inputs input hypothesis =>
      let moment := Moment.mk ((fresh config).run inputs).1 input
      have effects : ((fresh config).run (inputs ++ [input])).2 =
          ((fresh config).run inputs).2 ++ moment.effects := by
        simp [run_effects, history_concat, moment]
      rw [effects, run_concat, List.filterMap_append, List.count_append, hypothesis,
        moment.records.warned, moment.records.reported]
      cases moment.anomaly? with
      | none => simp [moment]
      | some met =>
          simp only [Option.filter, Reported.report_fst, Option.elim_some, Reported.has_report]
          show _ + _ = (((fresh config).run inputs).1.reported.has anomaly || met == anomaly).toNat
          by_cases same : met = anomaly
          · subst same
            cases ((fresh config).run inputs).1.reported.has met <;> simp
          · cases ((fresh config).run inputs).1.reported.has met <;>
              simp [same, beq_false_of_ne same]

/-- The counter of a family has counted exactly if one of its kinds is remembered. -/
theorem met_pos_iff (family : Anomaly.Family) :
    0 < ((fresh config).run inputs).1.counters.met family ↔
      ∃ anomaly ∈ family.members,
        anomaly.name ∈ ((fresh config).run inputs).1.reported.names := by
  simp only [met_run, List.countP_pos_iff, decide_eq_true_eq, Option.map_eq_some_iff,
    Reported.mem_names_iff, has_run, Anomaly.mem_members_iff]
  constructor
  · rintro ⟨moment, member, anomaly, met, same⟩
    exact ⟨anomaly, same, moment, member, met⟩
  · rintro ⟨anomaly, same, moment, member, met⟩
    exact ⟨moment, member, anomaly, met, same⟩

/-- **Every kind of anomaly is warned of once, and none goes unnoticed.**

After every run the log has exactly one line about each kind that is among the kinds
reported, and none about any other kind.  A counter of anomalies has counted exactly if
one of its kinds is among them. -/
theorem warned_exactly_once (config : Config) (inputs : List Input) :
    let counters := ((fresh config).run inputs).1.counters
    let names := ((fresh config).run inputs).1.reported.names
    (∀ anomaly : Anomaly, (((fresh config).run inputs).2.filterMap Effect.warned?).count anomaly =
      if anomaly.name ∈ names then 1 else 0) ∧
    (0 < counters.rxMismatches ↔ "RX_URB_MISMATCH" ∈ names ∨ "RX_RING_FULL" ∈ names) ∧
    (0 < counters.txMismatches ↔ "TX_URB_MISMATCH" ∈ names) ∧
    (0 < counters.rxBadSegments ↔ "RXWI_ZERO" ∈ names ∨ "NON_PKT" ∈ names) ∧
    (0 < counters.rxBadLengths ↔ "SEG_LEN_ZERO" ∈ names ∨ "SEG_MISALIGNED" ∈ names ∨
      "SEG_OVERRUN" ∈ names ∨ "SEG_SHORT" ∈ names) := by
  intro counters names
  have counted (family : Anomaly.Family) : 0 < counters.met family ↔
      ∃ anomaly ∈ family.members, anomaly.name ∈ names := met_pos_iff config inputs family
  refine ⟨?_, ?_, ?_, ?_, ?_⟩
  · intro anomaly
    rw [count_warned_run]
    simp only [names, Reported.mem_names_iff]
    cases ((fresh config).run inputs).1.reported.has anomaly <;> rfl
  · simpa [Anomaly.Family.members, Anomaly.name, Counters.met] using counted .receive
  · simpa [Anomaly.Family.members, Anomaly.name, Counters.met] using counted .transmit
  · simpa [Anomaly.Family.members, Anomaly.name, Counters.met] using counted .segment
  · simpa [Anomaly.Family.members, Anomaly.name, Counters.met] using counted .length

/-- Two receive transfers that no slot expects, and a buffer that does not hold a segment. -/
def anomalousInputs : List Input :=
  let next : Input := .proceedPass fun _ => true
  let stray : Input := .completeReceive ⟨390, ⟨[]⟩, .ok, 0⟩
  bringUpInputs ++
    [stray, stray, .completeReceive ⟨384, ⟨List.replicate 36 0⟩, .ok, 36⟩, .startPass, next, next]

/-- Both kinds are warned of once, and nothing else is, although one was met twice. -/
theorem warned_exactly_once_each :
    let run := (fresh .small).run anomalousInputs
    run.1.counters.rxMismatches = 2 ∧
      (run.2.filterMap Effect.warned?).count .receiveMismatch = 1 ∧
      (run.2.filterMap Effect.warned?).count .zeroLength = 1 ∧
      (run.2.filterMap Effect.warned?).count .transmitMismatch = 0 ∧
      0 < run.1.counters.rxBadLengths ∧ ¬ 0 < run.1.counters.rxBadSegments := by
  have facts : ((fresh .small).run anomalousInputs).1.counters.rxMismatches = 2 ∧
      ((fresh .small).run anomalousInputs).1.reported.names =
        ["RX_URB_MISMATCH", "SEG_LEN_ZERO"] := by
    decide +kernel
  obtain ⟨twice, names⟩ := facts
  have warned := warned_exactly_once .small anomalousInputs
  -- the run is not evaluated again: what matters of it is in the two facts
  generalize (fresh .small).run anomalousInputs = run at *
  obtain ⟨once, -, -, segments, lengths⟩ := warned
  rw [names] at once segments lengths
  refine ⟨twice, once _, once _, once _, lengths.mpr (by decide), fun bad => ?_⟩
  exact absurd (segments.mp bad) (by decide)

end Engine

end WlanDatapath
