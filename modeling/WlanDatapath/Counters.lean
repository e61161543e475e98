/-!
# Event counters

The data path counts what it does, one event at a time except for received
segments, which are counted a buffer at a time.

A count is a natural number here, and so it only grows.  What can be seen of it is a
word of 64 bits, to which every event adds and which wraps around
(`Counters.shown_add`): the count itself as long as it fits (`Counters.shown_of_lt`).
-/

namespace WlanDatapath

/-- How often each event has happened. -/
structure Counters where
  /-- Receive completions filed. -/
  rxCompletions : Nat := 0
  /-- Receive completions filed that did not end well. -/
  rxErrors : Nat := 0
  /-- Receive completions that no slot expected. -/
  rxMismatches : Nat := 0
  rxSegments : Nat := 0
  rxAggregates : Nat := 0
  rxBadLengths : Nat := 0
  rxBadSegments : Nat := 0
  rxOutOfMemory : Nat := 0
  /-- Frames the upper layer accepted. -/
  rxFrames : Nat := 0
  rxRejected : Nat := 0
  rxRepostsFailed : Nat := 0
  txSubmitted : Nat := 0
  /-- Transmit completions accepted. -/
  txCompleted : Nat := 0
  /-- Transmit completions accepted that did not end well. -/
  txErrors : Nat := 0
  /-- Transmit completions that no slot expected. -/
  txMismatches : Nat := 0
  txQueueFull : Nat := 0
  txSubmitsFailed : Nat := 0
  txStops : Nat := 0
  txWakes : Nat := 0
deriving DecidableEq, Repr

namespace Counters

/-- Every counter with its name, in order. -/
def toList (counters : Counters) : List (String × Nat) :=
  [("rx_urbs", counters.rxCompletions),
    ("rx_urb_errors", counters.rxErrors),
    ("rx_urb_mismatch", counters.rxMismatches),
    ("rx_segments", counters.rxSegments),
    ("rx_aggr", counters.rxAggregates),
    ("rx_bad_len", counters.rxBadLengths),
    ("rx_bad_seg", counters.rxBadSegments),
    ("rx_oom", counters.rxOutOfMemory),
    ("rx_frames", counters.rxFrames),
    ("rx_rejected", counters.rxRejected),
    ("rx_repost_failed", counters.rxRepostsFailed),
    ("tx_submitted", counters.txSubmitted),
    ("tx_completed", counters.txCompleted),
    ("tx_urb_errors", counters.txErrors),
    ("tx_urb_mismatch", counters.txMismatches),
    ("tx_queue_full", counters.txQueueFull),
    ("tx_submit_failed", counters.txSubmitsFailed),
    ("tx_stops", counters.txStops),
    ("tx_wakes", counters.txWakes)]

/-- What a word of 64 bits shows of a count. -/
def shown (count : Nat) : Nat :=
  (UInt64.ofNat count).toNat

/-- The counters that show something. -/
def nonzero (counters : Counters) : List (String × Nat) :=
  (counters.toList.map fun entry => (entry.1, shown entry.2)).filter fun entry => entry.2 != 0

/-- A word that shows a count shows the next one when the same is added to it. -/
theorem shown_add (count amount : Nat) :
    shown (count + amount) = (UInt64.ofNat count + UInt64.ofNat amount).toNat := by
  rw [shown, UInt64.ofNat_add]

theorem shown_of_lt {count : Nat} (fits : count < UInt64.size) : shown count = count :=
  UInt64.toNat_ofNat_of_lt' fits

end Counters

end WlanDatapath
