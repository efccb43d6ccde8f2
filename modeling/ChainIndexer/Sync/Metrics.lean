import ChainIndexer.Chain.Block

/-!
# Counters

What the manager has done so far. Every count is taken modulo `2 ^ 64`.
-/

namespace ChainIndexer

/-- The counters, and the greatest height that was committed. -/
structure Metrics where
  heightsSynced : UInt64 := 0
  eventsHandled : UInt64 := 0
  syncFailures : UInt64 := 0
  txsFetched : UInt64 := 0
  lastSynced : Option Height := none
  deriving DecidableEq, Repr

namespace Metrics

/-- Counts a height that was committed with some events. -/
def countHeight (m : Metrics) (height : Height) (events : Nat) : Metrics :=
  { m with
    heightsSynced := m.heightsSynced + 1
    eventsHandled := m.eventsHandled + UInt64.ofNat events
    lastSynced := some (match m.lastSynced with | some h => max h height | none => height) }

/-- Counts an attempt that failed. -/
def countFailure (m : Metrics) : Metrics := { m with syncFailures := m.syncFailures + 1 }

/-- Counts transactions that were looked up. -/
def countTxs (m : Metrics) (n : Nat) : Metrics :=
  { m with txsFetched := m.txsFetched + UInt64.ofNat n }

/-- The counters as a document. -/
def toValue (m : Metrics) : Json.Value :=
  .ofList [("heights_synced", .ofUInt64 m.heightsSynced),
    ("events_handled", .ofUInt64 m.eventsHandled), ("sync_failures", .ofUInt64 m.syncFailures),
    ("txs_fetched", .ofUInt64 m.txsFetched),
    ("last_synced_height", .ofOption .ofUInt64 m.lastSynced)]

end Metrics

end ChainIndexer
