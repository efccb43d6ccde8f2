import ChainIndexer.Json.Codec

/-!
# What the manager is doing
-/

namespace ChainIndexer

open Json (Codec)

/-- What the manager is doing. -/
inductive SyncState
  | idle
  | syncing
  | backoff
  | stopped
  deriving DecidableEq, Repr

namespace SyncState

/-- The state in a log line. -/
def shown : SyncState → String
  | idle => "idle"
  | syncing => "syncing"
  | backoff => "backoff"
  | stopped => "stopped"

def name : SyncState → String
  | idle => "Idle"
  | syncing => "Syncing"
  | backoff => "Backoff"
  | stopped => "Stopped"

/-- The JSON form of a state. -/
def codec : Codec SyncState :=
  .enumeration [("Idle", idle), ("Syncing", syncing), ("Backoff", backoff), ("Stopped", stopped)]
    name

end SyncState

end ChainIndexer
