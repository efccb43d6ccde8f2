import ChainIndexer.Chain.Block

/-!
# Genesis and status

The document a chain starts from, and what a node says about itself.
-/

namespace ChainIndexer

open Json (Codec Field Fields record Value)

/-- The document a chain starts from; the state of its modules is kept as it is. -/
structure Genesis where
  genesisTime : Time
  chainId : String
  initialHeight : Height
  appState : Value

/-- The JSON form of a genesis document. -/
def Genesis.codec : Codec Genesis :=
  record "Genesis"
    (.cons (.required "genesis_time" genesisTime .time) <|
     .cons (.required "chain_id" chainId .string) <|
     .cons (.required "initial_height" initialHeight .uint64) <|
     .cons (.required "app_state" appState .value) .nil)
    fun (genesisTime, chainId, initialHeight, appState, _) =>
      { genesisTime, chainId, initialHeight, appState }

/-- What a node says about itself. -/
structure ChainStatus where
  network : String
  latestBlockHeight : Height
  latestBlockTime : Time
  catchingUp : Bool
  deriving DecidableEq, Repr

/-- The JSON form of a status. -/
def ChainStatus.codec : Codec ChainStatus :=
  record "ChainStatus"
    (.cons (.required "network" network .string) <|
     .cons (.required "latest_block_height" latestBlockHeight .uint64) <|
     .cons (.required "latest_block_time" latestBlockTime .time) <|
     .cons (.required "catching_up" catchingUp .bool) .nil)
    fun (network, latestBlockHeight, latestBlockTime, catchingUp, _) =>
      { network, latestBlockHeight, latestBlockTime, catchingUp }

end ChainIndexer
