import ChainIndexer.Config.Basic
import ChainIndexer.Json.Lookup

/-!
# Changing settings by name

Settings can be changed one after the other, each by its name and new value. The two bounds of the
pauses after failed attempts are set together, and the prefix for accounts resets the other two.
-/

namespace ChainIndexer.SyncConfig

open Json (Lookup Value)

def set (c : SyncConfig) (name : String) (v : Value) : Lookup SyncConfig := do
  let flag : Lookup Bool := .ofOption "boolean" v.bool?
  match name with
  | "handler_id" => return { c with handlerId := ← v.text }
  | "chain_rpc_url" => return { c with chainRpcUrl := ← v.text }
  | "app_rpc_url" => return { c with appRpcUrl := ← v.text }
  | "window_size" => return { c with windowSize := ← v.word }
  | "polling_interval_ms" => return { c with pollingIntervalMs := ← v.word }
  | "starting_height" => return { c with startingBlockHeight := ← v.word }
  | "tx_concurrency" => return { c with txConcurrency := ← v.word }
  | "address_prefix" => return c.withAccount (← v.text)
  | "staking_denom" => return { c with stakingDenom := ← v.text }
  | "strict_genesis_parsing" => return { c with strictGenesisParsing := ← flag }
  | "strict_messages" => return { c with strictMessages := ← flag }
  | "base64_encoded_event_attributes" => return { c with base64Attributes := ← flag }
  | "storage" => return { c with storage := ← v.text }
  | other => .fail other

/-- Makes one change: a name with its values. -/
def change (c : SyncConfig) (v : Value) : Lookup SyncConfig := do
  match ← v.items with
  | [.string "retry_interval_ms", initial, max] =>
    return c.withRetryInterval (← initial.word) (← max.word)
  | [name, v] => c.set (← name.text) v
  | _ => .fail "setting"

end ChainIndexer.SyncConfig
