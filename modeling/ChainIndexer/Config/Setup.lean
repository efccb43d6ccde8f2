import ChainIndexer.App.Client
import ChainIndexer.Config.Basic
import ChainIndexer.Node.Client

/-!
# Setting up a run

From settings to the clients of the two servers and the handler.
-/

namespace ChainIndexer

/-- What a run works with. -/
structure Setup where
  config : SyncConfig
  chain : Node.Client
  app : App.Client
  store : Store

namespace Setup

/-- Refuses the URL of a setting. -/
def badUrl (key : String) (e : RpcError) : SyncError := .config (key ++ ": " ++ e.message)

/-- Sets up a run over the files of a disk. -/
def ofConfig (disk : Store.Disk) (config : SyncConfig) : Except SyncError Setup := do
  config.validate
  let http := config.httpConfig
  let chain ← (Node.Client.create config.chainRpcUrl http).mapError (badUrl "chain_rpc_url")
  let app ← (App.Client.create config.appRpcUrl http).mapError (badUrl "app_rpc_url")
  let store ← Store.openAt disk (← config.target) config.handlerId
  return { config, chain, app, store }

end Setup

end ChainIndexer
