import ChainIndexer.Json.Lookup
import ChainIndexer.Rpc.Error
import ChainIndexer.Sync.Error

/-!
# Errors in a script

A scripted failure names its cause under `kind` and holds what the cause needs beside it, most often
a `text`.
-/

namespace ChainIndexer.Sim.Document

open Json (Lookup Value)

/-- A failed request. -/
def rpcError (v : Value) : Lookup RpcError := do
  let text ← v.textOr "text" ""
  match ← v.textAt "kind" with
  | "Http" => return .http text
  | "Timeout" => return .timeout (← v.wordAt "ms")
  | "Status" => return .status (← v.natAt "status") text
  | "NotFound" => return .notFound text
  | "Redirect" => return .redirect text
  | "Tls" => return .tls text
  | "UnsupportedScheme" => return .unsupportedScheme text
  | "InvalidUrl" => return .invalidUrl text
  | "Rpc" => return .rpc (← (← v.member "rpc").typed JsonRpcError.codec)
  | "Api" => return .api (← (← v.member "code").typed .int64) text
  | "AccountNotFound" => return .accountNotFound text
  | "AccountNoDelegation" => return .accountNoDelegation text
  | "Deserialization" => return .deserialization text
  | "Decode" => return .decode text
  | other => .fail other

/-- A failed attempt. -/
def syncError (v : Value) : Lookup SyncError := do
  let text ← v.textOr "text" ""
  match ← v.textAt "kind" with
  | "Rpc" => return .rpc text
  | "Fetch" => return .fetch (← v.wordAt "height") text
  | "Parse" => return .parse (← v.wordAt "height") text
  | "Command" =>
    return .command (← v.wordAt "height") (← v.textAt "name") (← (← v.member "version").word32) text
  | "Handler" => return .handler (← v.textAt "handler") text
  | "Storage" => return .storage text
  | "Config" => return .config text
  | "Other" => return .other text
  | other => .fail other

end ChainIndexer.Sim.Document
