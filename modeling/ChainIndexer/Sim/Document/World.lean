import ChainIndexer.Config.Basic
import ChainIndexer.Sim.Document.Error
import ChainIndexer.Sim.Document.Parser
import ChainIndexer.Sim.World

/-!
# Worlds in a script

The chain, the handler and the settings of a simulated run. Later entries for the same thing count
before earlier ones.
-/

namespace ChainIndexer.Sim.Document

open Json (Lookup Value)

/-! ## The chain -/

/-- The latest height: one for all times, or a list of times and heights. -/
def latest (v : Value) : Lookup (List (Nat × Option Height)) := do
  match v with
  | .array entries => entries.mapM fun e => do
    match ← e.items with
    | [since, height] => return (← since.nat, ← height.word?)
    | _ => .fail "latest"
  | height => return [(0, ← height.word?)]

/-- A height that cannot be asked for. -/
def failing (v : Value) : Lookup Failing := do
  let height ← v.wordAt "height"
  let unavailable := .status 503 ("height " ++ SyncError.heightText height ++ " unavailable")
  return { height, error := ← v.memberOr "error" rpcError unavailable
           inResults := v.flagAt "in_results"
           ends := ← (v.present? "until_ms").mapM Value.nat }

def txAnswer (v : Value) : Lookup TxAnswer := do
  let delay ← v.natOr "delay_ms" 0
  match v.present? "tx" with
  | some x =>
    let tx ← x.typed Tx.codec
    return { hash := ← v.textOr "hash" tx.hash, outcome := .ok tx, delay }
  | none =>
    let error ← rpcError (← v.member "error")
    return { hash := ← v.textAt "hash", outcome := .error error, delay }

/-- A block of some transactions, and the height it is given out for. -/
def block (v : Value) : Lookup (Height × Block) := do
  let height ← v.wordAt "height"
  let txs ← (← v.itemsAt "txs").mapM Value.text
  return (← v.wordOr "at" height, Script.plainBlock height (txs.map fun t => ⟨Utf8.encode t⟩))

/-- The results of a block, and the height they are given out for. -/
def results (v : Value) : Lookup (Height × BlockResults) := do
  return (← v.wordAt "at", ← (← v.member "results").typed BlockResults.codec)

/-- A chain, with the transactions beside it. -/
def script (v : Value) : Lookup Script := do
  let chain := (v.present? "chain").getD .null
  return {
    latest := ← match chain.get? "latest" with
      | some l => latest l
      | none => pure [(0, some 0)]
    genesis := ← chain.typedOr "genesis" Genesis.codec Script.emptyGenesis
    blocks := (← (← chain.itemsAt "blocks").mapM block).reverse
    results := (← (← chain.itemsAt "results").mapM results).reverse
    failing := ← (← chain.itemsAt "failing").mapM failing
    txs := (← (← v.itemsAt "txs").mapM txAnswer).reverse }

/-! ## The handler -/

/-- A handler, in memory or in a database, that may have accepted heights before. -/
def store (v : Value) : Lookup Store := do
  let id ← v.textOr "id" "idx"
  let cursor ← v.wordAt? "resume_from"
  if (← v.textOr "kind" "memory") == "memory" then return .memory { id, cursor }
  else
    let db : Database := {}
    return .database id ((cursor.map (db.withCursor id)).getD db)

/-! ## The whole -/

/-- A world, and the settings of the run. -/
def world (v : Value) : Lookup (World × SyncConfig) := do
  let config ← v.typedOr "config" SyncConfig.codec {}
  let handler := (v.present? "handler").getD .null
  let registry ← v.memberOr "registry" registry .standard
  let world : World := {
    script := ← script v
    fetcher := { registry, parser := config.parserConfig }
    permits := config.permits
    interval := config.pollingIntervalMs.toNat
    store := ← store handler
    rejects := ← (← handler.itemsAt "fail_once_at").mapM Value.word }
  return (world, config)

end ChainIndexer.Sim.Document
