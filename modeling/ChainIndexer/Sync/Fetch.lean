import ChainIndexer.Command.OfBlock
import ChainIndexer.Command.OfGenesis
import ChainIndexer.Rpc.Error

/-!
# Fetching a height

Height 0 is read from the genesis document. Any other height is read from its block, the results of
its execution, and its transactions, which are looked up by their hashes. Each lookup is a task of
its own that knows the place of its hash in the block; the tasks may complete in any order, and each
result goes to the place that its task tells.
-/

namespace ChainIndexer

/-! ## Where heights come from -/

/-- A task that looks up a transaction: the hash for which it asks, and what it makes of the
answer. -/
structure Lookup.Task (α : Type) where
  hash : String
  finish : Except RpcError Tx → α

/-- The answers of the chain. `join` runs lookups at the same time and gives what they made of their
answers, in the order of completion; `found` is told how many transactions a block has once all of
them are there. -/
structure Source (m : Type → Type) where
  genesis : m (Except RpcError Genesis)
  block : Height → m (Except RpcError Block)
  results : Height → m (Except RpcError BlockResults)
  join : {α : Type} → List (Lookup.Task α) → m (List α)
  found : Nat → m Unit

/-- How what comes from the chain is turned into commands. -/
structure Fetcher where
  registry : Registry := .standard
  parser : ParserConfig := {}

/-! ## Transactions -/

namespace Lookup

/-- A lookup for each hash of a block, which tells the place of the hash with the answer. -/
def spawn (hashes : List String) : List (Task (Nat × Except RpcError Tx)) :=
  hashes.mapIdx fun place hash => ⟨hash, fun answer => (place, answer)⟩

/-- The failure at a height in asking for something. -/
def failed (height : Height) (what : String) (e : RpcError) : SyncError :=
  .fetch height (what ++ ": " ++ e.message)

/-- Why the answer for a place fails the height. -/
def fault? (height : Height) (hashes : List String) :
    Nat × Except RpcError Tx → Option SyncError
  | (place, .error e) => some (failed height ("tx " ++ hashes.getD place "") e)
  | (_, .ok tx) =>
    if tx.height = height then none
    else some (.fetch height ("tx " ++ tx.hash ++ " reported at height "
      ++ SyncError.heightText tx.height))

def slot? (finished : List (Nat × Except RpcError Tx)) (place : Nat) : Option Tx :=
  match finished.lookup place with
  | some (.ok tx) => some { tx with index := UInt64.ofNat place }
  | _ => none

/-- The transactions of a block in block order; of several failures, that which completed first is
reported. -/
def settle (height : Height) (hashes : List String)
    (finished : List (Nat × Except RpcError Tx)) : Except SyncError (List Tx) :=
  match finished.findSome? (fault? height hashes) with
  | some e => .error e
  | none =>
    let txs := (List.range hashes.length).filterMap (slot? finished)
    if txs.length = hashes.length then .ok txs
    else .error (.fetch height (Numeral.natural txs.length ++ " of "
      ++ Numeral.natural hashes.length ++ " transactions resolved"))

end Lookup

/-- Looks up the hashes of a block: the answer for each place, in the order of completion. -/
def Source.txs {m : Type → Type} (source : Source m) (hashes : List String) :
    m (List (Nat × Except RpcError Tx)) :=
  source.join (Lookup.spawn hashes)

/-! ## Heights -/

namespace Fetcher

variable {m : Type → Type} [Monad m]

def fetchGenesis (f : Fetcher) (source : Source m) : m (Except SyncError (List Command)) := do
  match ← source.genesis with
  | .error e => return .error (Lookup.failed 0 "genesis" e)
  | .ok genesis => return (genesis.commands f.parser).mapError fun e => e.toSync 0

def fetchTxs (source : Source m) (block : Block) : m (Except SyncError (List Tx)) := do
  let hashes := block.txHashes
  if hashes.isEmpty then return .ok []
  match Lookup.settle block.height hashes (← source.txs hashes) with
  | .error e => return .error e
  | .ok txs =>
    source.found txs.length
    return .ok txs

def fetchBlock (f : Fetcher) (source : Source m) (height : Height) :
    m (Except SyncError (List Command)) := do
  match ← source.block height with
  | .error e => return .error (Lookup.failed height "block" e)
  | .ok block =>
    if block.height ≠ height then
      return .error (.fetch height ("node returned block " ++ SyncError.heightText block.height))
    else match ← source.results height with
      | .error e => return .error (Lookup.failed height "block_results" e)
      | .ok results => match ← fetchTxs source block with
        | .error e => return .error e
        | .ok txs =>
          return (block.commands f.registry f.parser results txs).mapError fun e => e.toSync height

def fetch (f : Fetcher) (source : Source m) (height : Height) :
    m (Except SyncError (List Command)) :=
  if height = 0 then f.fetchGenesis source else f.fetchBlock source height

end Fetcher

end ChainIndexer
