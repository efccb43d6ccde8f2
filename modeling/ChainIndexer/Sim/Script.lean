import ChainIndexer.Sim.Lookups
import ChainIndexer.Sync.Fetch

/-!
# A scripted chain

What the servers of a chain answer, by the time in milliseconds. Every height has an empty block
and empty results; a script replaces some of them, lets some requests fail, and says how long the
lookup of a transaction takes. Only lookups of transactions take time.
-/

namespace ChainIndexer.Sim

/-- Asking for a block fails, or asking for its results does, for ever or until some time. -/
structure Failing where
  height : Height
  error : RpcError
  inResults : Bool := false
  ends : Option Nat := none

/-- What a lookup of a hash gives, and how long it takes. -/
structure TxAnswer where
  hash : String
  outcome : Except RpcError Tx
  delay : Nat := 0

/-- The script of a chain. Of several entries for the same thing the newest counts, which comes
first; of the latest heights that of the last time that has come. -/
structure Script where
  latest : List (Nat × Option Height) := [(0, some 0)]
  genesis : Genesis
  blocks : List (Height × Block) := []
  results : List (Height × BlockResults) := []
  failing : List Failing := []
  txs : List TxAnswer := []

namespace Script

/-- The chain that the scripted blocks belong to. -/
def chainId : String := "testhub-1"

/-- A genesis document with nothing in it. -/
def emptyGenesis : Genesis :=
  { genesisTime := Time.epoch, chainId, initialHeight := 1, appState := .object [] }

/-- The block of a height with these transactions. -/
def plainBlock (height : Height) (txs : List RawTx) : Block :=
  { hash := "BLOCK" ++ SyncError.heightText height
    header := { chainId, height, time := Time.epoch, proposerAddress := "AB", appHash := "CD",
                lastBlockHash := "EF" }
    txs, signatures := [], evidenceCount := 0 }

def emptyResults (height : Height) : BlockResults :=
  { height, txsResults := [], beginBlockEvents := [], endBlockEvents := [],
    finalizeBlockEvents := [], validatorUpdates := [] }

/-! ## Answers -/

def latestAt (s : Script) (now : Nat) : Option Height :=
  match (s.latest.filter fun p => p.1 ≤ now).getLast? with
  | some (_, h) => h
  | none => none

/-- Why asking about a height fails at a time. -/
def failure? (s : Script) (inResults : Bool) (height : Height) (now : Nat) : Option RpcError :=
  (s.failing.find? fun f => f.height = height && f.inResults = inResults
    && f.ends.all fun t => now < t).map Failing.error

/-- An answer, unless asking for it fails. -/
def answer {α : Type} (s : Script) (inResults : Bool) (height : Height) (now : Nat) (a : α) :
    Except RpcError α :=
  match s.failure? inResults height now with
  | some e => .error e
  | none => .ok a

def block (s : Script) (now : Nat) (height : Height) : Except RpcError Block :=
  s.answer false height now ((s.blocks.lookup height).getD (plainBlock height []))

def blockResults (s : Script) (now : Nat) (height : Height) : Except RpcError BlockResults :=
  s.answer true height now ((s.results.lookup height).getD (emptyResults height))

/-- What is answered for a transaction, and after how long. -/
def tx (s : Script) (hash : String) : Except RpcError Tx × Nat :=
  match s.txs.find? fun a => a.hash == hash with
  | some a => (a.outcome, a.delay)
  | none => (.error (.notFound hash), 0)

end Script

/-! ## Fetching a height -/

/-- What was seen of the lookups of a height: when the last ended after the start, how many
transactions were found, the hashes in the order in which they were completed, and the most lookups
at the same time. -/
structure Trace where
  duration : Nat := 0
  found : Nat := 0
  completed : List String := []
  peak : Nat := 0

namespace Script

/-- The chain from which a height is fetched at a time, with so many lookups at the same time. -/
def source (s : Script) (permits now : Nat) : Source (StateM Trace) where
  genesis := pure (s.answer false 0 now s.genesis)
  block height := pure (s.block now height)
  results height := pure (s.blockResults now height)
  join lookups := do
    let (ended, peak) := Lookups.run permits (lookups.map fun l => (s.tx l.hash).2)
    let duration := (ended.map Prod.snd).foldl max 0
    let completed := ended.filterMap fun (place, _) => (lookups[place]?).map Lookup.Task.hash
    set { (← get) with duration, completed, peak }
    return ended.filterMap fun (place, _) =>
      (lookups[place]?).map fun l => l.finish (s.tx l.hash).1
  found n := modify fun t => { t with found := n }

end Script

end ChainIndexer.Sim
