import ChainIndexer.Command.Execute

/-!
# The commands of a block

In order: the block; begin-block events; for each transaction the transaction and then, where it
succeeded, its messages of known kinds; end-block events; finalize-block events; changes of power.

A block is refused when its results or transactions are not its own, and, as the configuration
asks, when a message has no known kind or an attribute is no base64.
-/

namespace ChainIndexer

open Json (Value)

/-! ## Errors -/

/-- Why results or transactions do not belong to a block. -/
inductive BlockFault
  | resultsHeight (height : Height)
  | txCount (inBlock resolved : Nat)
  | txIndex (position : Nat) (index : UInt64)
  | txHash (position : Nat) (resolved inBlock : String)
  deriving DecidableEq, Repr

def BlockFault.message : BlockFault → String
  | resultsHeight height => "block results are for height " ++ SyncError.heightText height
  | txCount inBlock resolved =>
    Numeral.natural inBlock ++ " transactions in block, " ++ Numeral.natural resolved
      ++ " resolved"
  | txIndex position index =>
    "transaction " ++ Numeral.natural position ++ " has index " ++ Numeral.natural index.toNat
  | txHash position resolved inBlock =>
    "transaction " ++ Numeral.natural position ++ " resolved as " ++ resolved ++ " but block has "
      ++ inBlock

/-- The sections of a genesis document. -/
inductive GenesisSection
  | validators
  | genTxs
  | balances
  deriving DecidableEq, Repr

def GenesisSection.path : GenesisSection → List String
  | validators => ["staking", "validators"]
  | genTxs => ["genutil", "gen_txs"]
  | balances => ["bank", "balances"]

/-- Why an entry of a genesis document is refused. -/
inductive GenesisFault
  | decode (e : Json.DecodeError)
  | address (fault : Address.Fault)

def GenesisFault.message : GenesisFault → String
  | decode e => e.message
  | address fault => fault.message

/-- Why chain data is refused. -/
inductive ParseError
  | block (height : Height) (fault : BlockFault)
  | genesis (place : GenesisSection) (fault : GenesisFault)
  | unknownMessage (height : Height) (txHash typeUrl : String)
  | base64 (height : Height) (fault : AbciEvent.AttributeFault)

namespace ParseError

/-- The name of the cause. -/
def kind : ParseError → String
  | block _ _ => "Block"
  | genesis _ _ => "Genesis"
  | unknownMessage _ _ _ => "UnknownMessage"
  | base64 _ _ => "Base64"

def message : ParseError → String
  | block height fault => "Block " ++ SyncError.heightText height ++ ": " ++ fault.message
  | genesis place fault =>
    "Genesis section '" ++ ".".intercalate place.path ++ "': " ++ fault.message
  | unknownMessage height txHash typeUrl =>
    "Unknown message type " ++ typeUrl ++ " in tx " ++ txHash ++ " at height "
      ++ SyncError.heightText height
  | base64 height fault =>
    "Invalid base64 event attribute at height " ++ SyncError.heightText height ++ ": "
      ++ fault.message

/-- The failed attempt at a height. -/
def toSync (e : ParseError) (height : Height) : SyncError := .parse height e.message

end ParseError

/-! ## Parts of a block -/

/-- Two texts are the same up to the case of ASCII letters. -/
def sameIgnoringCase (a b : String) : Bool :=
  a.toList.map Char.toLower == b.toList.map Char.toLower

namespace Block

/-- An execution event in plain form. -/
def plainEvent (config : ParserConfig) (height : Height) (e : AbciEvent) :
    Except ParseError AbciEvent :=
  if config.base64Attributes then e.decodeBase64.mapError (.base64 height) else .ok e

/-- The commands of block-level events; events of other types are passed over. -/
def eventCommands (config : ParserConfig) (height : Height) :
    List AbciEvent → Except ParseError (List Command)
  | [] => .ok []
  | e :: es =>
    match BlockEventKind.ofType? e.kind with
    | none => eventCommands config height es
    | some kind => do
      let e ← plainEvent config height e
      let rest ← eventCommands config height es
      return .blockEvent height kind e :: rest

/-- The command of a message at a place, with its route. -/
def messageCommand (config : ParserConfig) (height : Height) (tx : Tx) (position index : Nat)
    (msg : Value) (route : Route) : Command :=
  .msg
    { height
      base := ⟨tx.hash, UInt64.ofNat position, UInt64.ofNat index⟩
      kind := route.kind
      version := route.version
      msg
      events := tx.messageEvents (UInt64.ofNat index)
      context := config.context }

def messageCommands (registry : Registry) (config : ParserConfig) (height : Height) (tx : Tx)
    (position : Nat) : Nat → List Value → Except ParseError (List Command)
  | _, [] => .ok []
  | index, msg :: msgs => do
    let type := messageType msg
    let route := registry.resolve type height
    if route.kind = .unknown then
      if config.strictMessages then throw (.unknownMessage height tx.hash type)
      else messageCommands registry config height tx position (index + 1) msgs
    else
      let rest ← messageCommands registry config height tx position (index + 1) msgs
      return messageCommand config height tx position index msg route :: rest

def txCommands (registry : Registry) (config : ParserConfig) (height : Height) (position : Nat)
    (tx : Tx) (raw : RawTx) : Except ParseError (List Command) := do
  if tx.index.toNat ≠ position then throw (.block height (.txIndex position tx.index))
  if !sameIgnoringCase tx.hash raw.hash then
    throw (.block height (.txHash position tx.hash raw.hash))
  let messages ←
    if tx.isSuccess then messageCommands registry config height tx position 0 tx.body.messages
    else pure []
  return .transaction height tx :: messages

/-- The commands of the transactions from a position on. -/
def allTxCommands (registry : Registry) (config : ParserConfig) (height : Height) :
    Nat → List (Tx × RawTx) → Except ParseError (List Command)
  | _, [] => .ok []
  | position, (tx, raw) :: rest => do
    let first ← txCommands registry config height position tx raw
    let others ← allTxCommands registry config height (position + 1) rest
    return first ++ others

/-- The commands of a block, from its results and its transactions. -/
def commands (registry : Registry) (config : ParserConfig) (block : Block)
    (results : BlockResults) (txs : List Tx) : Except ParseError (List Command) := do
  let height := block.height
  if results.height ≠ height then throw (.block height (.resultsHeight results.height))
  if txs.length ≠ block.txs.length then
    throw (.block height (.txCount block.txs.length txs.length))
  let begins ← eventCommands config height results.beginBlockEvents
  let inner ← allTxCommands registry config height 0 (txs.zip block.txs)
  let ends ← eventCommands config height results.endBlockEvents
  let finals ← eventCommands config height results.finalizeBlockEvents
  let powers := results.validatorUpdates.map (Command.changePower height)
  return .block block :: begins ++ inner ++ ends ++ finals ++ powers

end Block

end ChainIndexer
