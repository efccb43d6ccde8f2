import ChainIndexer.Chain.Address
import ChainIndexer.Chain.Attributes
import ChainIndexer.Chain.Tx
import ChainIndexer.Event.Payload
import ChainIndexer.Message.Registry
import ChainIndexer.Sync.Error

/-!
# Commands

What happened at a height, as an ordered list of commands. Carrying out a command yields one event;
everything it needs is in the command.
-/

namespace ChainIndexer

open Json (Value)

/-! ## What a parser is told about the chain -/

/-- What messages are checked against. An empty staking denomination is not checked. -/
structure MsgContext where
  prefixes : AddressPrefixes := .ofAccount "cosmos"
  stakingDenom : String := ""
  deriving DecidableEq, Repr

/-- How blocks and genesis documents are read. -/
structure ParserConfig where
  prefixes : AddressPrefixes := .ofAccount "cosmos"
  stakingDenom : String := "uatom"
  strictGenesis : Bool := false
  strictMessages : Bool := false
  base64Attributes : Bool := false
  deriving DecidableEq, Repr

/-- What messages are checked against. -/
def ParserConfig.context (c : ParserConfig) : MsgContext := ⟨c.prefixes, c.stakingDenom⟩

/-! ## Block-level events -/

/-- The block-level execution events that are indexed. -/
inductive BlockEventKind
  | mint
  | proposerReward
  | rewards
  | commission
  | slash
  | completeUnbonding
  deriving DecidableEq, Repr

namespace BlockEventKind

/-- The kind of an execution event's type. -/
def ofType? (type : String) : Option BlockEventKind :=
  if type = "mint" then some mint
  else if type = "proposer_reward" then some proposerReward
  else if type = "rewards" then some rewards
  else if type = "commission" then some commission
  else if type = "slash" then some slash
  else if type = "complete_unbonding" then some completeUnbonding
  else none

def commandName : BlockEventKind → String
  | mint => "CreateMint"
  | proposerReward => "CreateBlockProposerReward"
  | rewards => "CreateBlockReward"
  | commission => "CreateBlockCommission"
  | slash => "CreateValidatorSlash"
  | completeUnbonding => "CompleteUnbonding"

end BlockEventKind

/-! ## Commands -/

/-- A message of a transaction that succeeded, with the execution events that belong to it. -/
structure MsgCommand where
  height : Height
  base : MsgBase
  kind : MsgKind
  version : UInt32
  msg : Value
  events : List AbciEvent
  context : MsgContext

/-- One thing that happened. -/
inductive Command
  | genesis (g : GenesisCreated)
  | genesisValidator (v : GenesisValidatorCreated)
  | genesisBalance (b : GenesisAccountBalanceCreated)
  | block (b : Block)
  | transaction (height : Height) (tx : Tx)
  | msg (m : MsgCommand)
  | blockEvent (height : Height) (kind : BlockEventKind) (event : AbciEvent)
  | changePower (height : Height) (update : ValidatorUpdate)

namespace Command

def name : Command → String
  | genesis _ => "CreateGenesis"
  | genesisValidator _ => "CreateGenesisValidator"
  | genesisBalance _ => "CreateGenesisAccountBalance"
  | block _ => "CreateBlock"
  | transaction _ _ => "CreateTransaction"
  | msg m => m.kind.commandName
  | blockEvent _ kind _ => kind.commandName
  | changePower _ _ => "ChangePower"

def version : Command → UInt32
  | msg m => m.version
  | _ => 1

def height : Command → Height
  | genesis _ => 0
  | genesisValidator _ => 0
  | genesisBalance _ => 0
  | block b => b.height
  | transaction height _ => height
  | msg m => m.height
  | blockEvent height _ _ => height
  | changePower height _ => height

end Command

/-! ## Errors -/

/-- Why a command yields no event. -/
inductive CommandFault
  | decode (e : Json.DecodeError)
  | address (fault : Address.Fault)
  | coins (fault : Coin.Fault)
  | timestamp (text : String) (fault : Time.Fault)
  | proposalId (text : String) (fault : NumeralError)
  | denom (wanted found : String)
  | missing (kind key : String)
  | slashTarget
  | unknownMessage

def CommandFault.message : CommandFault → String
  | decode e => e.message
  | address fault => fault.message
  | coins fault => fault.message
  | timestamp text fault => "invalid timestamp " ++ Text.quoted text ++ ": " ++ fault.message
  | proposalId text fault => "invalid proposal_id " ++ Text.quoted text ++ ": " ++ fault.message
  | denom wanted found => "expected staking denom " ++ wanted ++ ", got " ++ found
  | missing kind key => kind ++ " event without '" ++ key ++ "'"
  | slashTarget => "slash event without 'address' or 'jailed'"
  | unknownMessage => "no parser registered for message"

/-- A command that yields no event, and why. -/
structure CommandError where
  name : String
  version : UInt32
  fault : CommandFault

namespace CommandError

def message (e : CommandError) : String :=
  e.name ++ " v" ++ Numeral.natural e.version.toNat ++ ": " ++ e.fault.message

/-- The failed attempt at a height. -/
def toSync (e : CommandError) (height : Height) : SyncError :=
  .command height e.name e.version e.fault.message

end CommandError

end ChainIndexer
