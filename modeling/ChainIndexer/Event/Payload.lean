import ChainIndexer.Chain.Results
import ChainIndexer.Message.Params

/-!
# Events

What the indexer hands to a store: for each height an ordered list of events. An event's name
follows from its payload.
-/

namespace ChainIndexer

open Json (Codec Field Fields record Value)

/-! ## Genesis -/

/-- The chain starts. -/
structure GenesisCreated where
  chainId : String
  genesisTime : Time
  initialHeight : Height
  deriving DecidableEq, Repr

/-- The JSON form of the chain's start. -/
def GenesisCreated.codec : Codec GenesisCreated :=
  record "GenesisCreated"
    (.cons (.required "chain_id" chainId .string) <|
     .cons (.required "genesis_time" genesisTime .time) <|
     .cons (.required "initial_height" initialHeight .uint64) .nil)
    fun (chainId, genesisTime, initialHeight, _) => { chainId, genesisTime, initialHeight }

/-- A validator of the genesis state. -/
structure GenesisValidatorCreated where
  operatorAddress : String
  delegatorAddress : String
  consensusPubkey : Value
  description : ValidatorDescription
  commission : CommissionRates
  minSelfDelegation : String
  tokens : String
  jailed : Bool

/-- The JSON form of a genesis validator. -/
def GenesisValidatorCreated.codec : Codec GenesisValidatorCreated :=
  record "GenesisValidatorCreated"
    (.cons (.required "operator_address" operatorAddress .string) <|
     .cons (.required "delegator_address" delegatorAddress .string) <|
     .cons (.required "consensus_pubkey" consensusPubkey .value) <|
     .cons (.required "description" description ValidatorDescription.codec) <|
     .cons (.required "commission" commission CommissionRates.codec) <|
     .cons (.required "min_self_delegation" minSelfDelegation .string) <|
     .cons (.required "tokens" tokens .string) <|
     .cons (.required "jailed" jailed .bool) .nil)
    fun (operatorAddress, delegatorAddress, consensusPubkey, description, commission,
        minSelfDelegation, tokens, jailed, _) =>
      { operatorAddress, delegatorAddress, consensusPubkey, description, commission,
        minSelfDelegation, tokens, jailed }

/-- A balance of the genesis state. -/
structure GenesisAccountBalanceCreated where
  address : String
  coins : List Coin
  deriving DecidableEq, Repr

/-- The JSON form of a genesis balance. -/
def GenesisAccountBalanceCreated.codec : Codec GenesisAccountBalanceCreated :=
  record "GenesisAccountBalanceCreated"
    (.cons (.required "address" address .string) <|
     .cons (.required "coins" coins Coin.codec.list) .nil)
    fun (address, coins, _) => { address, coins }

/-! ## Blocks and transactions -/

/-- A block. -/
structure BlockCreated where
  hash : String
  time : Time
  proposerAddress : String
  appHash : String
  txCount : UInt64
  signatures : List CommitSignature
  evidenceCount : UInt64
  deriving DecidableEq, Repr

/-- The JSON form of a block event. -/
def BlockCreated.codec : Codec BlockCreated :=
  record "BlockCreated"
    (.cons (.required "hash" hash .string) <|
     .cons (.required "time" time .time) <|
     .cons (.required "proposer_address" proposerAddress .string) <|
     .cons (.required "app_hash" appHash .string) <|
     .cons (.required "tx_count" txCount .index) <|
     .cons (.required "signatures" signatures CommitSignature.codec.list) <|
     .cons (.required "evidence_count" evidenceCount .index) .nil)
    fun (hash, time, proposerAddress, appHash, txCount, signatures, evidenceCount, _) =>
      { hash, time, proposerAddress, appHash, txCount, signatures, evidenceCount }

/-- A transaction, executed or failed. -/
structure TransactionCreated where
  hash : String
  index : UInt64
  success : Bool
  code : UInt32
  codespace : String
  log : String
  fee : Fee
  gasWanted : Int64
  gasUsed : Int64
  memo : String
  timeoutHeight : UInt64
  messageTypes : List String
  time : Time
  deriving DecidableEq, Repr

/-- The JSON form of a transaction event. -/
def TransactionCreated.codec : Codec TransactionCreated :=
  record "TransactionCreated"
    (.cons (.required "hash" hash .string) <|
     .cons (.required "index" index .index) <|
     .cons (.required "success" success .bool) <|
     .cons (.required "code" code .uint32) <|
     .cons (.required "codespace" codespace .string) <|
     .cons (.required "log" log .string) <|
     .cons (.required "fee" fee Fee.codec) <|
     .cons (.required "gas_wanted" gasWanted .int64) <|
     .cons (.required "gas_used" gasUsed .int64) <|
     .cons (.required "memo" memo .string) <|
     .cons (.required "timeout_height" timeoutHeight .uint64) <|
     .cons (.required "message_types" messageTypes Codec.string.list) <|
     .cons (.required "time" time .time) .nil)
    fun (hash, index, success, code, codespace, log, fee, gasWanted, gasUsed, memo, timeoutHeight,
        messageTypes, time, _) =>
      { hash, index, success, code, codespace, log, fee, gasWanted, gasUsed, memo, timeoutHeight,
        messageTypes, time }

/-- A message and its place. -/
structure MsgEvent where
  base : MsgBase
  params : MsgParams

/-- The JSON form of a message event. -/
def MsgEvent.codec : Codec MsgEvent :=
  record "MsgEvent"
    (.cons (.required "base" base MsgBase.codec) <|
     .cons (.required "params" params MsgParams.codec) .nil)
    fun (base, params, _) => { base, params }

/-! ## Block execution -/

/-- New coins. -/
structure MintMinted where
  bondedRatio : String
  inflation : String
  annualProvisions : String
  amount : String
  deriving DecidableEq, Repr

/-- The JSON form of new coins. -/
def MintMinted.codec : Codec MintMinted :=
  record "MintMinted"
    (.cons (.required "bonded_ratio" bondedRatio .string) <|
     .cons (.required "inflation" inflation .string) <|
     .cons (.required "annual_provisions" annualProvisions .string) <|
     .cons (.required "amount" amount .string) .nil)
    fun (bondedRatio, inflation, annualProvisions, amount, _) =>
      { bondedRatio, inflation, annualProvisions, amount }

/-- A reward or commission for a validator. -/
structure BlockReward where
  validator : String
  amount : List Coin
  deriving DecidableEq, Repr

/-- The JSON form of a reward. -/
def BlockReward.codec : Codec BlockReward :=
  record "BlockReward"
    (.cons (.required "validator" validator .string) <|
     .cons (.required "amount" amount Coin.codec.list) .nil)
    fun (validator, amount, _) => { validator, amount }

/-- A penalty for a validator. -/
structure ValidatorSlashed where
  address : String
  power : String
  reason : String
  jailed : Option String
  burned : Option String
  deriving DecidableEq, Repr

/-- The JSON form of a penalty. -/
def ValidatorSlashed.codec : Codec ValidatorSlashed :=
  record "ValidatorSlashed"
    (.cons (.required "address" address .string) <|
     .cons (.required "power" power .string) <|
     .cons (.required "reason" reason .string) <|
     .cons (.optional "jailed" jailed .string) <|
     .cons (.optional "burned" burned .string) .nil)
    fun (address, power, reason, jailed, burned, _) => { address, power, reason, jailed, burned }

/-- The end of an unbonding period. -/
structure UnbondingCompleted where
  delegator : String
  validator : String
  amount : List Coin
  deriving DecidableEq, Repr

/-- The JSON form of the end of an unbonding period. -/
def UnbondingCompleted.codec : Codec UnbondingCompleted :=
  record "UnbondingCompleted"
    (.cons (.required "delegator" delegator .string) <|
     .cons (.required "validator" validator .string) <|
     .cons (.required "amount" amount Coin.codec.list) .nil)
    fun (delegator, validator, amount, _) => { delegator, validator, amount }

/-- A change of voting power. -/
structure PowerChanged where
  pubKeyType : String
  pubKey : String
  power : Int64
  deriving DecidableEq, Repr

/-- The JSON form of a change of voting power. -/
def PowerChanged.codec : Codec PowerChanged :=
  record "PowerChanged"
    (.cons (.required "pub_key_type" pubKeyType .string) <|
     .cons (.required "pub_key" pubKey .string) <|
     .cons (.required "power" power .int64) .nil)
    fun (pubKeyType, pubKey, power, _) => { pubKeyType, pubKey, power }

/-! ## All payloads -/

/-- What an event tells. -/
inductive Payload
  | genesisCreated (p : GenesisCreated)
  | genesisValidatorCreated (p : GenesisValidatorCreated)
  | genesisAccountBalanceCreated (p : GenesisAccountBalanceCreated)
  | blockCreated (p : BlockCreated)
  | transactionCreated (p : TransactionCreated)
  | transactionFailed (p : TransactionCreated)
  | msg (p : MsgEvent)
  | mintMinted (p : MintMinted)
  | blockProposerRewarded (p : BlockReward)
  | blockRewarded (p : BlockReward)
  | blockCommissioned (p : BlockReward)
  | validatorSlashed (p : ValidatorSlashed)
  | unbondingCompleted (p : UnbondingCompleted)
  | powerChanged (p : PowerChanged)

namespace Payload

def toCase : Payload → String × Value
  | genesisCreated p => ("GenesisCreated", GenesisCreated.codec.write p)
  | genesisValidatorCreated p => ("GenesisValidatorCreated", GenesisValidatorCreated.codec.write p)
  | genesisAccountBalanceCreated p =>
    ("GenesisAccountBalanceCreated", GenesisAccountBalanceCreated.codec.write p)
  | blockCreated p => ("BlockCreated", BlockCreated.codec.write p)
  | transactionCreated p => ("TransactionCreated", TransactionCreated.codec.write p)
  | transactionFailed p => ("TransactionFailed", TransactionCreated.codec.write p)
  | msg p => ("Msg", MsgEvent.codec.write p)
  | mintMinted p => ("MintMinted", MintMinted.codec.write p)
  | blockProposerRewarded p => ("BlockProposerRewarded", BlockReward.codec.write p)
  | blockRewarded p => ("BlockRewarded", BlockReward.codec.write p)
  | blockCommissioned p => ("BlockCommissioned", BlockReward.codec.write p)
  | validatorSlashed p => ("ValidatorSlashed", ValidatorSlashed.codec.write p)
  | unbondingCompleted p => ("UnbondingCompleted", UnbondingCompleted.codec.write p)
  | powerChanged p => ("PowerChanged", PowerChanged.codec.write p)

def cases : List (Codec.Case Payload) := [
  .of "GenesisCreated" GenesisCreated.codec genesisCreated,
  .of "GenesisValidatorCreated" GenesisValidatorCreated.codec genesisValidatorCreated,
  .of "GenesisAccountBalanceCreated" GenesisAccountBalanceCreated.codec
    genesisAccountBalanceCreated,
  .of "BlockCreated" BlockCreated.codec blockCreated,
  .of "TransactionCreated" TransactionCreated.codec transactionCreated,
  .of "TransactionFailed" TransactionCreated.codec transactionFailed,
  .of "Msg" MsgEvent.codec msg,
  .of "MintMinted" MintMinted.codec mintMinted,
  .of "BlockProposerRewarded" BlockReward.codec blockProposerRewarded,
  .of "BlockRewarded" BlockReward.codec blockRewarded,
  .of "BlockCommissioned" BlockReward.codec blockCommissioned,
  .of "ValidatorSlashed" ValidatorSlashed.codec validatorSlashed,
  .of "UnbondingCompleted" UnbondingCompleted.codec unbondingCompleted,
  .of "PowerChanged" PowerChanged.codec powerChanged]

/-- The JSON form of a payload: its case and its data. -/
def codec : Codec Payload := .union "EventPayload" "type" "data" cases toCase

def eventName : Payload → String
  | msg p => p.params.name ++ "Created"
  | p => p.toCase.1

end Payload

/-- One event of a height. -/
structure Event where
  height : Height
  name : String
  version : UInt32
  payload : Payload

namespace Event

/-- The JSON form of an event. -/
def codec : Codec Event :=
  record "Event"
    (.cons (.required "height" height .uint64) <|
     .cons (.required "name" name .string) <|
     .cons (.required "version" version .uint32) <|
     .cons (.required "payload" payload Payload.codec) .nil)
    fun (height, name, version, payload, _) => { height, name, version, payload }

/-- The event of a payload, named after it. -/
def of (height : Height) (version : UInt32) (payload : Payload) : Event :=
  ⟨height, payload.eventName, version, payload⟩

end Event

end ChainIndexer
