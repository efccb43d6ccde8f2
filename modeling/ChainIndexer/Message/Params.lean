import ChainIndexer.Chain.Coin

/-!
# Messages

The parameters of the messages that are indexed, each read straight from the form in which a
message stands in a transaction. What exists only in the execution log (claimed rewards, withdrawn
amounts, completion times, proposal numbers) has a default and is filled in from the events.
-/

namespace ChainIndexer

open Json (Codec Field Fields record Value)

/-- Where a message stands: its transaction and its place there. -/
structure MsgBase where
  txHash : String
  txIndex : UInt64
  msgIndex : UInt64
  deriving DecidableEq, Repr

/-- The JSON form of a message's place. -/
def MsgBase.codec : Codec MsgBase :=
  record "MsgBase"
    (.cons (.required "tx_hash" txHash .string) <|
     .cons (.required "tx_index" txIndex .index) <|
     .cons (.required "msg_index" msgIndex .index) .nil)
    fun (txHash, txIndex, msgIndex, _) => { txHash, txIndex, msgIndex }

/-! ## Transfers -/

/-- A transfer. -/
structure MsgSend where
  fromAddress : String
  toAddress : String
  amount : List Coin
  deriving DecidableEq, Repr

/-- The JSON form of a transfer. -/
def MsgSend.codec : Codec MsgSend :=
  record "MsgSendParams"
    (.cons (.required "from_address" fromAddress .string) <|
     .cons (.required "to_address" toAddress .string) <|
     .cons (.required "amount" amount Coin.codec.list) .nil)
    fun (fromAddress, toAddress, amount, _) => { fromAddress, toAddress, amount }

/-- One side of a transfer among many. -/
structure MultiSendEntry where
  address : String
  coins : List Coin
  deriving DecidableEq, Repr

/-- The JSON form of one side. -/
def MultiSendEntry.codec : Codec MultiSendEntry :=
  record "MultiSendEntry"
    (.cons (.required "address" address .string) <|
     .cons (.required "coins" coins Coin.codec.list) .nil)
    fun (address, coins, _) => { address, coins }

/-- A transfer among many. -/
structure MsgMultiSend where
  inputs : List MultiSendEntry
  outputs : List MultiSendEntry
  deriving DecidableEq, Repr

/-- The JSON form of a transfer among many. -/
def MsgMultiSend.codec : Codec MsgMultiSend :=
  record "MsgMultiSendParams"
    (.cons (.required "inputs" inputs MultiSendEntry.codec.list) <|
     .cons (.required "outputs" outputs MultiSendEntry.codec.list) .nil)
    fun (inputs, outputs, _) => { inputs, outputs }

/-! ## Staking -/

/-- A delegation. -/
structure MsgDelegate where
  delegatorAddress : String
  validatorAddress : String
  amount : Coin
  autoClaimedRewards : List Coin
  deriving DecidableEq, Repr

/-- The JSON form of a delegation. -/
def MsgDelegate.codec : Codec MsgDelegate :=
  record "MsgDelegateParams"
    (.cons (.required "delegator_address" delegatorAddress .string) <|
     .cons (.required "validator_address" validatorAddress .string) <|
     .cons (.required "amount" amount Coin.codec) <|
     .cons (.default "auto_claimed_rewards" autoClaimedRewards Coin.codec.list []) .nil)
    fun (delegatorAddress, validatorAddress, amount, autoClaimedRewards, _) =>
      { delegatorAddress, validatorAddress, amount, autoClaimedRewards }

/-- The end of a delegation. -/
structure MsgUndelegate where
  delegatorAddress : String
  validatorAddress : String
  amount : Coin
  completionTime : Option Time
  autoClaimedRewards : List Coin
  deriving DecidableEq, Repr

/-- The JSON form of the end of a delegation. -/
def MsgUndelegate.codec : Codec MsgUndelegate :=
  record "MsgUndelegateParams"
    (.cons (.required "delegator_address" delegatorAddress .string) <|
     .cons (.required "validator_address" validatorAddress .string) <|
     .cons (.required "amount" amount Coin.codec) <|
     .cons (.default "completion_time" completionTime (Codec.option .time) none) <|
     .cons (.default "auto_claimed_rewards" autoClaimedRewards Coin.codec.list []) .nil)
    fun (delegatorAddress, validatorAddress, amount, completionTime, autoClaimedRewards, _) =>
      { delegatorAddress, validatorAddress, amount, completionTime, autoClaimedRewards }

/-- The move of a delegation. -/
structure MsgBeginRedelegate where
  delegatorAddress : String
  validatorSrcAddress : String
  validatorDstAddress : String
  amount : Coin
  completionTime : Option Time
  autoClaimedRewards : List Coin
  deriving DecidableEq, Repr

/-- The JSON form of the move of a delegation. -/
def MsgBeginRedelegate.codec : Codec MsgBeginRedelegate :=
  record "MsgBeginRedelegateParams"
    (.cons (.required "delegator_address" delegatorAddress .string) <|
     .cons (.required "validator_src_address" validatorSrcAddress .string) <|
     .cons (.required "validator_dst_address" validatorDstAddress .string) <|
     .cons (.required "amount" amount Coin.codec) <|
     .cons (.default "completion_time" completionTime (Codec.option .time) none) <|
     .cons (.default "auto_claimed_rewards" autoClaimedRewards Coin.codec.list []) .nil)
    fun (delegatorAddress, validatorSrcAddress, validatorDstAddress, amount, completionTime,
        autoClaimedRewards, _) =>
      { delegatorAddress, validatorSrcAddress, validatorDstAddress, amount, completionTime,
        autoClaimedRewards }

/-- How a validator presents itself. -/
structure ValidatorDescription where
  moniker : String := ""
  identity : String := ""
  website : String := ""
  securityContact : String := ""
  details : String := ""
  deriving DecidableEq, Repr

/-- The JSON form of a description. -/
def ValidatorDescription.codec : Codec ValidatorDescription :=
  record "ValidatorDescription"
    (.cons (.default "moniker" moniker .string "") <|
     .cons (.default "identity" identity .string "") <|
     .cons (.default "website" website .string "") <|
     .cons (.default "security_contact" securityContact .string "") <|
     .cons (.default "details" details .string "") .nil)
    fun (moniker, identity, website, securityContact, details, _) =>
      { moniker, identity, website, securityContact, details }

/-- The rates of a validator's commission. -/
structure CommissionRates where
  rate : String
  maxRate : String
  maxChangeRate : String
  deriving DecidableEq, Repr

/-- The fields of the commission's rates. -/
def CommissionRates.form (name : String) : Codec CommissionRates :=
  record name
    (.cons (.required "rate" rate .string) <|
     .cons (.required "max_rate" maxRate .string) <|
     .cons (.required "max_change_rate" maxChangeRate .string) .nil)
    fun (rate, maxRate, maxChangeRate, _) => { rate, maxRate, maxChangeRate }

/-- The JSON form of the commission's rates. -/
def CommissionRates.codec : Codec CommissionRates := CommissionRates.form "CommissionRates"

/-- The start of a validator. -/
structure MsgCreateValidator where
  description : ValidatorDescription
  commission : CommissionRates
  minSelfDelegation : String
  delegatorAddress : String
  validatorAddress : String
  pubkey : Value
  value : Coin

/-- The JSON form of the start of a validator. -/
def MsgCreateValidator.codec : Codec MsgCreateValidator :=
  record "MsgCreateValidatorParams"
    (.cons (.required "description" description ValidatorDescription.codec) <|
     .cons (.required "commission" commission CommissionRates.codec) <|
     .cons (.required "min_self_delegation" minSelfDelegation .string) <|
     .cons (.default "delegator_address" delegatorAddress .string "") <|
     .cons (.required "validator_address" validatorAddress .string) <|
     .cons (.required "pubkey" pubkey .value) <|
     .cons (.required "value" value Coin.codec) .nil)
    fun (description, commission, minSelfDelegation, delegatorAddress, validatorAddress, pubkey,
        value, _) =>
      { description, commission, minSelfDelegation, delegatorAddress, validatorAddress, pubkey,
        value }

/-- A change of a validator. -/
structure MsgEditValidator where
  description : ValidatorDescription
  validatorAddress : String
  commissionRate : Option String
  minSelfDelegation : Option String
  deriving DecidableEq, Repr

/-- The JSON form of a change of a validator. -/
def MsgEditValidator.codec : Codec MsgEditValidator :=
  record "MsgEditValidatorParams"
    (.cons (.required "description" description ValidatorDescription.codec) <|
     .cons (.required "validator_address" validatorAddress .string) <|
     .cons (.default "commission_rate" commissionRate (Codec.option .string) none) <|
     .cons (.default "min_self_delegation" minSelfDelegation (Codec.option .string) none) .nil)
    fun (description, validatorAddress, commissionRate, minSelfDelegation, _) =>
      { description, validatorAddress, commissionRate, minSelfDelegation }

/-! ## Distribution -/

/-- A withdrawal of rewards. -/
structure MsgWithdrawDelegatorReward where
  delegatorAddress : String
  validatorAddress : String
  amount : List Coin
  deriving DecidableEq, Repr

/-- The JSON form of a withdrawal of rewards. -/
def MsgWithdrawDelegatorReward.codec : Codec MsgWithdrawDelegatorReward :=
  record "MsgWithdrawDelegatorRewardParams"
    (.cons (.required "delegator_address" delegatorAddress .string) <|
     .cons (.required "validator_address" validatorAddress .string) <|
     .cons (.default "amount" amount Coin.codec.list []) .nil)
    fun (delegatorAddress, validatorAddress, amount, _) =>
      { delegatorAddress, validatorAddress, amount }

/-- A withdrawal of commission. -/
structure MsgWithdrawValidatorCommission where
  validatorAddress : String
  amount : List Coin
  deriving DecidableEq, Repr

/-- The JSON form of a withdrawal of commission. -/
def MsgWithdrawValidatorCommission.codec : Codec MsgWithdrawValidatorCommission :=
  record "MsgWithdrawValidatorCommissionParams"
    (.cons (.required "validator_address" validatorAddress .string) <|
     .cons (.default "amount" amount Coin.codec.list []) .nil)
    fun (validatorAddress, amount, _) => { validatorAddress, amount }

/-- A new address for withdrawals. -/
structure MsgSetWithdrawAddress where
  delegatorAddress : String
  withdrawAddress : String
  deriving DecidableEq, Repr

/-- The JSON form of a new address for withdrawals. -/
def MsgSetWithdrawAddress.codec : Codec MsgSetWithdrawAddress :=
  record "MsgSetWithdrawAddressParams"
    (.cons (.required "delegator_address" delegatorAddress .string) <|
     .cons (.required "withdraw_address" withdrawAddress .string) .nil)
    fun (delegatorAddress, withdrawAddress, _) => { delegatorAddress, withdrawAddress }

/-! ## Governance -/

/-- A proposal with one content. -/
structure MsgSubmitProposal where
  content : Value
  initialDeposit : List Coin
  proposer : String
  proposalId : Option UInt64

/-- The JSON form of a proposal with one content. -/
def MsgSubmitProposal.codec : Codec MsgSubmitProposal :=
  record "MsgSubmitProposalParams"
    (.cons (.required "content" content .value) <|
     .cons (.default "initial_deposit" initialDeposit Coin.codec.list []) <|
     .cons (.required "proposer" proposer .string) <|
     .cons (.default "proposal_id" proposalId (Codec.option .uint64) none) .nil)
    fun (content, initialDeposit, proposer, proposalId, _) =>
      { content, initialDeposit, proposer, proposalId }

/-- A proposal made of messages. -/
structure MsgSubmitProposalV1 where
  messages : List Value
  initialDeposit : List Coin
  proposer : String
  metadata : String
  title : String
  summary : String
  proposalId : Option UInt64

/-- The JSON form of a proposal made of messages. -/
def MsgSubmitProposalV1.codec : Codec MsgSubmitProposalV1 :=
  record "MsgSubmitProposalV1Params"
    (.cons (.default "messages" messages Codec.value.list []) <|
     .cons (.default "initial_deposit" initialDeposit Coin.codec.list []) <|
     .cons (.required "proposer" proposer .string) <|
     .cons (.default "metadata" metadata .string "") <|
     .cons (.default "title" title .string "") <|
     .cons (.default "summary" summary .string "") <|
     .cons (.default "proposal_id" proposalId (Codec.option .uint64) none) .nil)
    fun (messages, initialDeposit, proposer, metadata, title, summary, proposalId, _) =>
      { messages, initialDeposit, proposer, metadata, title, summary, proposalId }

/-- A vote. -/
structure MsgVote where
  proposalId : UInt64
  voter : String
  option : String
  deriving DecidableEq, Repr

/-- The JSON form of a vote. -/
def MsgVote.codec : Codec MsgVote :=
  record "MsgVoteParams"
    (.cons (.required "proposal_id" proposalId .stringUInt64) <|
     .cons (.required "voter" voter .string) <|
     .cons (.required "option" option .string) .nil)
    fun (proposalId, voter, option, _) => { proposalId, voter, option }

/-- A deposit. -/
structure MsgDeposit where
  proposalId : UInt64
  depositor : String
  amount : List Coin
  deriving DecidableEq, Repr

/-- The JSON form of a deposit. -/
def MsgDeposit.codec : Codec MsgDeposit :=
  record "MsgDepositParams"
    (.cons (.required "proposal_id" proposalId .stringUInt64) <|
     .cons (.required "depositor" depositor .string) <|
     .cons (.required "amount" amount Coin.codec.list) .nil)
    fun (proposalId, depositor, amount, _) => { proposalId, depositor, amount }

/-! ## Slashing -/

/-- The return of a jailed validator. -/
structure MsgUnjail where
  validatorAddr : String
  deriving DecidableEq, Repr

/-- The JSON form of a jailed validator's return. -/
def MsgUnjail.codec : Codec MsgUnjail :=
  record "MsgUnjailParams"
    (.cons (.required "validator_addr" validatorAddr .string) .nil)
    fun (validatorAddr, _) => { validatorAddr }

/-! ## All messages -/

/-- The parameters of a message. -/
inductive MsgParams
  | send (p : MsgSend)
  | multiSend (p : MsgMultiSend)
  | delegate (p : MsgDelegate)
  | undelegate (p : MsgUndelegate)
  | beginRedelegate (p : MsgBeginRedelegate)
  | withdrawDelegatorReward (p : MsgWithdrawDelegatorReward)
  | withdrawValidatorCommission (p : MsgWithdrawValidatorCommission)
  | setWithdrawAddress (p : MsgSetWithdrawAddress)
  | createValidator (p : MsgCreateValidator)
  | editValidator (p : MsgEditValidator)
  | submitProposal (p : MsgSubmitProposal)
  | submitProposalV1 (p : MsgSubmitProposalV1)
  | vote (p : MsgVote)
  | deposit (p : MsgDeposit)
  | unjail (p : MsgUnjail)

namespace MsgParams

/-- The case of a message and its parameters as a value. -/
def toCase : MsgParams → String × Value
  | send p => ("Send", MsgSend.codec.write p)
  | multiSend p => ("MultiSend", MsgMultiSend.codec.write p)
  | delegate p => ("Delegate", MsgDelegate.codec.write p)
  | undelegate p => ("Undelegate", MsgUndelegate.codec.write p)
  | beginRedelegate p => ("BeginRedelegate", MsgBeginRedelegate.codec.write p)
  | withdrawDelegatorReward p =>
    ("WithdrawDelegatorReward", MsgWithdrawDelegatorReward.codec.write p)
  | withdrawValidatorCommission p =>
    ("WithdrawValidatorCommission", MsgWithdrawValidatorCommission.codec.write p)
  | setWithdrawAddress p => ("SetWithdrawAddress", MsgSetWithdrawAddress.codec.write p)
  | createValidator p => ("CreateValidator", MsgCreateValidator.codec.write p)
  | editValidator p => ("EditValidator", MsgEditValidator.codec.write p)
  | submitProposal p => ("SubmitProposal", MsgSubmitProposal.codec.write p)
  | submitProposalV1 p => ("SubmitProposalV1", MsgSubmitProposalV1.codec.write p)
  | vote p => ("Vote", MsgVote.codec.write p)
  | deposit p => ("Deposit", MsgDeposit.codec.write p)
  | unjail p => ("Unjail", MsgUnjail.codec.write p)

def cases : List (Codec.Case MsgParams) := [
  .of "Send" MsgSend.codec send,
  .of "MultiSend" MsgMultiSend.codec multiSend,
  .of "Delegate" MsgDelegate.codec delegate,
  .of "Undelegate" MsgUndelegate.codec undelegate,
  .of "BeginRedelegate" MsgBeginRedelegate.codec beginRedelegate,
  .of "WithdrawDelegatorReward" MsgWithdrawDelegatorReward.codec withdrawDelegatorReward,
  .of "WithdrawValidatorCommission" MsgWithdrawValidatorCommission.codec
    withdrawValidatorCommission,
  .of "SetWithdrawAddress" MsgSetWithdrawAddress.codec setWithdrawAddress,
  .of "CreateValidator" MsgCreateValidator.codec createValidator,
  .of "EditValidator" MsgEditValidator.codec editValidator,
  .of "SubmitProposal" MsgSubmitProposal.codec submitProposal,
  .of "SubmitProposalV1" MsgSubmitProposalV1.codec submitProposalV1,
  .of "Vote" MsgVote.codec vote,
  .of "Deposit" MsgDeposit.codec deposit,
  .of "Unjail" MsgUnjail.codec unjail]

/-- The JSON form of a message: its case and its parameters. -/
def codec : Codec MsgParams := .union "MsgParams" "msg" "params" cases toCase

/-- The name of a message; both forms of a proposal share one. -/
def name : MsgParams → String
  | send _ => "MsgSend"
  | multiSend _ => "MsgMultiSend"
  | delegate _ => "MsgDelegate"
  | undelegate _ => "MsgUndelegate"
  | beginRedelegate _ => "MsgBeginRedelegate"
  | withdrawDelegatorReward _ => "MsgWithdrawDelegatorReward"
  | withdrawValidatorCommission _ => "MsgWithdrawValidatorCommission"
  | setWithdrawAddress _ => "MsgSetWithdrawAddress"
  | createValidator _ => "MsgCreateValidator"
  | editValidator _ => "MsgEditValidator"
  | submitProposal _ => "MsgSubmitProposal"
  | submitProposalV1 _ => "MsgSubmitProposal"
  | vote _ => "MsgVote"
  | deposit _ => "MsgDeposit"
  | unjail _ => "MsgUnjail"

end MsgParams

end ChainIndexer
