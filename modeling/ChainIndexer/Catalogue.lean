import ChainIndexer.App.Gov
import ChainIndexer.App.Staking
import ChainIndexer.Chain.Genesis
import ChainIndexer.Chain.Tx
import ChainIndexer.Config.Basic
import ChainIndexer.Event.Payload
import ChainIndexer.Message.Params
import ChainIndexer.Node.Answers
import ChainIndexer.Sync.State

/-!
# The catalogue of types

Every type that has a JSON form of its own, by its name. To normalise a value is to read it as one
of these types and to write it again: defaults are filled in, unknown keys are dropped.
-/

namespace ChainIndexer.Catalogue

open Json (Codec DecodeError Value)

/-- Reads a value as a type and writes it again. -/
def normalised {α : Type} (c : Codec α) (v : Value) : Except DecodeError Value :=
  (c.decode v).map c.write

def types : List (String × (Value → Except DecodeError Value)) := [
  ("Event", normalised Event.codec), ("EventPayload", normalised Payload.codec),
  ("MsgParams", normalised MsgParams.codec), ("MsgEvent", normalised MsgEvent.codec),
  ("Block", normalised Block.codec), ("BlockResults", normalised BlockResults.codec),
  ("SyncState", normalised SyncState.codec), ("BlockHeader", normalised BlockHeader.codec),
  ("CommitSignature", normalised CommitSignature.codec), ("RawTx", normalised RawTx.codec),
  ("AbciAttribute", normalised Attribute.codec), ("AbciEvent", normalised AbciEvent.codec),
  ("TxResult", normalised TxResult.codec), ("ValidatorUpdate", normalised ValidatorUpdate.codec),
  ("Coin", normalised Coin.codec), ("Fee", normalised Fee.codec),
  ("SignerInfo", normalised SignerInfo.codec), ("TxBody", normalised TxBody.codec),
  ("AuthInfo", normalised AuthInfo.codec), ("MessageLog", normalised MessageLog.codec),
  ("TxExecution", normalised TxExecution.codec), ("Tx", normalised Tx.codec),
  ("Genesis", normalised Genesis.codec), ("ChainStatus", normalised ChainStatus.codec),
  ("MsgBase", normalised MsgBase.codec), ("MsgSendParams", normalised MsgSend.codec),
  ("MultiSendEntry", normalised MultiSendEntry.codec),
  ("MsgMultiSendParams", normalised MsgMultiSend.codec),
  ("MsgDelegateParams", normalised MsgDelegate.codec),
  ("MsgUndelegateParams", normalised MsgUndelegate.codec),
  ("MsgBeginRedelegateParams", normalised MsgBeginRedelegate.codec),
  ("ValidatorDescription", normalised ValidatorDescription.codec),
  ("CommissionRates", normalised CommissionRates.codec),
  ("MsgCreateValidatorParams", normalised MsgCreateValidator.codec),
  ("MsgEditValidatorParams", normalised MsgEditValidator.codec),
  ("MsgWithdrawDelegatorRewardParams", normalised MsgWithdrawDelegatorReward.codec),
  ("MsgWithdrawValidatorCommissionParams", normalised MsgWithdrawValidatorCommission.codec),
  ("MsgSetWithdrawAddressParams", normalised MsgSetWithdrawAddress.codec),
  ("MsgSubmitProposalParams", normalised MsgSubmitProposal.codec),
  ("MsgSubmitProposalV1Params", normalised MsgSubmitProposalV1.codec),
  ("MsgVoteParams", normalised MsgVote.codec), ("MsgDepositParams", normalised MsgDeposit.codec),
  ("MsgUnjailParams", normalised MsgUnjail.codec),
  ("GenesisCreated", normalised GenesisCreated.codec),
  ("GenesisValidatorCreated", normalised GenesisValidatorCreated.codec),
  ("GenesisAccountBalanceCreated", normalised GenesisAccountBalanceCreated.codec),
  ("BlockCreated", normalised BlockCreated.codec),
  ("TransactionCreated", normalised TransactionCreated.codec),
  ("MintMinted", normalised MintMinted.codec), ("BlockReward", normalised BlockReward.codec),
  ("ValidatorSlashed", normalised ValidatorSlashed.codec),
  ("UnbondingCompleted", normalised UnbondingCompleted.codec),
  ("PowerChanged", normalised PowerChanged.codec), ("SyncConfig", normalised SyncConfig.codec),
  ("LogConfig", normalised LogConfig.codec),
  ("JsonRpcError", normalised JsonRpcError.codec), ("Delegation", normalised Delegation.codec),
  ("UnbondingEntry", normalised UnbondingEntry.codec),
  ("UnbondingDelegation", normalised UnbondingDelegation.codec),
  ("ValidatorCommission", normalised ValidatorCommission.codec),
  ("Validator", normalised Validator.codec), ("TallyResult", normalised TallyResult.codec),
  ("Proposal", normalised Proposal.codec)]

/-- Normalises a value of the named type, if there is such a type. -/
def normalise? (type : String) (v : Value) : Option (Except DecodeError Value) :=
  (types.lookup type).map fun normalise => normalise v

end ChainIndexer.Catalogue
