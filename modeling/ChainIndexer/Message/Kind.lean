/-!
# Kinds of messages
-/

namespace ChainIndexer

/-- The kinds of messages that are told apart. -/
inductive MsgKind
  | send
  | multiSend
  | delegate
  | undelegate
  | beginRedelegate
  | withdrawDelegatorReward
  | withdrawValidatorCommission
  | setWithdrawAddress
  | createValidator
  | editValidator
  | submitProposal
  | vote
  | deposit
  | unjail
  | unknown
  deriving DecidableEq, Repr

namespace MsgKind

def commandName : MsgKind → String
  | send => "CreateMsgSend"
  | multiSend => "CreateMsgMultiSend"
  | delegate => "CreateMsgDelegate"
  | undelegate => "CreateMsgUndelegate"
  | beginRedelegate => "CreateMsgBeginRedelegate"
  | withdrawDelegatorReward => "CreateMsgWithdrawDelegatorReward"
  | withdrawValidatorCommission => "CreateMsgWithdrawValidatorCommission"
  | setWithdrawAddress => "CreateMsgSetWithdrawAddress"
  | createValidator => "CreateMsgCreateValidator"
  | editValidator => "CreateMsgEditValidator"
  | submitProposal => "CreateMsgSubmitProposal"
  | vote => "CreateMsgVote"
  | deposit => "CreateMsgDeposit"
  | unjail => "CreateMsgUnjail"
  | unknown => "CreateMsgUnknown"

def all : List MsgKind := [send, multiSend, delegate, undelegate, beginRedelegate,
  withdrawDelegatorReward, withdrawValidatorCommission, setWithdrawAddress, createValidator,
  editValidator, submitProposal, vote, deposit, unjail, unknown]

/-- The name of a kind: that of its command without the verb. -/
def name : MsgKind → String
  | send => "Send"
  | multiSend => "MultiSend"
  | delegate => "Delegate"
  | undelegate => "Undelegate"
  | beginRedelegate => "BeginRedelegate"
  | withdrawDelegatorReward => "WithdrawDelegatorReward"
  | withdrawValidatorCommission => "WithdrawValidatorCommission"
  | setWithdrawAddress => "SetWithdrawAddress"
  | createValidator => "CreateValidator"
  | editValidator => "EditValidator"
  | submitProposal => "SubmitProposal"
  | vote => "Vote"
  | deposit => "Deposit"
  | unjail => "Unjail"
  | unknown => "Unknown"

def ofName? (name : String) : Option MsgKind := all.find? fun k => k.name == name

end MsgKind

end ChainIndexer
