import ChainIndexer.Command.Basic

/-!
# Carrying out commands

Each command yields the event that tells what happened. A message is read as the parameters of its
kind and checked: addresses first, in the order in which they stand, then the denomination, then
what comes from the execution log.
-/

namespace ChainIndexer

open Json (Value Codec)

/-! ## Messages -/

namespace MsgCommand

/-- Reads the message as parameters. -/
def params {α : Type} (m : MsgCommand) (c : Codec α) : Except CommandFault α :=
  (c.decode m.msg).mapError .decode

def account (m : MsgCommand) (address : String) : Except CommandFault Unit :=
  (m.context.prefixes.checkAccount address).mapError .address

def validator (m : MsgCommand) (address : String) : Except CommandFault Unit :=
  (m.context.prefixes.checkValidator address).mapError .address

/-- Checks that a coin is of the staking denomination. -/
def stakingCoin (m : MsgCommand) (coin : Coin) : Except CommandFault Unit :=
  let wanted := m.context.stakingDenom
  if wanted.isEmpty || coin.denom == wanted then .ok () else .error (.denom wanted coin.denom)

/-- Coins named by the events of a kind. -/
def amounts (m : MsgCommand) (kind : String) : Except CommandFault (List Coin) :=
  (AbciEvent.collectCoins m.events kind "amount").mapError .coins

/-- The rewards that were paid out with the message. -/
def claimedRewards (m : MsgCommand) : Except CommandFault (List Coin) :=
  m.amounts "withdraw_rewards"

/-- The completion time named by the first event of a kind that has one. -/
def completionTime (m : MsgCommand) (kind : String) : Except CommandFault (Option Time) :=
  match AbciEvent.findAttribute? m.events kind "completion_time" with
  | none => .ok none
  | some s => ((Time.readExact s).mapError (.timestamp s)).map some

/-- A number in an attribute, the empty text being zero. -/
def readNumber (s : String) : Except NumeralError UInt64 :=
  if s.isEmpty then .ok 0 else Numeral.readUInt64 s

/-- The proposal number named by the first event that has one. -/
def proposalId (m : MsgCommand) : Except CommandFault (Option UInt64) :=
  match AbciEvent.findAttribute? m.events "submit_proposal" "proposal_id" with
  | none => .ok none
  | some s => ((readNumber s).mapError (.proposalId s)).map some

/-- The parameters of the message, checked, with what the execution log adds. -/
def decode (m : MsgCommand) : Except CommandFault MsgParams :=
  match m.kind with
  | .send => do
    let p ← m.params MsgSend.codec
    m.account p.fromAddress
    m.account p.toAddress
    return .send p
  | .multiSend => do
    let p ← m.params MsgMultiSend.codec
    (p.inputs ++ p.outputs).forM fun entry => m.account entry.address
    return .multiSend p
  | .delegate => do
    let p ← m.params MsgDelegate.codec
    m.account p.delegatorAddress
    m.validator p.validatorAddress
    m.stakingCoin p.amount
    let autoClaimedRewards ← m.claimedRewards
    return .delegate { p with autoClaimedRewards }
  | .undelegate => do
    let p ← m.params MsgUndelegate.codec
    m.account p.delegatorAddress
    m.validator p.validatorAddress
    m.stakingCoin p.amount
    let completionTime ← m.completionTime "unbond"
    let autoClaimedRewards ← m.claimedRewards
    return .undelegate { p with completionTime, autoClaimedRewards }
  | .beginRedelegate => do
    let p ← m.params MsgBeginRedelegate.codec
    m.account p.delegatorAddress
    m.validator p.validatorSrcAddress
    m.validator p.validatorDstAddress
    m.stakingCoin p.amount
    let completionTime ← m.completionTime "redelegate"
    let autoClaimedRewards ← m.claimedRewards
    return .beginRedelegate { p with completionTime, autoClaimedRewards }
  | .withdrawDelegatorReward => do
    let p ← m.params MsgWithdrawDelegatorReward.codec
    m.account p.delegatorAddress
    m.validator p.validatorAddress
    let amount ← m.claimedRewards
    return .withdrawDelegatorReward { p with amount }
  | .withdrawValidatorCommission => do
    let p ← m.params MsgWithdrawValidatorCommission.codec
    m.validator p.validatorAddress
    let amount ← m.amounts "withdraw_commission"
    return .withdrawValidatorCommission { p with amount }
  | .setWithdrawAddress => do
    let p ← m.params MsgSetWithdrawAddress.codec
    m.account p.delegatorAddress
    m.account p.withdrawAddress
    return .setWithdrawAddress p
  | .createValidator => do
    let p ← m.params MsgCreateValidator.codec
    if !p.delegatorAddress.isEmpty then m.account p.delegatorAddress
    m.validator p.validatorAddress
    m.stakingCoin p.value
    return .createValidator p
  | .editValidator => do
    let p ← m.params MsgEditValidator.codec
    m.validator p.validatorAddress
    return .editValidator p
  | .submitProposal => do
    let proposalId ← m.proposalId
    if 2 ≤ m.version then
      let p ← m.params MsgSubmitProposalV1.codec
      m.account p.proposer
      return .submitProposalV1 { p with proposalId }
    else
      let p ← m.params MsgSubmitProposal.codec
      m.account p.proposer
      return .submitProposal { p with proposalId }
  | .vote => do
    let p ← m.params MsgVote.codec
    m.account p.voter
    return .vote p
  | .deposit => do
    let p ← m.params MsgDeposit.codec
    m.account p.depositor
    return .deposit p
  | .unjail => do
    let p ← m.params MsgUnjail.codec
    m.validator p.validatorAddr
    return .unjail p
  | .unknown => .error .unknownMessage

/-- The payload of the message's event. -/
def payload (m : MsgCommand) : Except CommandFault Payload :=
  m.decode.map fun params => .msg ⟨m.base, params⟩

end MsgCommand

/-! ## Blocks and transactions -/

def Block.created (b : Block) : BlockCreated where
  hash := b.hash
  time := b.header.time
  proposerAddress := b.header.proposerAddress
  appHash := b.header.appHash
  txCount := UInt64.ofNat b.txs.length
  signatures := b.signatures
  evidenceCount := b.evidenceCount

/-- The type URL of a message; empty where it names none. -/
def messageType (msg : Value) : String := ((msg.get? "@type").bind Value.string?).getD ""

def Tx.created (tx : Tx) : TransactionCreated where
  hash := tx.hash
  index := tx.index
  success := tx.isSuccess
  code := tx.result.code
  codespace := tx.result.codespace
  log := tx.result.rawLog
  fee := tx.authInfo.fee
  gasWanted := tx.result.gasWanted
  gasUsed := tx.result.gasUsed
  memo := tx.body.memo
  timeoutHeight := tx.body.timeoutHeight
  messageTypes := tx.body.messages.map messageType
  time := tx.result.timestamp

/-! ## Block-level events -/

namespace BlockEventKind

/-- The value of a key that must be there. -/
def required (e : AbciEvent) (key : String) : Except CommandFault String :=
  match e.attribute? key with
  | some v => .ok v
  | none => .error (.missing e.kind key)

/-- The coins of the amount, none where there is no amount. -/
def coins (e : AbciEvent) : Except CommandFault (List Coin) :=
  (Coin.parseList ((e.attribute? "amount").getD "")).mapError .coins

/-- The validator and the amount of a reward. -/
def reward (e : AbciEvent) : Except CommandFault BlockReward := do
  let validator ← required e "validator"
  let amount ← coins e
  return { validator, amount }

/-- The validator that a penalty is for; an event that only jails names it under another key. -/
def slashed (e : AbciEvent) : Except CommandFault String :=
  match e.attribute? "address" <|> e.attribute? "jailed" with
  | some address => .ok address
  | none => .error .slashTarget

def payload (kind : BlockEventKind) (e : AbciEvent) : Except CommandFault Payload :=
  let text (key : String) := (e.attribute? key).getD ""
  match kind with
  | mint => do
    let amount ← required e "amount"
    return .mintMinted
      { bondedRatio := text "bonded_ratio", inflation := text "inflation",
        annualProvisions := text "annual_provisions", amount }
  | proposerReward => (reward e).map .blockProposerRewarded
  | rewards => (reward e).map .blockRewarded
  | commission => (reward e).map .blockCommissioned
  | slash => do
    let address ← slashed e
    return .validatorSlashed
      { address, power := text "power", reason := text "reason",
        jailed := e.attribute? "jailed", burned := e.attribute? "burned_coins" }
  | completeUnbonding => do
    let delegator ← required e "delegator"
    let validator ← required e "validator"
    let amount ← coins e
    return .unbondingCompleted { delegator, validator, amount }

end BlockEventKind

/-! ## All commands -/

namespace Command

/-- What a command's event tells. -/
def payload : Command → Except CommandFault Payload
  | genesis g => .ok (.genesisCreated g)
  | genesisValidator v => .ok (.genesisValidatorCreated v)
  | genesisBalance b => .ok (.genesisAccountBalanceCreated b)
  | block b => .ok (.blockCreated b.created)
  | transaction _ tx =>
    .ok (if tx.isSuccess then .transactionCreated tx.created else .transactionFailed tx.created)
  | msg m => m.payload
  | blockEvent _ kind event => kind.payload event
  | changePower _ u => .ok (.powerChanged ⟨u.pubKeyType, u.pubKey, u.power⟩)

def execute (c : Command) : Except CommandError Event :=
  match c.payload with
  | .ok payload => .ok (.of c.height c.version payload)
  | .error fault => .error ⟨c.name, c.version, fault⟩

end Command

end ChainIndexer
