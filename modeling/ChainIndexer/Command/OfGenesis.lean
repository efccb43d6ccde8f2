import ChainIndexer.Chain.Genesis
import ChainIndexer.Command.OfBlock

/-!
# The commands of a genesis document

In order: the start of the chain, the validators of the staking state, the validators that genesis
transactions create (an operator counts once), and the balances. What is malformed is passed over,
or refused when the configuration is strict; what is absent or `null` is neither.
-/

namespace ChainIndexer

open Json (Codec Field Fields record Value)

namespace Genesis

/-! ## Entries -/

/-- A validator of the staking state. -/
structure StakingValidator where
  operatorAddress : String
  consensusPubkey : Value
  jailed : Bool
  tokens : String
  description : ValidatorDescription
  commission : CommissionRates
  minSelfDelegation : String

/-- The commission of a validator of the staking state. -/
def stakingCommissionCodec : Codec CommissionRates :=
  record "StakingCommission"
    (.cons (.required "commission_rates" id CommissionRates.codec) .nil)
    fun (rates, _) => rates

/-- The JSON form of a validator of the staking state. -/
def StakingValidator.codec : Codec StakingValidator :=
  record "StakingValidator"
    (.cons (.required "operator_address" operatorAddress .string) <|
     .cons (.default "consensus_pubkey" consensusPubkey .value .null) <|
     .cons (.default "jailed" jailed .bool false) <|
     .cons (.default "tokens" tokens .string "") <|
     .cons (.default "description" description ValidatorDescription.codec {}) <|
     .cons (.required "commission" commission stakingCommissionCodec) <|
     .cons (.default "min_self_delegation" minSelfDelegation .string "") .nil)
    fun (operatorAddress, consensusPubkey, jailed, tokens, description, commission,
        minSelfDelegation, _) =>
      { operatorAddress, consensusPubkey, jailed, tokens, description, commission,
        minSelfDelegation }

/-- The JSON form of a genesis transaction's body: its messages. -/
def genTxBodyCodec : Codec (List Value) :=
  record "GenTxBody"
    (.cons (.default "messages" id Codec.value.list []) .nil)
    fun (messages, _) => messages

/-- The JSON form of a genesis transaction: its messages. -/
def genTxCodec : Codec (List Value) :=
  record "GenTx"
    (.cons (.required "body" id genTxBodyCodec) .nil)
    fun (messages, _) => messages

/-- The JSON form of a balance. -/
def balanceCodec : Codec GenesisAccountBalanceCreated :=
  record "Balance"
    (.cons (.required "address" GenesisAccountBalanceCreated.address .string) <|
     .cons (.default "coins" GenesisAccountBalanceCreated.coins Coin.codec.list []) .nil)
    fun (address, coins, _) => { address, coins }

/-! ## Strictness -/

/-- An item that may be malformed: passed over, or refused when the configuration is strict. -/
def accept {α : Type} (config : ParserConfig) (place : GenesisSection) :
    Except GenesisFault α → Except ParseError (Option α)
  | .ok a => .ok (some a)
  | .error fault => if config.strictGenesis then .error (.genesis place fault) else .ok none

def entries {α : Type} (config : ParserConfig) (state : Value) (place : GenesisSection)
    (c : Codec α) : Except ParseError (List α) :=
  match state.path? place.path with
  | none => .ok []
  | some .null => .ok []
  | some v => (accept config place ((c.list.decode v).mapError .decode)).map fun r => r.getD []

/-! ## Commands -/

def stakingCommand (v : StakingValidator) : Command :=
  .genesisValidator
    { operatorAddress := v.operatorAddress
      delegatorAddress := ""
      consensusPubkey := v.consensusPubkey
      description := v.description
      commission := v.commission
      minSelfDelegation := v.minSelfDelegation
      tokens := v.tokens
      jailed := v.jailed }

/-- The commands of the staking state, and the operators that they name. -/
def stakingCommands (config : ParserConfig) :
    List StakingValidator → Except ParseError (List Command × List String)
  | [] => .ok ([], [])
  | v :: vs => do
    let checked := (config.prefixes.checkValidator v.operatorAddress).mapError .address
    let accepted ← accept config .validators checked
    let (commands, operators) ← stakingCommands config vs
    if accepted.isSome then return (stakingCommand v :: commands, v.operatorAddress :: operators)
    else return (commands, operators)

/-- The type of the message with which a genesis transaction creates a validator. -/
def createValidatorType : String := "/cosmos.staking.v1beta1.MsgCreateValidator"

/-- A message that creates a validator with a valid operator. -/
def createdValidator (config : ParserConfig) (msg : Value) :
    Except GenesisFault MsgCreateValidator := do
  let p ← (MsgCreateValidator.codec.decode msg).mapError .decode
  (config.prefixes.checkValidator p.validatorAddress).mapError .address
  return p

/-- The command of a validator that a genesis transaction creates. -/
def genTxCommand (p : MsgCreateValidator) : Command :=
  .genesisValidator
    { operatorAddress := p.validatorAddress
      delegatorAddress := p.delegatorAddress
      consensusPubkey := p.pubkey
      description := p.description
      commission := p.commission
      minSelfDelegation := p.minSelfDelegation
      tokens := p.value.amount
      jailed := false }

/-- The commands of the messages of genesis transactions; `seen` holds the operators so far. -/
def genTxCommands (config : ParserConfig) (seen : List String) :
    List Value → Except ParseError (List Command)
  | [] => .ok []
  | msg :: msgs => do
    if (msg.get? "@type").bind Value.string? ≠ some createValidatorType then
      genTxCommands config seen msgs
    else match ← accept config .genTxs (createdValidator config msg) with
      | none => genTxCommands config seen msgs
      | some p =>
        if seen.contains p.validatorAddress then genTxCommands config seen msgs
        else
          let rest ← genTxCommands config (p.validatorAddress :: seen) msgs
          return genTxCommand p :: rest

def balanceCommands (config : ParserConfig) :
    List GenesisAccountBalanceCreated → Except ParseError (List Command)
  | [] => .ok []
  | b :: bs => do
    let accepted ←
      accept config .balances ((config.prefixes.checkAccount b.address).mapError .address)
    let rest ← balanceCommands config bs
    if accepted.isSome then return .genesisBalance b :: rest else return rest

def commands (config : ParserConfig) (g : Genesis) : Except ParseError (List Command) := do
  let validators ← entries config g.appState .validators StakingValidator.codec
  let (staking, operators) ← stakingCommands config validators
  let genTxs ← entries config g.appState .genTxs genTxCodec
  let created ← genTxCommands config operators genTxs.flatten
  let balances ← entries config g.appState .balances balanceCodec
  let held ← balanceCommands config balances
  let start : GenesisCreated := ⟨g.chainId, g.genesisTime, g.initialHeight⟩
  return .genesis start :: staking ++ created ++ held

end Genesis

end ChainIndexer
