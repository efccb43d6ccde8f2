import ChainIndexer.Chain.Block
import ChainIndexer.Message.Params

/-!
# Staking

What the application tells about delegations, unbonding delegations and validators.
-/

namespace ChainIndexer

open Json (Codec Field Fields record Value)

/-! ## Delegations -/

/-- A delegation and what it is worth. -/
structure Delegation where
  delegatorAddress : String
  validatorAddress : String
  shares : String
  balance : Coin
  deriving DecidableEq, Repr

namespace Delegation

/-- The JSON form of a delegation. -/
def codec : Codec Delegation :=
  record "Delegation"
    (.cons (.required "delegator_address" delegatorAddress .string) <|
     .cons (.required "validator_address" validatorAddress .string) <|
     .cons (.required "shares" shares .string) <|
     .cons (.required "balance" balance Coin.codec) .nil)
    fun (delegatorAddress, validatorAddress, shares, balance, _) =>
      { delegatorAddress, validatorAddress, shares, balance }

/-- The form in which the parties and the shares of a delegation stand in an answer. -/
def partiesCodec : Codec (String × String × String) :=
  record "DelegationWire"
    (.cons (.required "delegator_address" Prod.fst .string) <|
     .cons (.required "validator_address" (fun d => d.2.1) .string) <|
     .cons (.default "shares" (fun d => d.2.2) .string "") .nil)
    fun (delegator, validator, shares, _) => (delegator, validator, shares)

/-- The form of a delegation in an answer: the worth stands beside the delegation. -/
def answerCodec : Codec Delegation :=
  record "DelegationResponseWire"
    (.cons (.required "delegation"
        (fun d => (d.delegatorAddress, d.validatorAddress, d.shares)) partiesCodec) <|
     .cons (.required "balance" balance Coin.codec) .nil)
    fun ((delegatorAddress, validatorAddress, shares), balance, _) =>
      { delegatorAddress, validatorAddress, shares, balance }

end Delegation

/-! ## Unbonding delegations -/

/-- An amount on its way out of a delegation. -/
structure UnbondingEntry where
  creationHeight : Height
  completionTime : Time
  initialBalance : String
  balance : String
  deriving DecidableEq, Repr

/-- The JSON form of an entry. -/
def UnbondingEntry.codec : Codec UnbondingEntry :=
  record "UnbondingEntry"
    (.cons (.required "creation_height" creationHeight .stringUInt64) <|
     .cons (.required "completion_time" completionTime .time) <|
     .cons (.required "initial_balance" initialBalance .string) <|
     .cons (.required "balance" balance .string) .nil)
    fun (creationHeight, completionTime, initialBalance, balance, _) =>
      { creationHeight, completionTime, initialBalance, balance }

/-- A delegation of which amounts are on their way out. -/
structure UnbondingDelegation where
  delegatorAddress : String
  validatorAddress : String
  entries : List UnbondingEntry
  deriving DecidableEq, Repr

namespace UnbondingDelegation

/-- The JSON form of an unbonding delegation. -/
def codec : Codec UnbondingDelegation :=
  record "UnbondingDelegation"
    (.cons (.required "delegator_address" delegatorAddress .string) <|
     .cons (.required "validator_address" validatorAddress .string) <|
     .cons (.default "entries" entries UnbondingEntry.codec.list []) .nil)
    fun (delegatorAddress, validatorAddress, entries, _) =>
      { delegatorAddress, validatorAddress, entries }

def amount? (s : String) : Option Nat :=
  (Numeral.readNatural 0xFFFFFFFFFFFFFFFFFFFFFFFFFFFFFFFF s.toList).toOption

/-- The sum of the entries' balances, modulo `2 ^ 128`; a balance that is no amount does not
count. -/
def totalBalance (u : UnbondingDelegation) : Nat :=
  Numeral.total (u.entries.filterMap fun e => amount? e.balance)
    % 0x100000000000000000000000000000000

end UnbondingDelegation

/-! ## Validators -/

/-- How a validator describes itself; every part may be left out. -/
def ValidatorDescription.lenientCodec : Codec ValidatorDescription :=
  record "ValidatorDescriptionWire"
    (.cons (.default "moniker" moniker .string "") <|
     .cons (.default "identity" identity .string "") <|
     .cons (.default "website" website .string "") <|
     .cons (.default "security_contact" securityContact .string "") <|
     .cons (.default "details" details .string "") .nil)
    fun (moniker, identity, website, securityContact, details, _) =>
      { moniker, identity, website, securityContact, details }

/-- A validator's commission and when it was set. -/
structure ValidatorCommission where
  rates : CommissionRates
  updateTime : Option Time
  deriving DecidableEq, Repr

/-- The JSON form of a validator's commission. -/
def ValidatorCommission.codec : Codec ValidatorCommission :=
  record "ValidatorCommission"
    (.cons (.required "commission_rates" rates (CommissionRates.form "CommissionRatesWire")) <|
     .cons (.default "update_time" updateTime (Codec.option .time) none) .nil)
    fun (rates, updateTime, _) => { rates, updateTime }

/-- A validator. -/
structure Validator where
  operatorAddress : String
  consensusPubkey : Value
  jailed : Bool
  status : String
  tokens : String
  delegatorShares : String
  description : ValidatorDescription
  unbondingHeight : Height
  commission : ValidatorCommission
  minSelfDelegation : String

/-- The JSON form of a validator. -/
def Validator.codec : Codec Validator :=
  record "Validator"
    (.cons (.required "operator_address" operatorAddress .string) <|
     .cons (.default "consensus_pubkey" consensusPubkey .value .null) <|
     .cons (.default "jailed" jailed .bool false) <|
     .cons (.required "status" status .string) <|
     .cons (.required "tokens" tokens .string) <|
     .cons (.required "delegator_shares" delegatorShares .string) <|
     .cons (.required "description" description ValidatorDescription.lenientCodec) <|
     .cons (.default "unbonding_height" unbondingHeight .stringUInt64 0) <|
     .cons (.required "commission" commission ValidatorCommission.codec) <|
     .cons (.default "min_self_delegation" minSelfDelegation .string "") .nil)
    fun (operatorAddress, consensusPubkey, jailed, status, tokens, delegatorShares, description,
        unbondingHeight, commission, minSelfDelegation, _) =>
      { operatorAddress, consensusPubkey, jailed, status, tokens, delegatorShares, description,
        unbondingHeight, commission, minSelfDelegation }

end ChainIndexer
