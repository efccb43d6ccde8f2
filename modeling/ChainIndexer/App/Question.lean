import ChainIndexer.App.Client

/-!
# Questions to the application

The questions that a client can be asked, as data, so that any sequence of them can be asked of one
client with one cache.
-/

namespace ChainIndexer.App

open Json (Value)

/-- A question to the application. -/
inductive Question
  | tx (hash : String)
  | account (address : String)
  | balances (address : String)
  | bondedBalance (address : String)
  | unbondingBalance (address : String)
  | totalRewards (address : String)
  | commission (validator : String)
  | validator (address : String)
  | proposal (id : UInt64)
  | proposalTally (id : UInt64)
  | govParams (kind : GovParamsKind)
  deriving DecidableEq, Repr

/-- What the application tells. -/
inductive Answer
  | tx (tx : Tx)
  | account (account : Account)
  | coins (coins : List Coin)
  | delegations (delegations : List Delegation)
  | unbonding (delegations : List UnbondingDelegation)
  | validator (validator : Option Validator)
  | proposal (proposal : Option Proposal)
  | tally (tally : TallyResult)
  | params (params : Value)

namespace Client

variable {σ : Type} (c : Client) (net : Network σ) (fuel : Nat)

def ask : Question → Query (Session σ) Answer
  | .tx hash => do return .tx (← c.tx net fuel hash)
  | .account address => do return .account (← c.account net fuel address)
  | .balances address => do return .coins (← c.balances net fuel address)
  | .bondedBalance address => do return .delegations (← c.bondedBalance net fuel address)
  | .unbondingBalance address => do return .unbonding (← c.unbondingBalance net fuel address)
  | .totalRewards address => do return .coins (← c.totalRewards net fuel address)
  | .commission validator => do return .coins (← c.commission net fuel validator)
  | .validator address => do return .validator (← c.validator net fuel address)
  | .proposal id => do return .proposal (← c.proposal net fuel id)
  | .proposalTally id => do return .tally (← c.proposalTally net fuel id)
  | .govParams kind => do return .params (← c.govParams net fuel kind)

/-- Asks questions one after the other and gives the answer or the failure of each; none while one
of them still goes on. -/
def askAll : List Question → Session σ → Option (List (Except RpcError Answer) × Session σ)
  | [], s => some ([], s)
  | q :: qs, s => do
    let (answer, s) ← c.ask net fuel q s
    let (answers, s) ← askAll qs s
    return (answer :: answers, s)

end Client

end ChainIndexer.App
