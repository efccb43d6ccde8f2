import ChainIndexer.App.Account
import ChainIndexer.App.Answers
import ChainIndexer.App.Gov
import ChainIndexer.App.Staking
import ChainIndexer.Http.Cache
import ChainIndexer.Http.Transport

/-!
# The application's client

Asks the application for transactions, accounts, balances, delegations, validators and governance.
A transaction is asked for once and is never kept; every other answer goes through the cache, under
its path and for a span that suits it. Lists come in pages, of which each names the next.
-/

namespace ChainIndexer.App

open Json (Codec Value)

variable {σ α : Type}

/-- A client of the application. -/
structure Client where
  transport : Transport
  deriving DecidableEq, Repr

/-- What the client's questions change: its cache, and the other end. -/
structure Session (σ : Type) where
  cache : Cache
  remote : σ

/-- A question that goes to the other end only. -/
def onRemote (q : Query σ α) : Query (Session σ) α := fun s =>
  (q s.remote).map fun (a, remote) => (a, { s with remote })

/-- Looks into the cache. -/
def lookUp (net : Network σ) (key : String) : Query (Session σ) (Option Value) := fun s =>
  let (found, cache) := s.cache.get (net.now s.remote) key
  some (.ok found, { s with cache })

def keep (net : Network σ) (key : String) (ttl : CacheTtl) (v : Value) : Query (Session σ) Unit :=
  fun s => some (.ok (), { s with cache := s.cache.insert (net.now s.remote) key ttl v })

/-- The kept answer, or a new one that is kept from now on. -/
def cached (net : Network σ) (key : String) (ttl : CacheTtl) (fetch : Query σ Value) :
    Query (Session σ) Value := do
  match ← lookUp net key with
  | some v => return v
  | none =>
    let v ← onRemote fetch
    keep net key ttl v
    return v

/-! ## Pages -/

/-- The items that a page has under a key. -/
def pageItems (field : String) (page : Value) : List Value :=
  ((page.get? field).bind Value.array?).getD []

def nextKey? (key : String) (page : Value) : Option String :=
  ((page.path? ["pagination", "next_key"]).bind Value.string?).filter fun next =>
    !next.isEmpty && next != key

/-- Asks for the pages from a key on; `items` holds the items of those before. -/
def pagesFrom (page : String → Query σ Value) (field : String) :
    Nat → String → List Value → Query σ (List Value)
  | 0, _, _ => .stillRunning
  | fuel + 1, key, items => do
    let v ← page key
    let items := items ++ pageItems field v
    match nextKey? key v with
    | some next => pagesFrom page field fuel next items
    | none => return items

/-! ## Reading answers -/

/-- Reads a value as typed data. -/
def readValue (c : Codec α) (v : Value) : Except RpcError α :=
  (c.decode v).mapError RpcError.ofDecode

def readMember (c : Codec α) (key : String) (v : Value) : Except RpcError α :=
  match v.get? key with
  | some x => readValue c x
  | none => .error (.deserialization ("missing /" ++ key))

/-- Reads a list that may be `null` or left out. -/
def readCoins (v : Option Value) : Except RpcError (List Coin) :=
  match v with
  | none => .ok []
  | some .null => .ok []
  | some v => readValue Coin.codec.list v

/-- Gives another error for what the application calls not found. -/
def onNotFound (other : RpcError) : RpcError → RpcError
  | .api code message => if code = RpcError.codeNotFound then other else .api code message
  | e => e

def mapError (f : RpcError → RpcError) (q : Query σ α) : Query σ α := fun s =>
  (q s).map fun (a, s) => (a.mapError f, s)

/-- Nothing instead of a failure that says that there is nothing. -/
def optional (q : Query σ α) : Query σ (Option α) := fun s =>
  (q s).map fun
    | (.ok a, s) => (.ok (some a), s)
    | (.error e, s) => (if e.isNotFound then .ok none else .error e, s)

namespace Client

def create (url : String) (config : HttpConfig) : Except RpcError Client :=
  (Transport.create url config).map Client.mk

def url (c : Client) : String := c.transport.base.text

variable (c : Client) (net : Network σ) (fuel : Nat)

def get (path : String) : Query σ Value := c.transport.getJson net fuel path []

/-- The document at a path, kept for a span. -/
def getCached (path : String) (ttl : CacheTtl) : Query (Session σ) Value :=
  cached net path ttl (c.get net fuel path)

def getPages (path field : String) : Query σ (List Value) :=
  pagesFrom (fun key => c.transport.getJson net fuel path [("pagination.key", key)]) field fuel
    "" []

/-- The items of all pages at a path, kept for the short span. -/
def getPagesCached (path field : String) : Query (Session σ) Value :=
  cached net path .short do return .array (← c.getPages net fuel path field)

/-! ## Transactions and accounts -/

/-- The transaction with a name. -/
def tx (hash : String) : Query (Session σ) Tx := do
  let v ← onRemote (c.get net fuel ("cosmos/tx/v1beta1/txs/" ++ hash))
  liftM (readValue App.tx v)

def account (address : String) : Query (Session σ) Account := do
  let v ← mapError (onNotFound (.accountNotFound address))
    (c.getCached net fuel ("cosmos/auth/v1beta1/accounts/" ++ address) .short)
  let v ← liftM (readMember .value "account" v)
  liftM (Account.ofValue v)

/-- What an account holds. -/
def balances (address : String) : Query (Session σ) (List Coin) := do
  let v ← c.getPagesCached net fuel ("cosmos/bank/v1beta1/balances/" ++ address) "balances"
  liftM (readValue Coin.codec.list v)

/-! ## Staking -/

/-- What an account has delegated. -/
def bondedBalance (address : String) : Query (Session σ) (List Delegation) := do
  let v ← mapError (onNotFound (.accountNoDelegation address))
    (c.getPagesCached net fuel ("cosmos/staking/v1beta1/delegations/" ++ address)
      "delegation_responses")
  liftM (readValue Delegation.answerCodec.list v)

/-- What of an account's delegations is on its way out. -/
def unbondingBalance (address : String) : Query (Session σ) (List UnbondingDelegation) := do
  let v ← mapError (onNotFound (.accountNoDelegation address))
    (c.getPagesCached net fuel
      ("cosmos/staking/v1beta1/delegators/" ++ address ++ "/unbonding_delegations")
      "unbonding_responses")
  liftM (readValue UnbondingDelegation.codec.list v)

def totalRewards (address : String) : Query (Session σ) (List Coin) := do
  let v ← mapError (onNotFound (.accountNoDelegation address))
    (c.getCached net fuel
      ("cosmos/distribution/v1beta1/delegators/" ++ address ++ "/rewards") .short)
  liftM (readCoins (v.get? "total"))

def commission (validator : String) : Query (Session σ) (List Coin) := do
  let v ← c.getCached net fuel
    ("cosmos/distribution/v1beta1/validators/" ++ validator ++ "/commission") .short
  liftM (readCoins (v.path? ["commission", "commission"]))

def validator (address : String) : Query (Session σ) (Option Validator) := do
  match ← optional
    (c.getCached net fuel ("cosmos/staking/v1beta1/validators/" ++ address) .long) with
  | some v => return some (← liftM (readMember Validator.codec "validator" v))
  | none => return none

/-! ## Governance -/

def proposalPath (id : UInt64) : String :=
  "cosmos/gov/v1beta1/proposals/" ++ Numeral.natural id.toNat

/-- The proposal with a number; one that does not change any more is kept for the long span. -/
def proposal (id : UInt64) : Query (Session σ) (Option Proposal) := do
  let path := proposalPath id
  match ← lookUp net path with
  | some v => return some (← liftM (readMember Proposal.codec "proposal" v))
  | none =>
    match ← optional (onRemote (c.get net fuel path)) with
    | none => return none
    | some v =>
      let p ← liftM (readMember Proposal.codec "proposal" v)
      keep net path (if p.isFinal then .long else .short) v
      return some p

def proposalTally (id : UInt64) : Query (Session σ) TallyResult := do
  let v ← c.getCached net fuel (proposalPath id ++ "/tally") .short
  liftM (readMember TallyResult.codec "tally" v)

/-- A section of the governance parameters. -/
def govParams (kind : GovParamsKind) : Query (Session σ) Value :=
  c.getCached net fuel ("cosmos/gov/v1beta1/params/" ++ kind.name) .long

end Client

end ChainIndexer.App
