import ChainIndexer.Chain.Coin
import ChainIndexer.Rpc.Error

/-!
# Accounts

An account of the application is a JSON object that names its type. The types of the standard
modules are read as such; any other type is kept as it is, so that an unknown account is no error,
while a known type with a malformed body is one.
-/

namespace ChainIndexer

open Json (Codec Field Fields record Value)

/-! ## Parts -/

/-- What every account has: its address, its key and its numbers. -/
structure BaseAccount where
  address : String
  pubKey : Option Value
  accountNumber : UInt64
  sequence : UInt64

/-- The JSON form of the basic part of an account. -/
def BaseAccount.codec : Codec BaseAccount :=
  record "BaseAccount"
    (.cons (.required "address" address .string) <|
     .cons (.default "pub_key" pubKey (Codec.option .value) none) <|
     .cons (.default "account_number" accountNumber .stringUInt64 0) <|
     .cons (.default "sequence" sequence .stringUInt64 0) .nil)
    fun (address, pubKey, accountNumber, sequence, _) =>
      { address, pubKey, accountNumber, sequence }

/-- What every vesting account has; the end is in seconds of the epoch. -/
structure BaseVestingAccount where
  baseAccount : BaseAccount
  originalVesting : List Coin
  delegatedFree : List Coin
  delegatedVesting : List Coin
  endTime : Int64

/-- The JSON form of the vesting part of an account. -/
def BaseVestingAccount.codec : Codec BaseVestingAccount :=
  record "BaseVestingAccount"
    (.cons (.required "base_account" baseAccount BaseAccount.codec) <|
     .cons (.default "original_vesting" originalVesting Coin.codec.list []) <|
     .cons (.default "delegated_free" delegatedFree Coin.codec.list []) <|
     .cons (.default "delegated_vesting" delegatedVesting Coin.codec.list []) <|
     .cons (.default "end_time" endTime .stringInt64 0) .nil)
    fun (baseAccount, originalVesting, delegatedFree, delegatedVesting, endTime, _) =>
      { baseAccount, originalVesting, delegatedFree, delegatedVesting, endTime }

/-- A period of so many seconds after which an amount is free. -/
structure VestingPeriod where
  length : Int64
  amount : List Coin
  deriving DecidableEq, Repr

/-- The JSON form of a period. -/
def VestingPeriod.codec : Codec VestingPeriod :=
  record "VestingPeriod"
    (.cons (.required "length" length .stringInt64) <|
     .cons (.default "amount" amount Coin.codec.list []) .nil)
    fun (length, amount, _) => { length, amount }

/-! ## Bodies -/

/-- The account of a module of the application. -/
structure ModuleAccount where
  baseAccount : BaseAccount
  name : String
  permissions : List String

/-- The JSON form of a module's account. -/
def ModuleAccount.codec : Codec ModuleAccount :=
  record "ModuleWire"
    (.cons (.required "base_account" baseAccount BaseAccount.codec) <|
     .cons (.default "name" name .string "") <|
     .cons (.default "permissions" permissions Codec.string.list []) .nil)
    fun (baseAccount, name, permissions, _) => { baseAccount, name, permissions }

/-- An account whose amount becomes free steadily from a start on. -/
structure ContinuousVestingAccount where
  vesting : BaseVestingAccount
  startTime : Int64

/-- The JSON form of a steadily vesting account. -/
def ContinuousVestingAccount.codec : Codec ContinuousVestingAccount :=
  record "ContinuousWire"
    (.cons (.required "base_vesting_account" vesting BaseVestingAccount.codec) <|
     .cons (.default "start_time" startTime .stringInt64 0) .nil)
    fun (vesting, startTime, _) => { vesting, startTime }

/-- An account whose amount becomes free at its end. -/
structure DelayedVestingAccount where
  vesting : BaseVestingAccount

/-- The JSON form of an account that vests at its end. -/
def DelayedVestingAccount.codec : Codec DelayedVestingAccount :=
  record "DelayedWire"
    (.cons (.required "base_vesting_account" vesting BaseVestingAccount.codec) .nil)
    fun (vesting, _) => { vesting }

/-- An account whose amount becomes free period by period. -/
structure PeriodicVestingAccount where
  vesting : BaseVestingAccount
  startTime : Int64
  periods : List VestingPeriod

/-- The JSON form of a periodically vesting account. -/
def PeriodicVestingAccount.codec : Codec PeriodicVestingAccount :=
  record "PeriodicWire"
    (.cons (.required "base_vesting_account" vesting BaseVestingAccount.codec) <|
     .cons (.default "start_time" startTime .stringInt64 0) <|
     .cons (.default "vesting_periods" periods VestingPeriod.codec.list []) .nil)
    fun (vesting, startTime, periods, _) => { vesting, startTime, periods }

/-! ## Showing the parts

An account is shown with plain numbers, where its JSON form has texts. -/

/-- The basic part. -/
def BaseAccount.toValue (a : BaseAccount) : Value :=
  .ofList [("address", .string a.address), ("pub_key", a.pubKey.getD .null),
    ("account_number", .ofUInt64 a.accountNumber), ("sequence", .ofUInt64 a.sequence)]

def BaseVestingAccount.toValue (a : BaseVestingAccount) : Value :=
  let coins := Coin.codec.list.write
  .ofList [("base", a.baseAccount.toValue), ("original_vesting", coins a.originalVesting),
    ("delegated_free", coins a.delegatedFree), ("delegated_vesting", coins a.delegatedVesting),
    ("end_time", .ofInt64 a.endTime)]

def VestingPeriod.toValue (p : VestingPeriod) : Value :=
  .ofList [("length", .ofInt64 p.length), ("amount", Coin.codec.list.write p.amount)]

/-! ## Accounts -/

/-- An account. -/
inductive Account
  | base (account : BaseAccount)
  | module (account : ModuleAccount)
  | continuousVesting (account : ContinuousVestingAccount)
  | delayedVesting (account : DelayedVestingAccount)
  | periodicVesting (account : PeriodicVestingAccount)
  | unknown (typeUrl : String) (raw : Value)

namespace Account

/-- Reads the body of an account as one of the known types. -/
def readBody {α : Type} (typeUrl : String) (c : Codec α) (v : Value) : Except RpcError α :=
  (c.decode v).mapError fun e => .decode (typeUrl ++ ": " ++ e.message)

/-- Reads an account by the type it names. -/
def ofValue (v : Value) : Except RpcError Account :=
  match v.get? "@type" with
  | some (.string typeUrl) =>
    match typeUrl with
    | "/cosmos.auth.v1beta1.BaseAccount" => (readBody typeUrl BaseAccount.codec v).map base
    | "/cosmos.auth.v1beta1.ModuleAccount" => (readBody typeUrl ModuleAccount.codec v).map module
    | "/cosmos.vesting.v1beta1.ContinuousVestingAccount" =>
      (readBody typeUrl ContinuousVestingAccount.codec v).map continuousVesting
    | "/cosmos.vesting.v1beta1.DelayedVestingAccount" =>
      (readBody typeUrl DelayedVestingAccount.codec v).map delayedVesting
    | "/cosmos.vesting.v1beta1.PeriodicVestingAccount" =>
      (readBody typeUrl PeriodicVestingAccount.codec v).map periodicVesting
    | _ => .ok (unknown typeUrl v)
  | _ => .error (.decode "account without @type")

/-- The vesting part, when there is one. -/
def vesting? : Account → Option BaseVestingAccount
  | continuousVesting a => some a.vesting
  | delayedVesting a => some a.vesting
  | periodicVesting a => some a.vesting
  | _ => none

/-- The basic part, when the type is known. -/
def base? : Account → Option BaseAccount
  | base a => some a
  | module a => some a.baseAccount
  | a => a.vesting?.map BaseVestingAccount.baseAccount

/-- The address, when the type is known. -/
def address? (a : Account) : Option String := a.base?.map BaseAccount.address

/-- Part of the account's amount becomes free over time. -/
def isVesting (a : Account) : Bool := a.vesting?.isSome

/-! ## Showing an account -/

/-- The members that show the kind of an account and what it holds. -/
def members : Account → List (String × Value)
  | base b => [("kind", .string "Base"), ("base", b.toValue)]
  | module m => [("kind", .string "Module"), ("base", m.baseAccount.toValue),
    ("name", .string m.name), ("permissions", Codec.string.list.write m.permissions)]
  | continuousVesting a => [("kind", .string "ContinuousVesting"), ("vesting", a.vesting.toValue),
    ("start_time", .ofInt64 a.startTime)]
  | delayedVesting a => [("kind", .string "DelayedVesting"), ("vesting", a.vesting.toValue)]
  | periodicVesting a => [("kind", .string "PeriodicVesting"), ("vesting", a.vesting.toValue),
    ("start_time", .ofInt64 a.startTime), ("periods", .array (a.periods.map VestingPeriod.toValue))]
  | unknown typeUrl raw => [("kind", .string "Unknown"), ("type_url", .string typeUrl),
    ("raw", raw)]

/-- An account with its address and whether it is vesting. -/
def toValue (a : Account) : Value :=
  .ofList [("account", .ofList a.members), ("address", .ofOption .string a.address?),
    ("is_vesting", .bool a.isVesting)]

end Account

end ChainIndexer
