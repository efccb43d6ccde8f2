import ChainIndexer.Chain.Block
import ChainIndexer.Message.Kind

/-!
# Routes of message types

A message names its type by a URL. What a type means may change with an upgrade of the chain, so a
route holds from a protocol version on, and a schedule says which protocol version is active at a
height.

* `UpgradeSchedule.versionAt` is the version of the last upgrade at or below a height.
* `Registry.resolve` is the route with the greatest `since` that the active version has reached.
-/

namespace ChainIndexer

/-! ## Upgrades -/

/-- The upgrades of a chain by ascending height. -/
structure UpgradeSchedule where
  upgrades : List (Height × UInt32) := []

namespace UpgradeSchedule

/-- Sets the version of a height in an ascending list. -/
def insert (height : Height) (version : UInt32) :
    List (Height × UInt32) → List (Height × UInt32)
  | [] => [(height, version)]
  | (h, v) :: rest =>
    if height < h then (height, version) :: (h, v) :: rest
    else if height = h then (height, version) :: rest
    else (h, v) :: insert height version rest

/-- A version becomes active at a height. -/
def withUpgrade (s : UpgradeSchedule) (height : Height) (version : UInt32) : UpgradeSchedule :=
  ⟨insert height version s.upgrades⟩

/-- The upgrades of a list, later ones replacing earlier ones of the same height. -/
def ofList (upgrades : List (Height × UInt32)) : UpgradeSchedule :=
  upgrades.foldl (fun s u => s.withUpgrade u.1 u.2) {}

/-- The protocol version that is active at a height; zero before the first upgrade. -/
def versionAt (s : UpgradeSchedule) (height : Height) : UInt32 :=
  match (s.upgrades.takeWhile fun u => u.1 ≤ height).getLast? with
  | some u => u.2
  | none => 0

end UpgradeSchedule

/-! ## Routes -/

/-- The kind of a message and the version of its command. -/
structure Route where
  kind : MsgKind
  version : UInt32
  deriving DecidableEq, Repr

/-- Where a message of an unknown type goes. -/
def Route.unknown : Route := ⟨.unknown, 0⟩

/-- A route and the protocol version from which it holds. -/
structure RouteEntry where
  since : UInt32
  route : Route
  deriving DecidableEq, Repr

/-- The routes of all types, each type's by ascending `since`, and the upgrades of the chain. -/
structure Registry where
  entries : List (String × List RouteEntry) := []
  schedule : UpgradeSchedule := {}

namespace Registry

/-- Puts a route into an ascending list, in place of one with the same `since`. -/
def insertEntry (e : RouteEntry) : List RouteEntry → List RouteEntry
  | [] => [e]
  | f :: rest =>
    if e.since < f.since then e :: f :: rest
    else if e.since = f.since then e :: rest
    else f :: insertEntry e rest

/-- Puts a route into the table of all types. -/
def insertInto (url : String) (e : RouteEntry) :
    List (String × List RouteEntry) → List (String × List RouteEntry)
  | [] => [(url, [e])]
  | (u, es) :: rest =>
    if u = url then (u, insertEntry e es) :: rest else (u, es) :: insertInto url e rest

/-- Routes a type to a kind from a protocol version on. -/
def register (r : Registry) (url : String) (since : UInt32) (kind : MsgKind) (version : UInt32) :
    Registry :=
  { r with entries := insertInto url ⟨since, ⟨kind, version⟩⟩ r.entries }

def withSchedule (r : Registry) (schedule : UpgradeSchedule) : Registry := { r with schedule }

def entriesOf (r : Registry) (url : String) : List RouteEntry := (r.entries.lookup url).getD []

/-- The last route that a protocol version has reached. -/
def routeAt (entries : List RouteEntry) (version : UInt32) : Route :=
  match (entries.takeWhile fun e => e.since ≤ version).getLast? with
  | some e => e.route
  | none => .unknown

/-- The route of a message type at a height. -/
def resolve (r : Registry) (url : String) (height : Height) : Route :=
  routeAt (r.entriesOf url) (r.schedule.versionAt height)

/-- How many types have routes. -/
def size (r : Registry) : Nat := r.entries.length

/-- The message types of the standard modules. -/
def standardTypes : List (String × MsgKind × UInt32) := [
  ("/cosmos.bank.v1beta1.MsgSend", .send, 1),
  ("/cosmos.bank.v1beta1.MsgMultiSend", .multiSend, 1),
  ("/cosmos.staking.v1beta1.MsgDelegate", .delegate, 1),
  ("/cosmos.staking.v1beta1.MsgUndelegate", .undelegate, 1),
  ("/cosmos.staking.v1beta1.MsgBeginRedelegate", .beginRedelegate, 1),
  ("/cosmos.staking.v1beta1.MsgCreateValidator", .createValidator, 1),
  ("/cosmos.staking.v1beta1.MsgEditValidator", .editValidator, 1),
  ("/cosmos.distribution.v1beta1.MsgWithdrawDelegatorReward", .withdrawDelegatorReward, 1),
  ("/cosmos.distribution.v1beta1.MsgWithdrawValidatorCommission", .withdrawValidatorCommission, 1),
  ("/cosmos.distribution.v1beta1.MsgSetWithdrawAddress", .setWithdrawAddress, 1),
  ("/cosmos.gov.v1beta1.MsgSubmitProposal", .submitProposal, 1),
  ("/cosmos.gov.v1beta1.MsgVote", .vote, 1),
  ("/cosmos.gov.v1beta1.MsgDeposit", .deposit, 1),
  ("/cosmos.slashing.v1beta1.MsgUnjail", .unjail, 1),
  ("/cosmos.gov.v1.MsgSubmitProposal", .submitProposal, 2),
  ("/cosmos.gov.v1.MsgVote", .vote, 2),
  ("/cosmos.gov.v1.MsgDeposit", .deposit, 2)]

def standard : Registry :=
  standardTypes.foldl (fun r t => r.register t.1 0 t.2.1 t.2.2) {}

end Registry

end ChainIndexer
