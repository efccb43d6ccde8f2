import ChainIndexer.Command.Basic
import ChainIndexer.Json.Lookup

/-!
# Parsers in a script

How a simulated run reads blocks: its prefixes, its denomination, and its registry of messages with
the upgrades of the chain. Everything has a default.
-/

namespace ChainIndexer.Sim.Document

open Json (Lookup Value)

/-- The prefixes of addresses; those not named follow that for accounts. -/
def prefixes (v : Value) : Lookup AddressPrefixes := do
  let base := AddressPrefixes.ofAccount (← v.textOr "account" "cosmos")
  let validator ← v.textOr "validator" base.validator
  let consensus ← v.textOr "consensus" base.consensus
  return { base with validator, consensus }

/-- How blocks and genesis documents are read. -/
def parserConfig (v : Value) : Lookup ParserConfig := do
  let base : ParserConfig := {}
  return {
    prefixes := ← v.memberOr "prefixes" prefixes base.prefixes
    stakingDenom := ← v.textOr "staking_denom" base.stakingDenom
    strictGenesis := v.flagAt "strict_genesis"
    strictMessages := v.flagAt "strict_messages"
    base64Attributes := v.flagAt "base64" }

/-- A kind of message by its name. -/
def msgKind (v : Value) : Lookup MsgKind := do
  let name ← v.text
  Lookup.ofOption name (MsgKind.ofName? name)

/-- A registry with one more route: type, protocol version, kind and version of the command. -/
def register (r : Registry) (v : Value) : Lookup Registry := do
  match ← v.items with
  | [url, since, kind, version] =>
    return r.register (← url.text) (← since.word32) (← msgKind kind) (← version.word32)
  | _ => .fail "register"

/-- An upgrade: the height and the protocol version from there on. -/
def upgrade (v : Value) : Lookup (Height × UInt32) := do
  match ← v.items with
  | [height, version] => return (← height.word, ← version.word32)
  | _ => .fail "upgrade"

/-- The registry to start from, with the upgrades of the chain. -/
def baseRegistry (v : Value) : Lookup Registry := do
  let base : Registry := if (← v.textOr "base" "") == "empty" then {} else .standard
  return base.withSchedule (.ofList (← (← v.itemsAt "upgrades").mapM upgrade))

def registry (v : Value) : Lookup Registry := do
  (← v.itemsAt "register").foldlM register (← baseRegistry v)

end ChainIndexer.Sim.Document
