import ChainIndexer.Chain.Block

/-!
# Block results

What the execution of a block brought about: per-transaction results, block-level events at three
points of the execution, and changes of voting power.
-/

namespace ChainIndexer

open Json (Codec Field Fields record)

/-! ## Execution events -/

/-- A key and a value of an execution event. -/
structure Attribute where
  key : String
  value : String
  deriving DecidableEq, Repr

/-- The JSON form of an attribute. -/
def Attribute.codec : Codec Attribute :=
  record "AbciAttribute"
    (.cons (.required "key" key .string) <|
     .cons (.required "value" value .string) .nil)
    fun (key, value, _) => { key, value }

/-- An event that execution emits: its kind and its attributes in order. -/
structure AbciEvent where
  kind : String
  attributes : List Attribute
  deriving DecidableEq, Repr

namespace AbciEvent

/-- The JSON form of an execution event. -/
def codec : Codec AbciEvent :=
  record "AbciEvent"
    (.cons (.required "type" kind .string) <|
     .cons (.default "attributes" attributes Attribute.codec.list []) .nil)
    fun (kind, attributes, _) => { kind, attributes }

/-- The first value of a key. -/
def attribute? (e : AbciEvent) (key : String) : Option String :=
  (e.attributes.find? fun a => a.key == key).map Attribute.value

end AbciEvent

/-! ## Results -/

/-- The result of one transaction. -/
structure TxResult where
  code : UInt32
  codespace : String
  log : String
  gasWanted : Int64
  gasUsed : Int64
  events : List AbciEvent
  deriving DecidableEq, Repr

/-- The JSON form of a transaction's result. -/
def TxResult.codec : Codec TxResult :=
  record "TxResult"
    (.cons (.required "code" code .uint32) <|
     .cons (.required "codespace" codespace .string) <|
     .cons (.required "log" log .string) <|
     .cons (.required "gas_wanted" gasWanted .int64) <|
     .cons (.required "gas_used" gasUsed .int64) <|
     .cons (.required "events" events AbciEvent.codec.list) .nil)
    fun (code, codespace, log, gasWanted, gasUsed, events, _) =>
      { code, codespace, log, gasWanted, gasUsed, events }

/-- A new voting power for a public key. -/
structure ValidatorUpdate where
  pubKeyType : String
  pubKey : String
  power : Int64
  deriving DecidableEq, Repr

/-- The JSON form of a power change. -/
def ValidatorUpdate.codec : Codec ValidatorUpdate :=
  record "ValidatorUpdate"
    (.cons (.required "pub_key_type" pubKeyType .string) <|
     .cons (.required "pub_key" pubKey .string) <|
     .cons (.required "power" power .int64) .nil)
    fun (pubKeyType, pubKey, power, _) => { pubKeyType, pubKey, power }

/-- The results of a block. -/
structure BlockResults where
  height : Height
  txsResults : List TxResult
  beginBlockEvents : List AbciEvent
  endBlockEvents : List AbciEvent
  finalizeBlockEvents : List AbciEvent
  validatorUpdates : List ValidatorUpdate
  deriving DecidableEq, Repr

namespace BlockResults

/-- The JSON form of block results. -/
def codec : Codec BlockResults :=
  record "BlockResults"
    (.cons (.required "height" height .uint64) <|
     .cons (.required "txs_results" txsResults TxResult.codec.list) <|
     .cons (.required "begin_block_events" beginBlockEvents AbciEvent.codec.list) <|
     .cons (.required "end_block_events" endBlockEvents AbciEvent.codec.list) <|
     .cons (.required "finalize_block_events" finalizeBlockEvents AbciEvent.codec.list) <|
     .cons (.required "validator_updates" validatorUpdates ValidatorUpdate.codec.list) .nil)
    fun (height, txsResults, beginBlockEvents, endBlockEvents, finalizeBlockEvents,
        validatorUpdates, _) =>
      { height, txsResults, beginBlockEvents, endBlockEvents, finalizeBlockEvents,
        validatorUpdates }

/-- Results without any content. -/
def empty (height : Height) : BlockResults := ⟨height, [], [], [], [], []⟩

/-- The block-level events in the order of execution. -/
def blockEvents (r : BlockResults) : List AbciEvent :=
  r.beginBlockEvents ++ r.endBlockEvents ++ r.finalizeBlockEvents

end BlockResults

end ChainIndexer
