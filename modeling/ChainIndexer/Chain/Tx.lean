import ChainIndexer.Chain.Coin
import ChainIndexer.Chain.Results

/-!
# Transactions

A decoded transaction with the outcome of its execution. `Tx.messageEvents` says which of the
execution events belong to one of its messages.
-/

namespace ChainIndexer

open Json (Codec Field Fields record Value)

/-! ## Parts -/

/-- A signer's key and sequence number. -/
structure SignerInfo where
  publicKey : Option Value
  sequence : UInt64

/-- The JSON form of a signer. -/
def SignerInfo.codec : Codec SignerInfo :=
  record "SignerInfo"
    (.cons (.optional "public_key" publicKey .value) <|
     .cons (.required "sequence" sequence .uint64) .nil)
    fun (publicKey, sequence, _) => { publicKey, sequence }

/-- What a transaction asks for. -/
structure TxBody where
  messages : List Value
  memo : String
  timeoutHeight : UInt64

/-- The JSON form of a transaction's body. -/
def TxBody.codec : Codec TxBody :=
  record "TxBody"
    (.cons (.required "messages" messages Codec.value.list) <|
     .cons (.required "memo" memo .string) <|
     .cons (.required "timeout_height" timeoutHeight .uint64) .nil)
    fun (messages, memo, timeoutHeight, _) => { messages, memo, timeoutHeight }

/-- Who pays for a transaction and who signed it. -/
structure AuthInfo where
  fee : Fee
  signerInfos : List SignerInfo

/-- The JSON form of fee and signers. -/
def AuthInfo.codec : Codec AuthInfo :=
  record "AuthInfo"
    (.cons (.required "fee" fee Fee.codec) <|
     .cons (.required "signer_infos" signerInfos SignerInfo.codec.list) .nil)
    fun (fee, signerInfos, _) => { fee, signerInfos }

/-- The events of one message. -/
structure MessageLog where
  msgIndex : UInt64
  events : List AbciEvent

/-- The JSON form of a message's log. -/
def MessageLog.codec : Codec MessageLog :=
  record "MessageLog"
    (.cons (.required "msg_index" msgIndex .index) <|
     .cons (.required "events" events AbciEvent.codec.list) .nil)
    fun (msgIndex, events, _) => { msgIndex, events }

/-- The outcome of a transaction's execution. -/
structure TxExecution where
  code : UInt32
  codespace : String
  rawLog : String
  gasWanted : Int64
  gasUsed : Int64
  timestamp : Time
  logs : List MessageLog
  events : List AbciEvent

/-- The JSON form of an outcome. -/
def TxExecution.codec : Codec TxExecution :=
  record "TxExecution"
    (.cons (.required "code" code .uint32) <|
     .cons (.required "codespace" codespace .string) <|
     .cons (.required "raw_log" rawLog .string) <|
     .cons (.required "gas_wanted" gasWanted .int64) <|
     .cons (.required "gas_used" gasUsed .int64) <|
     .cons (.required "timestamp" timestamp .time) <|
     .cons (.required "logs" logs MessageLog.codec.list) <|
     .cons (.required "events" events AbciEvent.codec.list) .nil)
    fun (code, codespace, rawLog, gasWanted, gasUsed, timestamp, logs, events, _) =>
      { code, codespace, rawLog, gasWanted, gasUsed, timestamp, logs, events }

/-! ## Transactions -/

/-- A decoded transaction and its outcome; `index` is its place in the block. -/
structure Tx where
  height : Height
  index : UInt64
  hash : String
  body : TxBody
  authInfo : AuthInfo
  signatures : List String
  result : TxExecution

namespace Tx

/-- The JSON form of a transaction. -/
def codec : Codec Tx :=
  record "Tx"
    (.cons (.required "height" height .uint64) <|
     .cons (.required "index" index .index) <|
     .cons (.required "hash" hash .string) <|
     .cons (.required "body" body TxBody.codec) <|
     .cons (.required "auth_info" authInfo AuthInfo.codec) <|
     .cons (.required "signatures" signatures Codec.string.list) <|
     .cons (.required "result" result TxExecution.codec) .nil)
    fun (height, index, hash, body, authInfo, signatures, result, _) =>
      { height, index, hash, body, authInfo, signatures, result }

/-- The transaction was executed without an error. -/
def isSuccess (tx : Tx) : Bool := tx.result.code == 0

/-- Who pays the fee, when that is said. -/
def feePayer? (tx : Tx) : Option String :=
  let payer := tx.authInfo.fee.payer
  if payer.isEmpty then none else some payer

/-- The event says that it belongs to the message with this index. -/
def belongsTo (index : UInt64) (e : AbciEvent) : Bool :=
  e.attribute? "msg_index" == some (Numeral.natural index.toNat)

/-- The events of the message with this index: those of its own log, or else those of the whole
transaction that name the index. -/
def messageEvents (tx : Tx) (index : UInt64) : List AbciEvent :=
  match tx.result.logs.find? fun log => log.msgIndex == index with
  | some log => log.events
  | none => tx.result.events.filter (belongsTo index)

end Tx

end ChainIndexer
