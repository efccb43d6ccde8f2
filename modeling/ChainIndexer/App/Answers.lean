import ChainIndexer.Chain.Tx
import ChainIndexer.Node.Answers

/-!
# The application's answer to a transaction

The form in which the application gives a transaction and its outcome. The place in the block is
not part of it and is set by whoever knows it.
-/

namespace ChainIndexer.App

open Json (Codec Field Fields record Value)

/-! ## The transaction -/

/-- What a transaction asks for. -/
def txBody : Codec TxBody :=
  record "BodyWire"
    (.cons (.default "messages" TxBody.messages Codec.value.list []) <|
     .cons (.default "memo" TxBody.memo .string "") <|
     .cons (.default "timeout_height" TxBody.timeoutHeight .stringUInt64 0) .nil)
    fun (messages, memo, timeoutHeight, _) => { messages, memo, timeoutHeight }

def signerInfo : Codec SignerInfo :=
  record "SignerInfoWire"
    (.cons (.default "public_key" SignerInfo.publicKey (Codec.option .value) none) <|
     .cons (.default "sequence" SignerInfo.sequence .stringUInt64 0) .nil)
    fun (publicKey, sequence, _) => { publicKey, sequence }

def fee : Codec Fee :=
  record "FeeWire"
    (.cons (.default "amount" Fee.amount Coin.codec.list []) <|
     .cons (.default "gas_limit" Fee.gasLimit .stringUInt64 0) <|
     .cons (.default "payer" Fee.payer .string "") <|
     .cons (.default "granter" Fee.granter .string "") .nil)
    fun (amount, gasLimit, payer, granter, _) => { amount, gasLimit, payer, granter }

/-- Fee and signers. -/
def authInfo : Codec AuthInfo :=
  record "AuthInfoWire"
    (.cons (.default "signer_infos" AuthInfo.signerInfos signerInfo.list []) <|
     .cons (.required "fee" AuthInfo.fee fee) .nil)
    fun (signerInfos, fee, _) => { fee, signerInfos }

/-- A transaction without its outcome. -/
def signedTx : Codec (TxBody × AuthInfo × List String) :=
  record "TxWire"
    (.cons (.required "body" Prod.fst txBody) <|
     .cons (.required "auth_info" (fun t => t.2.1) authInfo) <|
     .cons (.default "signatures" (fun t => t.2.2) Codec.string.list []) .nil)
    fun (body, authInfo, signatures, _) => (body, authInfo, signatures)

/-! ## The outcome -/

def messageLog : Codec MessageLog :=
  record "MessageLogWire"
    (.cons (.default "msg_index" MessageLog.msgIndex .index 0) <|
     .cons (Node.listField "events" MessageLog.events Node.event) .nil)
    fun (msgIndex, events, _) => { msgIndex, events }

/-- The height, the name and the outcome of a transaction. -/
def txResponse : Codec (Height × String × TxExecution) :=
  record "TxResponseWire"
    (.cons (.required "height" Prod.fst .stringUInt64) <|
     .cons (.required "txhash" (fun t => t.2.1) .string) <|
     .cons (.default "codespace" (fun t => t.2.2.codespace) .string "") <|
     .cons (.default "code" (fun t => t.2.2.code) .uint32 0) <|
     .cons (.default "raw_log" (fun t => t.2.2.rawLog) .string "") <|
     .cons (Node.listField "logs" (fun t => t.2.2.logs) messageLog) <|
     .cons (.default "gas_wanted" (fun t => t.2.2.gasWanted) .stringInt64 0) <|
     .cons (.default "gas_used" (fun t => t.2.2.gasUsed) .stringInt64 0) <|
     .cons (.required "timestamp" (fun t => t.2.2.timestamp) .time) <|
     .cons (Node.listField "events" (fun t => t.2.2.events) Node.event) .nil)
    fun (height, hash, codespace, code, rawLog, logs, gasWanted, gasUsed, timestamp, events, _) =>
      (height, hash,
        { code, codespace, rawLog, gasWanted, gasUsed, timestamp, logs, events })

/-- A transaction and its outcome; it counts as the first of its block. -/
def tx : Codec Tx :=
  record "GetTxResponse"
    (.cons (.required "tx" (fun t => (t.body, t.authInfo, t.signatures)) signedTx) <|
     .cons (.required "tx_response" (fun t => (t.height, t.hash, t.result)) txResponse) .nil)
    fun ((body, authInfo, signatures), (height, hash, result), _) =>
      { height, index := 0, hash, body, authInfo, signatures, result }

end ChainIndexer.App
