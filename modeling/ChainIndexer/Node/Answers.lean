import ChainIndexer.Chain.Genesis
import ChainIndexer.Chain.Results
import ChainIndexer.Rpc.Error
import ChainIndexer.Text.Base64
import ChainIndexer.Text.LowerCase
import ChainIndexer.Text.Utf8

/-!
# Answers of a node

The forms in which a node gives its status, the genesis document, blocks and block results. Whole
numbers stand as strings there, transactions as base64, and an empty list may be `null` or left
out; `orEmpty` reads such lists.
-/

namespace ChainIndexer.Node

open Json (Codec Field Fields record Value)

/-! ## Lists that may be missing -/

/-- A list that may be `null`. -/
def orEmpty {α : Type} (c : Codec α) : Codec (List α) :=
  c.list.option.transport (fun xs => xs.getD []) some

/-- A text that may be `null`. -/
def orBlank : Codec String := Codec.string.option.transport (fun s => s.getD "") some

/-- A field with a list that may be `null` or left out. -/
def listField {ρ α : Type} (key : String) (get : ρ → List α) (c : Codec α) : Field ρ (List α) :=
  .default key get (orEmpty c) []

/-! ## Status -/

/-- What a node says about its network. -/
def nodeInfo : Codec String :=
  record "NodeInfo" (.cons (.default "network" id .string "") .nil) fun (network, _) => network

/-- What a node says about its progress. -/
def syncInfo : Codec (Height × Time × Bool) :=
  record "SyncInfo"
    (.cons (.required "latest_block_height" Prod.fst .stringUInt64) <|
     .cons (.required "latest_block_time" (fun s => s.2.1) .time) <|
     .cons (.default "catching_up" (fun s => s.2.2) .bool false) .nil)
    fun (height, time, catchingUp, _) => (height, time, catchingUp)

def status : Codec ChainStatus :=
  record "StatusResult"
    (.cons (.required "node_info" ChainStatus.network nodeInfo) <|
     .cons (.required "sync_info"
        (fun s => (s.latestBlockHeight, s.latestBlockTime, s.catchingUp)) syncInfo) .nil)
    fun (network, (latestBlockHeight, latestBlockTime, catchingUp), _) =>
      { network, latestBlockHeight, latestBlockTime, catchingUp }

/-! ## Genesis -/

/-- The fields of the genesis document as it is published. -/
def genesisFields : Fields Genesis [Time, String, UInt64, Value] :=
  .cons (.required "genesis_time" Genesis.genesisTime .time) <|
  .cons (.required "chain_id" Genesis.chainId .string) <|
  .cons (.default "initial_height" Genesis.initialHeight .stringUInt64 0) <|
  .cons (.default "app_state" Genesis.appState .value .null) .nil

def genesisDocument : Codec Genesis :=
  record "GenesisDoc" genesisFields fun (genesisTime, chainId, initialHeight, appState, _) =>
    { genesisTime, chainId, initialHeight, appState }

def genesis : Codec Genesis :=
  record "GenesisResult" (.cons (.required "genesis" id genesisDocument) .nil) fun (g, _) => g

/-- A piece of a genesis document, and how many there are. -/
structure GenesisChunk where
  total : UInt64
  data : String
  deriving DecidableEq, Repr

/-- A piece of a genesis document. -/
def genesisChunk : Codec GenesisChunk :=
  record "GenesisChunkResult"
    (.cons (.required "total" GenesisChunk.total .stringUInt64) <|
     .cons (.required "data" GenesisChunk.data .string) .nil)
    fun (total, data, _) => { total, data }

/-! ## Blocks -/

def blockId : Codec String :=
  record "BlockId" (.cons (.default "hash" id .string "") .nil) fun (hash, _) => hash

def header : Codec BlockHeader :=
  record "HeaderWire"
    (.cons (.required "chain_id" BlockHeader.chainId .string) <|
     .cons (.required "height" BlockHeader.height .stringUInt64) <|
     .cons (.required "time" BlockHeader.time .time) <|
     .cons (.default "last_block_id" (fun h => some h.lastBlockHash) blockId.option none) <|
     .cons (.default "app_hash" BlockHeader.appHash .string "") <|
     .cons (.default "proposer_address" BlockHeader.proposerAddress .string "") .nil)
    fun (chainId, height, time, lastBlockHash, appHash, proposerAddress, _) =>
      { chainId, height, time, proposerAddress, appHash, lastBlockHash := lastBlockHash.getD "" }

/-- The transactions of a block, in base64. -/
def blockData : Codec (List String) :=
  record "DataWire" (.cons (listField "txs" id .string) .nil) fun (txs, _) => txs

/-- How many pieces of evidence a block has. -/
def evidence : Codec (List Value) :=
  record "EvidenceWire" (.cons (listField "evidence" id .value) .nil) fun (es, _) => es

/-- The flag says that a validator signed the block; it is a number or a name. -/
def isCommitFlag : Value → Bool
  | .number (.whole n _) => n == 2
  | .string s => s == "BLOCK_ID_FLAG_COMMIT" || s == "2"
  | _ => false

/-- A validator's signature, or its absence. -/
def signature : Codec CommitSignature :=
  record "CommitSigWire"
    (.cons (.required "block_id_flag" (fun s => Value.ofNat (if s.signed then 2 else 1)) .value) <|
     .cons (.default "validator_address" CommitSignature.validatorAddress orBlank "") <|
     .cons (.default "timestamp" CommitSignature.timestamp (Codec.option .time) none) .nil)
    fun (flag, validatorAddress, timestamp, _) =>
      { validatorAddress, timestamp, signed := isCommitFlag flag }

/-- The signatures for the block before. -/
def lastCommit : Codec (List CommitSignature) :=
  record "CommitWire" (.cons (listField "signatures" id signature) .nil) fun (ss, _) => ss

/-- A block whose transactions are still in base64. -/
structure EncodedBlock where
  hash : String
  header : BlockHeader
  txs : List String
  evidence : List Value
  signatures : List CommitSignature

/-- What a block holds, without its name. -/
def blockBody :
    Codec (BlockHeader × List String × List Value × List CommitSignature) :=
  record "BlockWire"
    (.cons (.required "header" Prod.fst header) <|
     .cons (.required "data" (fun b => b.2.1) blockData) <|
     .cons (.default "evidence" (fun b => some b.2.2.1) evidence.option none) <|
     .cons (.default "last_commit" (fun b => some b.2.2.2) lastCommit.option none) .nil)
    fun (header, txs, evidence, signatures, _) =>
      (header, txs, evidence.getD [], signatures.getD [])

def encodedBlock : Codec EncodedBlock :=
  record "BlockResult"
    (.cons (.required "block_id" EncodedBlock.hash blockId) <|
     .cons (.required "block" (fun b => (b.header, b.txs, b.evidence, b.signatures)) blockBody)
      .nil)
    fun (hash, (header, txs, evidence, signatures), _) =>
      { hash, header, txs, evidence, signatures }

/-- Reads the bytes of a transaction. -/
def readTx (s : String) : Except RpcError RawTx :=
  match Base64.decode (Utf8.encode s) with
  | .ok bytes => .ok ⟨bytes⟩
  | .error e => .error (.decode ("tx bytes: " ++ e.message))

/-- The block with the bytes of its transactions. -/
def EncodedBlock.decode (b : EncodedBlock) : Except RpcError Block := do
  let txs ← b.txs.mapM readTx
  return { hash := b.hash, header := b.header, txs, signatures := b.signatures,
           evidenceCount := UInt64.ofNat b.evidence.length }

/-! ## Block results -/

/-- A key and a value, either of which may be `null`. -/
def eventAttribute : Codec Attribute :=
  record "AttributeWire"
    (.cons (.default "key" Attribute.key orBlank "") <|
     .cons (.default "value" Attribute.value orBlank "") .nil)
    fun (key, value, _) => { key, value }

def event : Codec AbciEvent :=
  record "EventWire"
    (.cons (.required "type" AbciEvent.kind .string) <|
     .cons (listField "attributes" AbciEvent.attributes eventAttribute) .nil)
    fun (kind, attributes, _) => { kind, attributes }

def txResult : Codec TxResult :=
  record "TxResultWire"
    (.cons (.default "code" TxResult.code .uint32 0) <|
     .cons (.default "codespace" TxResult.codespace .string "") <|
     .cons (.default "log" TxResult.log .string "") <|
     .cons (.default "gas_wanted" TxResult.gasWanted .stringInt64 0) <|
     .cons (.default "gas_used" TxResult.gasUsed .stringInt64 0) <|
     .cons (listField "events" TxResult.events event) .nil)
    fun (code, codespace, log, gasWanted, gasUsed, events, _) =>
      { code, codespace, log, gasWanted, gasUsed, events }

/-- The type and the key of a public key in any of its forms: `type` and `value`, or the type as
the one key of an object, which may stand below `Sum` and `value`. -/
def pubKeyParts (v : Value) : String × String :=
  match (v.get? "type").bind Value.string?, (v.get? "value").bind Value.string? with
  | some type, some key =>
    let short := (type.toList.splitOn '/').getLastD []
    let word := "PubKey".toList
    let short := if word.isPrefixOf short then short.drop word.length else short
    (Text.lower (String.ofList short), key)
  | _, _ =>
    let inner? := ((v.path? ["Sum", "value"]).bind Value.object?) <|> v.object?
    match inner?.getD [] with
    | (type, key) :: _ => (type, key.string?.getD "")
    | [] => ("", "")

/-- A change of voting power. -/
def validatorUpdate : Codec ValidatorUpdate :=
  record "ValidatorUpdateWire"
    (.cons (.required "pub_key"
        (fun u => Value.ofList [("type", .string u.pubKeyType), ("value", .string u.pubKey)])
        .value) <|
     .cons (.required "power" ValidatorUpdate.power .stringInt64) .nil)
    fun (key, power, _) =>
      { pubKeyType := (pubKeyParts key).1, pubKey := (pubKeyParts key).2, power }

def blockResults : Codec BlockResults :=
  record "BlockResultsWire"
    (.cons (.required "height" BlockResults.height .stringUInt64) <|
     .cons (listField "txs_results" BlockResults.txsResults txResult) <|
     .cons (listField "begin_block_events" BlockResults.beginBlockEvents event) <|
     .cons (listField "end_block_events" BlockResults.endBlockEvents event) <|
     .cons (listField "finalize_block_events" BlockResults.finalizeBlockEvents event) <|
     .cons (listField "validator_updates" BlockResults.validatorUpdates validatorUpdate) .nil)
    fun (height, txsResults, beginBlockEvents, endBlockEvents, finalizeBlockEvents,
        validatorUpdates, _) =>
      { height, txsResults, beginBlockEvents, endBlockEvents, finalizeBlockEvents,
        validatorUpdates }

end ChainIndexer.Node
