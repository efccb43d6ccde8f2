import ChainIndexer.Digest.Sha256
import ChainIndexer.Json.Record

/-!
# Blocks

A committed block: its header, its transactions as raw bytes, and the votes for the block before it.
Height 0 is the genesis state, which is no block.
-/

namespace ChainIndexer

open Json (Codec Field Fields record)

/-- The place of a block in the chain. -/
abbrev Height := UInt64

namespace Height

def max : Height := 0xFFFFFFFFFFFFFFFF

/-- The height after this one; the greatest height stays. -/
def next (h : Height) : Height := if h = max then max else h + 1

end Height

/-- A header. -/
structure BlockHeader where
  chainId : String
  height : Height
  time : Time
  proposerAddress : String
  appHash : String
  lastBlockHash : String
  deriving DecidableEq, Repr

/-- The JSON form of a header. -/
def BlockHeader.codec : Codec BlockHeader :=
  record "BlockHeader"
    (.cons (.required "chain_id" chainId .string) <|
     .cons (.required "height" height .uint64) <|
     .cons (.required "time" time .time) <|
     .cons (.required "proposer_address" proposerAddress .string) <|
     .cons (.required "app_hash" appHash .string) <|
     .cons (.required "last_block_hash" lastBlockHash .string) .nil)
    fun (chainId, height, time, proposerAddress, appHash, lastBlockHash, _) =>
      { chainId, height, time, proposerAddress, appHash, lastBlockHash }

/-- A vote for the last block; `signed` says that it was a vote to commit. -/
structure CommitSignature where
  validatorAddress : String
  timestamp : Option Time
  signed : Bool
  deriving DecidableEq, Repr

/-- The JSON form of a vote. -/
def CommitSignature.codec : Codec CommitSignature :=
  record "CommitSignature"
    (.cons (.required "validator_address" validatorAddress .string) <|
     .cons (.optional "timestamp" timestamp .time) <|
     .cons (.required "signed" signed .bool) .nil)
    fun (validatorAddress, timestamp, signed, _) => { validatorAddress, timestamp, signed }

/-- The bytes of a transaction. -/
structure RawTx where
  bytes : List UInt8
  deriving DecidableEq, Repr

namespace RawTx

/-- The JSON form: the list of the bytes. -/
def codec : Codec RawTx := Codec.uint8.list.transport RawTx.mk bytes

/-- The name of a transaction: the digest of its bytes. -/
def hash (tx : RawTx) : String := Sha256.hex tx.bytes

def size (tx : RawTx) : Nat := tx.bytes.length

/-- A transaction in a log line. -/
def shown (tx : RawTx) : String := "RawTx(" ++ Numeral.natural tx.size ++ " bytes)"

end RawTx

/-- A block. -/
structure Block where
  hash : String
  header : BlockHeader
  txs : List RawTx
  signatures : List CommitSignature
  evidenceCount : UInt64
  deriving DecidableEq, Repr

namespace Block

/-- The JSON form of a block. -/
def codec : Codec Block :=
  record "Block"
    (.cons (.required "hash" hash .string) <|
     .cons (.required "header" header BlockHeader.codec) <|
     .cons (.required "txs" txs RawTx.codec.list) <|
     .cons (.required "signatures" signatures CommitSignature.codec.list) <|
     .cons (.required "evidence_count" evidenceCount .index) .nil)
    fun (hash, header, txs, signatures, evidenceCount, _) =>
      { hash, header, txs, signatures, evidenceCount }

def height (b : Block) : Height := b.header.height

/-- The names of the transactions, in block order. -/
def txHashes (b : Block) : List String := b.txs.map RawTx.hash

end Block

end ChainIndexer
