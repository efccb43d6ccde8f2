import ChainIndexer.Http.Transport
import ChainIndexer.Json.Outline
import ChainIndexer.Node.Answers

/-!
# The node's client

Asks a node for its status, its genesis document, blocks and block results. A genesis document that
is too large for one answer is fetched in pieces.
-/

namespace ChainIndexer.Node

open Json (Codec Value)

variable {σ α : Type}

/-- A client of a node. -/
structure Client where
  transport : Transport
  deriving DecidableEq, Repr

namespace Client

def create (url : String) (config : HttpConfig) : Except RpcError Client :=
  (Transport.create url config).map Client.mk

def url (c : Client) : String := c.transport.base.text

/-- Why an answer has no result, as a failed request. -/
def ofFault (path : String) : Envelope.Fault → RpcError
  | .error e => .rpc e
  | .missingResult => .deserialization (path ++ ": response has no result")

def readResult (codec : Codec α) (path : String) (v : Value) : Except RpcError α := do
  let envelope ← ((Envelope.codec codec).decode v).mapError RpcError.ofDecode
  envelope.outcome.mapError (ofFault path)

/-- Asks for a result. -/
def call (c : Client) (net : Network σ) (fuel : Nat) (codec : Codec α) (path : String)
    (query : List (String × String)) : Query σ α := do
  let v ← c.transport.getJson net fuel path query
  liftM (readResult codec path v)

/-- The node's status. -/
def status (c : Client) (net : Network σ) (fuel : Nat) : Query σ ChainStatus :=
  c.call net fuel Node.status "status" []

def latestHeight (c : Client) (net : Network σ) (fuel : Nat) : Query σ Height := do
  return (← c.status net fuel).latestBlockHeight

/-! ## Genesis -/

/-- Reads a genesis document from its bytes. Members that it does not know are passed over. -/
def readGenesis (bytes : List UInt8) : Except RpcError Genesis :=
  match Json.parseKnown? genesisFields.names bytes with
  | none => .error (.deserialization "not a JSON document")
  | some v => (genesisDocument.decode v).mapError RpcError.ofDecode

/-- Asks for the piece with this number. -/
def genesisChunk (c : Client) (net : Network σ) (fuel : Nat) (chunk : UInt64) :
    Query σ GenesisChunk :=
  c.call net fuel Node.genesisChunk "genesis_chunked" [("chunk", Numeral.natural chunk.toNat)]

/-- The bytes of the piece with this number, and the number of pieces. -/
def genesisPiece (ask : UInt64 → Query σ GenesisChunk) (chunk : UInt64) :
    Query σ (List UInt8 × UInt64) := do
  let part ← ask chunk
  match Base64.decode (Utf8.encode part.data) with
  | .ok bytes => return (bytes, part.total)
  | .error e => throw (.decode
      ("genesis chunk " ++ Numeral.natural chunk.toNat ++ ": " ++ e.message))

/-- Asks for the pieces from a number on; `bytes` holds what came before. -/
def piecesFrom (ask : UInt64 → Query σ GenesisChunk) :
    Nat → UInt64 → List UInt8 → Query σ (List UInt8)
  | 0, _, _ => .stillRunning
  | left + 1, chunk, bytes => do
    let (more, total) ← genesisPiece ask chunk
    if total ≤ chunk + 1 then return bytes ++ more
    else piecesFrom ask left (chunk + 1) (bytes ++ more)

/-- The node says that the document only comes in pieces. -/
def wantsPieces : RpcError → Bool
  | .rpc e => Text.contains e.detail "genesis_chunked"
  | _ => false

/-- The genesis document: asked for as a whole, and in pieces if the node wants it so. -/
def genesisWith (whole : Query σ Genesis) (ask : UInt64 → Query σ GenesisChunk) (fuel : Nat) :
    Query σ Genesis :=
  tryCatch whole fun e =>
    if wantsPieces e then do liftM (readGenesis (← piecesFrom ask fuel 0 [])) else throw e

def genesis (c : Client) (net : Network σ) (fuel : Nat) : Query σ Genesis :=
  genesisWith (c.call net fuel Node.genesis "genesis" []) (c.genesisChunk net fuel) fuel

/-! ## Blocks -/

def heightQuery (height : Height) : List (String × String) :=
  [("height", Numeral.natural height.toNat)]

def block (c : Client) (net : Network σ) (fuel : Nat) (height : Height) : Query σ Block := do
  let b ← c.call net fuel encodedBlock "block" (heightQuery height)
  liftM b.decode

def blockResults (c : Client) (net : Network σ) (fuel : Nat) (height : Height) :
    Query σ BlockResults :=
  c.call net fuel Node.blockResults "block_results" (heightQuery height)

end Client

end ChainIndexer.Node
