import ChainIndexer.Config.Log
import ChainIndexer.Http.Cache
import ChainIndexer.Http.Transport
import ChainIndexer.Store.Target
import ChainIndexer.Sync.Manager
import ChainIndexer.Sync.Tasks

/-!
# Settings

Everything that a run can be told. Each setting has a default, so a document names only those that
it changes.
-/

namespace ChainIndexer

open Json (Codec record)

/-- The settings of a run. Empty prefixes for validators and consensus nodes follow that for
accounts. -/
structure SyncConfig where
  handlerId : String := "chainsync"
  chainRpcUrl : String := "http://localhost:26657"
  appRpcUrl : String := "http://localhost:1317"
  windowSize : UInt64 := 10
  pollingIntervalMs : UInt64 := 5000
  initialRetryIntervalMs : UInt64 := 1000
  maxRetryIntervalMs : UInt64 := 60000
  startingBlockHeight : Height := 0
  txConcurrency : UInt64 := 10
  accountPrefixText : String := "cosmos"
  validatorPrefixText : String := ""
  consensusPrefixText : String := ""
  stakingDenom : String := "uatom"
  strictGenesisParsing : Bool := false
  strictMessages : Bool := false
  base64Attributes : Bool := false
  requestTimeoutMs : UInt64 := 30000
  rpcMaxRetries : UInt32 := 3
  cacheShortTtlSecs : UInt64 := 10
  cacheLongTtlSecs : UInt64 := 600
  storage : String := "memory"
  log : LogConfig := {}
  deriving DecidableEq, Repr

namespace SyncConfig

/-! ## Documents -/

/-- The JSON form of the settings. -/
def codec : Codec SyncConfig :=
  let d : SyncConfig := {}
  record "SyncConfig"
    (.cons (.default "handler_id" handlerId .string d.handlerId) <|
     .cons (.default "chain_rpc_url" chainRpcUrl .string d.chainRpcUrl) <|
     .cons (.default "app_rpc_url" appRpcUrl .string d.appRpcUrl) <|
     .cons (.default "window_size" windowSize .uint64 d.windowSize) <|
     .cons (.default "polling_interval_ms" pollingIntervalMs .uint64 d.pollingIntervalMs) <|
     .cons (.default "initial_retry_interval_ms" initialRetryIntervalMs .uint64
       d.initialRetryIntervalMs) <|
     .cons (.default "max_retry_interval_ms" maxRetryIntervalMs .uint64 d.maxRetryIntervalMs) <|
     .cons (.default "starting_block_height" startingBlockHeight .uint64 d.startingBlockHeight) <|
     .cons (.default "tx_concurrency" txConcurrency .index d.txConcurrency) <|
     .cons (.default "account_address_prefix" accountPrefixText .string d.accountPrefixText) <|
     .cons (.default "validator_address_prefix" validatorPrefixText .string
       d.validatorPrefixText) <|
     .cons (.default "con_node_address_prefix" consensusPrefixText .string
       d.consensusPrefixText) <|
     .cons (.default "staking_denom" stakingDenom .string d.stakingDenom) <|
     .cons (.default "strict_genesis_parsing" strictGenesisParsing .bool false) <|
     .cons (.default "strict_messages" strictMessages .bool false) <|
     .cons (.default "base64_encoded_event_attributes" base64Attributes .bool false) <|
     .cons (.default "request_timeout_ms" requestTimeoutMs .uint64 d.requestTimeoutMs) <|
     .cons (.default "rpc_max_retries" rpcMaxRetries .uint32 d.rpcMaxRetries) <|
     .cons (.default "cache_short_ttl_secs" cacheShortTtlSecs .uint64 d.cacheShortTtlSecs) <|
     .cons (.default "cache_long_ttl_secs" cacheLongTtlSecs .uint64 d.cacheLongTtlSecs) <|
     .cons (.default "storage" storage .string d.storage) <|
     .cons (.default "log" log LogConfig.codec d.log) .nil)
    fun (handlerId, chainRpcUrl, appRpcUrl, windowSize, pollingIntervalMs, initialRetryIntervalMs,
      maxRetryIntervalMs, startingBlockHeight, txConcurrency, accountPrefixText,
      validatorPrefixText, consensusPrefixText, stakingDenom, strictGenesisParsing, strictMessages,
      base64Attributes, requestTimeoutMs, rpcMaxRetries, cacheShortTtlSecs, cacheLongTtlSecs,
      storage, log, _) =>
      { handlerId, chainRpcUrl, appRpcUrl, windowSize, pollingIntervalMs, initialRetryIntervalMs,
        maxRetryIntervalMs, startingBlockHeight, txConcurrency, accountPrefixText,
        validatorPrefixText, consensusPrefixText, stakingDenom, strictGenesisParsing,
        strictMessages, base64Attributes, requestTimeoutMs, rpcMaxRetries, cacheShortTtlSecs,
        cacheLongTtlSecs, storage, log }

/-- How the settings are written in a file. -/
def form : Yaml.Form := .record [
  ("handler_id", .text), ("chain_rpc_url", .text), ("app_rpc_url", .text),
  ("window_size", .natural), ("polling_interval_ms", .natural),
  ("initial_retry_interval_ms", .natural), ("max_retry_interval_ms", .natural),
  ("starting_block_height", .natural), ("tx_concurrency", .natural),
  ("account_address_prefix", .text), ("validator_address_prefix", .text),
  ("con_node_address_prefix", .text), ("staking_denom", .text),
  ("strict_genesis_parsing", .flag), ("strict_messages", .flag),
  ("base64_encoded_event_attributes", .flag), ("request_timeout_ms", .natural),
  ("rpc_max_retries", .natural), ("cache_short_ttl_secs", .natural),
  ("cache_long_ttl_secs", .natural), ("storage", .text), ("log", LogConfig.form)]

def ofYaml? (text : String) : Option SyncConfig := do
  let node ← Yaml.Node.ofText? text
  let value ← form node
  match codec.decode value with
  | .ok config => return config
  | .error _ => none

/-- The settings in a YAML text, or the failed attempt that follows. -/
def ofYaml (text : String) : Except SyncError SyncConfig :=
  match ofYaml? text with
  | some config => .ok config
  | none => .error (.config "invalid config")

/-- The settings in a file; the file's content or the reason why there is none. -/
def ofFile (path : String) (content : Except String String) : Except SyncError SyncConfig :=
  match content with
  | .ok text => ofYaml text
  | .error reason => .error (.config (path ++ ": " ++ reason))

/-! ## What the settings mean -/

/-- Where the handler lives. -/
def target (c : SyncConfig) : Except SyncError Store.Target := Store.Target.ofText c.storage

/-- The text has nothing but white space in it. -/
def isBlankText (s : String) : Bool := (Text.trim s.toList).isEmpty

/-- Refuses settings that a run cannot start with. -/
def validate (c : SyncConfig) : Except SyncError Unit := do
  let refuse (text : String) : Except SyncError Unit := .error (.config text)
  if isBlankText c.chainRpcUrl then refuse "chain_rpc_url must not be empty"
  if isBlankText c.appRpcUrl then refuse "app_rpc_url must not be empty"
  if c.windowSize = 0 then refuse "window_size must be > 0"
  if c.txConcurrency = 0 then refuse "tx_concurrency must be > 0"
  if c.accountPrefixText.isEmpty then refuse "account_address_prefix must not be empty"
  if c.maxRetryIntervalMs < c.initialRetryIntervalMs then
    refuse "initial_retry_interval_ms must not exceed max_retry_interval_ms"
  let _ ← c.target

def prefixes (c : SyncConfig) : AddressPrefixes :=
  let base := AddressPrefixes.ofAccount c.accountPrefixText
  { base with
    validator := if c.validatorPrefixText.isEmpty then base.validator else c.validatorPrefixText
    consensus := if c.consensusPrefixText.isEmpty then base.consensus else c.consensusPrefixText }

/-- How blocks and genesis documents are read. -/
def parserConfig (c : SyncConfig) : ParserConfig :=
  { prefixes := c.prefixes, stakingDenom := c.stakingDenom
    strictGenesis := c.strictGenesisParsing, strictMessages := c.strictMessages
    base64Attributes := c.base64Attributes }

/-- How servers are asked. -/
def httpConfig (c : SyncConfig) : HttpConfig :=
  { retry := { maxRetries := some c.rpcMaxRetries }, requestTimeout := c.requestTimeoutMs }

/-- How long answers are kept. -/
def cacheConfig (c : SyncConfig) : CacheConfig :=
  { shortTtl := 1000 * c.cacheShortTtlSecs.toNat, longTtl := 1000 * c.cacheLongTtlSecs.toNat }

/-- The pauses between failed attempts. -/
def backoff (c : SyncConfig) : RetryConfig :=
  .unbounded c.initialRetryIntervalMs c.maxRetryIntervalMs

def timer? (c : SyncConfig) : Option Timer := Timer.every? c.pollingIntervalMs.toNat

/-- How many lookups of a height run at the same time; there is at least one. -/
def permits (c : SyncConfig) : Nat := max c.txConcurrency.toNat 1

def managerConfig (c : SyncConfig) : ManagerConfig :=
  { starting := c.startingBlockHeight, window := .ofSize c.windowSize, backoff := c.backoff }

/-! ## Changing settings -/

/-- Sets the prefix for accounts; the others follow it. -/
def withAccount (c : SyncConfig) (text : String) : SyncConfig :=
  { c with accountPrefixText := text, validatorPrefixText := "", consensusPrefixText := "" }

/-- Sets the bounds of the pauses between failed attempts. -/
def withRetryInterval (c : SyncConfig) (initial max : UInt64) : SyncConfig :=
  { c with initialRetryIntervalMs := initial, maxRetryIntervalMs := max }

end SyncConfig

end ChainIndexer
