import ChainIndexer.Cli.Help
import ChainIndexer.Config.Setup
import ChainIndexer.Json.Writer

/-!
# The program

What each command does, as a function of the arguments, the environment, the files and the network.
A command ends with a text for the standard output, or with a failure and its cause for the standard
error; a run that could be set up goes on.
-/

namespace ChainIndexer.Cli

open Json (Value)

/-! ## Around the program -/

/-- What the program finds around it: variables, the contents of files or why there are none, the
places for databases, and the network. -/
structure Host (σ : Type) where
  env : Environment
  file : String → Except String String
  disk : Store.Disk
  net : Network σ

/-! ## Ending -/

/-- Why a command failed: in the command's own words, with the cause behind them if there is one. -/
structure Failure where
  message : String
  cause : Option String := none
  deriving DecidableEq, Repr

namespace Failure

/-- A failed attempt as it is. -/
def ofSync (e : SyncError) : Failure := ⟨e.message, none⟩

/-- A failed attempt behind other words. -/
def behind (message : String) (e : SyncError) : Failure := ⟨message, some e.message⟩

/-- A failed request behind other words. -/
def behindRequest (message : String) (e : RpcError) : Failure := ⟨message, some e.message⟩

/-- Each line after the first is indented like the first. -/
def indented (s : String) : String :=
  String.ofList (s.toList.flatMap fun c => if c = '\n' then "\n    ".toList else [c])

/-- What is written about a failure. -/
def report (f : Failure) : String :=
  "Error: " ++ f.message ++ "\n" ++ match f.cause with
    | none => ""
    | some cause => "\nCaused by:\n    " ++ indented cause ++ "\n"

end Failure

/-- How the program ends: it was misused, it has something to say, it failed, or it goes on with a
run. -/
inductive Ending
  | misuse
  | said (text : String)
  | failed (f : Failure)
  | running (setup : Setup)

/-! ## Settings -/

/-- The settings from the file and the arguments, of which the arguments win. -/
def SettingArgs.load {σ : Type} (a : SettingArgs) (host : Host σ) : Except Failure SyncConfig := do
  let base ← match a.config with
    | some path =>
      (SyncConfig.ofFile path (host.file path)).mapError (Failure.behind ("loading " ++ path))
    | none => pure {}
  return { base with
    chainRpcUrl := a.chainRpc.getD base.chainRpcUrl
    appRpcUrl := a.appRpc.getD base.appRpcUrl
    storage := a.storage.getD base.storage
    handlerId := a.handlerId.getD base.handlerId }

/-! ## The status -/

/-- What the status shows: the settings, the node's own status, and the cursor of the handler. -/
structure StatusReport where
  config : SyncConfig
  chain : ChainStatus
  cursor : Option Height

namespace StatusReport

/-- How many heights the handler has still to accept; without a cursor the genesis counts too. -/
def behind (r : StatusReport) : UInt64 :=
  match r.cursor with
  | none => r.chain.latestBlockHeight + 1
  | some h => r.chain.latestBlockHeight - min h r.chain.latestBlockHeight

def toValue (r : StatusReport) : Value :=
  .ofList [("network", .string r.chain.network),
    ("latest_height", .ofUInt64 r.chain.latestBlockHeight),
    ("latest_time", .string r.chain.latestBlockTime.text),
    ("catching_up", .bool r.chain.catchingUp), ("handler_id", .string r.config.handlerId),
    ("last_handled_height", .ofOption .ofUInt64 r.cursor),
    ("heights_behind", .ofUInt64 r.behind)]

def lines (r : StatusReport) : List String :=
  let height (h : Height) : String := SyncError.heightText h
  ["Network:        " ++ r.chain.network,
   "Latest height:  " ++ height r.chain.latestBlockHeight
     ++ " (" ++ r.chain.latestBlockTime.text ++ ")"] ++
  (if r.chain.catchingUp then ["                node is catching up"] else []) ++
  ["Handler:        " ++ r.config.handlerId ++ " (" ++ r.config.storage ++ ")",
   "Last handled:   " ++ (match r.cursor with | some h => height h | none => "nothing yet"),
   "Behind:         " ++ height r.behind]

def text (r : StatusReport) (json : Bool) : String :=
  if json then r.toValue.indented ++ "\n" else String.join (r.lines.map fun line => line ++ "\n")

end StatusReport

/-- Asks the node for its status and the handler for its cursor, in that order. -/
def askStatus {σ : Type} (host : Host σ) (config : SyncConfig) (start : σ) :
    Except Failure StatusReport := do
  config.validate.mapError Failure.ofSync
  let client ← (Node.Client.create config.chainRpcUrl config.httpConfig).mapError
    (Failure.behindRequest "invalid chain RPC URL")
  let querying := "querying " ++ config.chainRpcUrl
  let chain ← match client.status host.net 0 start with
    | some (r, _) => r.mapError (Failure.behindRequest querying)
    | none => .error ⟨querying, none⟩
  let target ← config.target.mapError Failure.ofSync
  let store ← (Store.openAt host.disk target config.handlerId).mapError Failure.ofSync
  return { config, chain, cursor := store.cursor? }

/-! ## A run -/

def RunArgs.load {σ : Type} (a : RunArgs) (host : Host σ) : Except Failure SyncConfig := do
  let base ← a.settings.load host
  return { base with
    windowSize := a.windowSize.getD base.windowSize
    startingBlockHeight := a.startingHeight.getD base.startingBlockHeight
    log := { base.log with json := base.log.json || a.jsonLogs } }

def setUp {σ : Type} (host : Host σ) (config : SyncConfig) : Except Failure Setup := do
  config.validate.mapError Failure.ofSync
  (Setup.ofConfig host.disk config).mapError (Failure.behind "starting sync manager")

/-! ## The whole -/

def Invocation.perform {σ : Type} (host : Host σ) (start : σ) : Invocation → Except Failure Ending
  | .run args => do return .running (← setUp host (← args.load host))
  | .status args => do
    return .said ((← askStatus host (← args.settings.load host) start).text args.json)
  | .version => return .said versionLine
  | .help topic full => return .said (helpText host.env topic full)

/-- What the program does with its arguments. -/
def execute {σ : Type} (host : Host σ) (start : σ) (args : List String) : Ending :=
  match Invocation.ofArgs host.env args with
  | none => .misuse
  | some invocation => match invocation.perform host start with
    | .ok ending => ending
    | .error f => .failed f

end ChainIndexer.Cli
