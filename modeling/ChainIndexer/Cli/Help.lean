import ChainIndexer.Cli.Args

/-!
# Help

The help on the program and on each command. Options whose value can come from the environment show
the variable and its present value. Help in full puts explanations on lines of their own, and so
does the help on a run, whose options are too long to leave room beside them.
-/

namespace ChainIndexer.Cli

def programName : String := "chainsync"

def version : String := "0.2.0"

def versionLine : String := programName ++ " " ++ version ++ "\n"

/-! ## Entries -/

/-- An entry of a list in the help: what is written and what it does. -/
structure Entry where
  term : String
  about : String
  deriving DecidableEq, Repr

/-- A list with the explanations beside the terms. -/
def beside (entries : List Entry) : List String :=
  let width := (entries.map fun e => e.term.length).foldl max 0
  entries.map fun e =>
    "  " ++ e.term ++ String.ofList (List.replicate (width - e.term.length) ' ') ++ "  " ++ e.about

/-- A list with the explanations below the terms. -/
def below (entries : List Entry) : List String :=
  entries.flatMap fun e => ["  " ++ e.term, "          " ++ e.about]

/-- A list with the explanations below the terms, and a blank line between entries. -/
def apart (entries : List Entry) : List String :=
  List.intercalate [""] (entries.map fun e => below [e])

/-- An explanation with the variable of the environment that an option falls back to. -/
def withVariable (env : Environment) (about name : String) : String :=
  (if about.isEmpty then "" else about ++ " ") ++
    "[env: " ++ name ++ "=" ++ (env name).getD "" ++ "]"

/-! ## The commands -/

def commandEntries : List Entry := [
  ⟨"run", "Run the indexer until Ctrl-C"⟩,
  ⟨"status", "Show the node's latest height and the handler cursor"⟩,
  ⟨"version", "Print version"⟩,
  ⟨"help", "Print this message or the help of the given subcommand(s)"⟩]

/-- The options for settings. -/
def settingEntries (env : Environment) : List Entry := [
  ⟨"-c, --config <CONFIG>",
    withVariable env "YAML config file (defaults apply when omitted)" "CHAINSYNC_CONFIG"⟩,
  ⟨"    --chain-rpc <CHAIN_RPC>", withVariable env "" "CHAINSYNC_CHAIN_RPC"⟩,
  ⟨"    --app-rpc <APP_RPC>", withVariable env "" "CHAINSYNC_APP_RPC"⟩,
  ⟨"    --storage <STORAGE>", withVariable env "" "CHAINSYNC_STORAGE"⟩,
  ⟨"    --handler-id <HANDLER_ID>", "Handler ID (cursor key)"⟩]

def runEntries : List Entry := [
  ⟨"    --window-size <WINDOW_SIZE>", "Heights fetched concurrently"⟩,
  ⟨"    --starting-height <STARTING_HEIGHT>", "First height indexed after genesis"⟩,
  ⟨"    --json-logs", "Emit JSON logs"⟩]

/-- The option that asks for help on a command. -/
def helpEntry : Entry := ⟨"-h, --help", "Print help"⟩

/-! ## Pages -/

/-- What the program does, in short. -/
def summary : List String := ["Cosmos / Tendermint indexer — ChainSync CLI"]

/-- What the program does, in full. -/
def description : List String := [
  "ChainSync CLI: index a Cosmos SDK chain height by height into an event store.",
  "",
  "ENVIRONMENT VARIABLES:",
  "  CHAINSYNC_CONFIG      Path to the YAML config file",
  "  CHAINSYNC_CHAIN_RPC   Tendermint RPC URL",
  "  CHAINSYNC_APP_RPC     Cosmos SDK REST URL",
  "  CHAINSYNC_STORAGE     memory | sqlite:<path> | postgres://...",
  "  RUST_LOG              Log filter, overrides the config file",
  ""]

/-- A page: what the thing does, how it is written, and lists under their titles. -/
def page (about : List String) (usage : String) (lists : List (String × List String)) :
    List String :=
  about ++ ["", "Usage: " ++ usage] ++
    lists.flatMap fun (title, lines) => ["", title ++ ":"] ++ lines

def helpLines (env : Environment) (full : Bool) : Topic → List String
  | .program =>
    let other := if full then "a summary with '-h'" else "more with '--help'"
    let options : List Entry :=
      [⟨"-h, --help", "Print help (see " ++ other ++ ")"⟩, ⟨"-V, --version", "Print version"⟩]
    page (if full then description else summary) (programName ++ " <COMMAND>")
      [("Commands", beside commandEntries),
       ("Options", if full then apart options else beside options)]
  | .run =>
    page ["Run the indexer until Ctrl-C"] (programName ++ " run [OPTIONS]")
      [("Options", below (settingEntries env ++ runEntries ++ [helpEntry]))]
  | .status =>
    page ["Show the node's latest height and the handler cursor"]
      (programName ++ " status [OPTIONS]")
      [("Options", beside (settingEntries env ++
        [⟨"    --json", "Output as JSON"⟩, helpEntry]))]
  | .version => page ["Print version"] (programName ++ " version") [("Options", beside [helpEntry])]
  | .help =>
    page ["Print this message or the help of the given subcommand(s)"]
      (programName ++ " help [COMMAND]...")
      [("Arguments", beside [⟨"[COMMAND]...", "Print help for the subcommand(s)"⟩])]

def helpText (env : Environment) (topic : Topic) (full : Bool) : String :=
  String.join ((helpLines env full topic).map fun line => line ++ "\n")

end ChainIndexer.Cli
