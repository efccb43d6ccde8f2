import ChainIndexer.Numeral

/-!
# Arguments

The arguments of the command line: a command and its options. An option is written `--name value`,
`--name=value`, and if it has a letter also `-x value`, `-xvalue` or `-x=value`. A value of its own
does not start with a dash, except the dash alone. An option is given at most once; some options
fall back to a variable of the environment. The first thing that is wrong, or that asks for help,
ends the reading.
-/

namespace ChainIndexer.Cli

/-! ## Tokens -/

/-- An argument by its looks. -/
inductive Token
  | long (name : List Char) (value : Option (List Char))
  | short (letter : Char) (rest : List Char)
  | stop
  | plain
  deriving DecidableEq, Repr

/-- The looks of an argument. -/
def Token.ofChars : List Char → Token
  | ['-', '-'] => .stop
  | '-' :: '-' :: cs =>
    .long (cs.takeWhile (· ≠ '=')) (match cs.dropWhile (· ≠ '=') with
      | [] => none
      | _ :: value => some value)
  | '-' :: c :: cs => .short c cs
  | _ => .plain

/-! ## Options -/

/-- What an option does to the arguments read so far; `none` refuses it or its value. -/
inductive Action (α : Type)
  | value (set : α → String → Option α)
  | switch (set : α → Option α)

/-- An option. -/
structure Opt (α : Type) where
  name : String
  letter : Option Char := none
  action : Action α

/-- What ends the reading of arguments: a mistake, or the wish for help, in full or in short. -/
inductive Stop
  | misuse
  | help (full : Bool)
  deriving DecidableEq, Repr

/-- The value in the same argument, after an equals sign if there is one. -/
def attached : List Char → Option (List Char)
  | [] => none
  | '=' :: value => some value
  | value => some value

/-- Such an argument can be the value of an option. -/
def isPlain (arg : String) : Bool := Token.ofChars arg.toList == .plain

/-- The option that an argument names, with the value in the same argument. -/
def findOption {α : Type} (opts : List (Opt α)) (arg : String) :
    Except Stop (Action α × Option (List Char)) :=
  match Token.ofChars arg.toList with
  | .long name value =>
    if name = "help".toList ∧ value = none then .error (.help true)
    else match opts.find? fun o => o.name.toList == name with
      | some o => .ok (o.action, value)
      | none => .error .misuse
  | .short letter rest =>
    if letter = 'h' then .error (.help false)
    else match opts.find? fun o => o.letter == some letter with
      | some o => .ok (o.action, attached rest)
      | none => .error .misuse
  | _ => .error .misuse

/-- The arguments, unless an option was refused. -/
def accepted {α : Type} : Option α → Except Stop α
  | some a => .ok a
  | none => .error .misuse

def readOptions {α : Type} (opts : List (Opt α)) : α → List String → Except Stop α
  | a, [] => .ok a
  | a, arg :: rest =>
    if arg = "--" then if rest.isEmpty then .ok a else .error .misuse
    else match findOption opts arg with
      | .error stop => .error stop
      | .ok (.switch set, none) => do readOptions opts (← accepted (set a)) rest
      | .ok (.switch _, some _) => .error .misuse
      | .ok (.value set, some value) => do
        readOptions opts (← accepted (set a (String.ofList value))) rest
      | .ok (.value set, none) => match rest with
        | value :: rest =>
          if isPlain value then do readOptions opts (← accepted (set a value)) rest
          else .error .misuse
        | [] => .error .misuse

/-- Sets a value that was not set before. -/
def once {β : Type} : Option β → β → Option (Option β)
  | none, b => some (some b)
  | some _, _ => none

/-- Sets a path, which is not empty. -/
def oncePath (old : Option String) (path : String) : Option (Option String) :=
  if path.isEmpty then none else once old path

/-- Sets a number of 64 bits. -/
def onceNumber (old : Option UInt64) (text : String) : Option (Option UInt64) :=
  (Numeral.readUInt64 text).toOption.bind (once old)

/-- Turns a switch on that was off. -/
def onceOn (old : Bool) : Option Bool := if old then none else some true

/-! ## Settings -/

/-- The options by which every command that works with settings can change them. -/
structure SettingArgs where
  config : Option String := none
  chainRpc : Option String := none
  appRpc : Option String := none
  storage : Option String := none
  handlerId : Option String := none
  deriving DecidableEq, Repr

/-- The options for settings, inside other arguments. -/
def settingOptions {α : Type} (get : α → SettingArgs) (put : α → SettingArgs → α) : List (Opt α) :=
  let text (set : SettingArgs → String → Option SettingArgs) : Action α :=
    .value fun a s => (set (get a) s).map (put a)
  [{ name := "config", letter := some 'c'
     action := text fun a s => (oncePath a.config s).map fun config => { a with config } },
   { name := "chain-rpc"
     action := text fun a s => (once a.chainRpc s).map fun chainRpc => { a with chainRpc } },
   { name := "app-rpc"
     action := text fun a s => (once a.appRpc s).map fun appRpc => { a with appRpc } },
   { name := "storage"
     action := text fun a s => (once a.storage s).map fun storage => { a with storage } },
   { name := "handler-id"
     action := text fun a s => (once a.handlerId s).map fun handlerId => { a with handlerId } }]

abbrev Environment := String → Option String

/-- Fills in from the environment what was not given; a path that is empty is refused. -/
def SettingArgs.withEnvironment (env : Environment) (a : SettingArgs) : Option SettingArgs :=
  let config := a.config <|> env "CHAINSYNC_CONFIG"
  if config = some "" then none
  else some { a with
    config
    chainRpc := a.chainRpc <|> env "CHAINSYNC_CHAIN_RPC"
    appRpc := a.appRpc <|> env "CHAINSYNC_APP_RPC"
    storage := a.storage <|> env "CHAINSYNC_STORAGE" }

/-! ## Commands -/

/-- The arguments of a run. -/
structure RunArgs where
  settings : SettingArgs := {}
  windowSize : Option UInt64 := none
  startingHeight : Option UInt64 := none
  jsonLogs : Bool := false
  deriving DecidableEq, Repr

/-- The arguments of the question for the status. -/
structure StatusArgs where
  settings : SettingArgs := {}
  json : Bool := false
  deriving DecidableEq, Repr

def runOptions : List (Opt RunArgs) :=
  settingOptions RunArgs.settings (fun a settings => { a with settings }) ++
  [{ name := "window-size"
     action := .value fun a s =>
       (onceNumber a.windowSize s).map fun windowSize => { a with windowSize } },
   { name := "starting-height"
     action := .value fun a s =>
       (onceNumber a.startingHeight s).map fun startingHeight => { a with startingHeight } },
   { name := "json-logs"
     action := .switch fun a => (onceOn a.jsonLogs).map fun jsonLogs => { a with jsonLogs } }]

def statusOptions : List (Opt StatusArgs) :=
  settingOptions StatusArgs.settings (fun a settings => { a with settings }) ++
  [{ name := "json", action := .switch fun a => (onceOn a.json).map fun json => { a with json } }]

/-- What help can be about. -/
inductive Topic
  | program
  | run
  | status
  | version
  | help
  deriving DecidableEq, Repr

/-- What the command line asks for. -/
inductive Invocation
  | run (args : RunArgs)
  | status (args : StatusArgs)
  | version
  | help (topic : Topic) (full : Bool)
  deriving DecidableEq, Repr

def Topic.ofName? (name : String) : Option Topic :=
  [("run", run), ("status", status), ("version", version), ("help", help)].lookup name

/-- Options that were read for a command, or the help on it that they ask for instead. -/
def finish {α : Type} (topic : Topic) (r : Except Stop α) (done : α → Option Invocation) :
    Option Invocation :=
  match r with
  | .ok a => done a
  | .error .misuse => none
  | .error (.help full) => some (.help topic full)

/-- What a command with its arguments asks for. -/
def command (env : Environment) (args : List String) : Topic → Option Invocation
  | .program => none
  | .run => finish .run (readOptions runOptions {} args) fun a =>
    (a.settings.withEnvironment env).map fun settings => .run { a with settings }
  | .status => finish .status (readOptions statusOptions {} args) fun a =>
    (a.settings.withEnvironment env).map fun settings => .status { a with settings }
  | .version => finish .version (readOptions [] () args) fun _ => some .version
  | .help => match args with
    | [] => some (.help .program true)
    | [name] => (Topic.ofName? name).map fun topic => .help topic true
    | _ => none

/-- What a command line asks for; there is none where it is misused. -/
def Invocation.ofArgs (env : Environment) : List String → Option Invocation
  | [] => none
  | arg :: args =>
    match Token.ofChars arg.toList with
    | .plain => (Topic.ofName? arg).bind (command env args)
    | .long name none =>
      if name = "help".toList then some (.help .program true)
      else if name = "version".toList then some .version
      else none
    | .short 'h' _ => some (.help .program false)
    | .short 'V' _ => some .version
    | _ => none

end ChainIndexer.Cli
