import ChainIndexer.Cli.Basic
import ChainIndexer.Sync.Live

/-!
# The command line

Hands the arguments, the environment and the files that are named to `Cli.execute` and carries out
its ending: a run that was set up is driven until it is interrupted. The program is linked without
sockets, so no request reaches a server.
-/

namespace ChainIndexer.Cli

/-- Why a file cannot be read, in the words of the operating system. -/
def reasonOf : IO.Error → String
  | .noFileOrDirectory .. => "No such file or directory (os error 2)"
  | .permissionDenied .. => "Permission denied (os error 13)"
  | .inappropriateType .. => "Is a directory (os error 21)"
  | e => e.toString

/-- The content of a file, or why there is none. -/
def readFile (path : String) : IO (Except String String) := do
  try return .ok (← IO.FS.readFile path)
  catch e => return .error (reasonOf e)

/-- The variables that the program looks at. -/
def variableNames : List String :=
  ["CHAINSYNC_CONFIG", "CHAINSYNC_CHAIN_RPC", "CHAINSYNC_APP_RPC", "CHAINSYNC_STORAGE"]

def environment : IO Environment := do
  let found ← variableNames.filterMapM fun name => do
    return (← IO.getEnv name).map fun value => (name, value)
  return fun name => found.lookup name

/-- The file with the settings that an invocation names. -/
def Invocation.file? : Invocation → Option String
  | .run args => args.settings.config
  | .status args => args.settings.config
  | _ => none

/-- How many requests one question may take: as many as there are numbers for pieces. -/
def mostRequests : Nat := 0x10000000000000000

/-- Drives a manager for ever, round by round, and waits where it waits. -/
partial def drive {σ : Type} (env : Surroundings (Live σ)) (config : ManagerConfig)
    (state : Status × Live σ) : IO Unit := do
  let (_, state) := Manager.round env config state
  IO.sleep (UInt32.ofNat (min state.2.wait 0xFFFFFFFF))
  drive env config state

/-- Carries out an ending; the result is the exit code. -/
def finishWith {σ : Type} (host : Host σ) (start : σ) : Ending → IO UInt32
  | .misuse => do
    (← IO.getStderr).putStr (helpText (fun _ => none) .program false)
    return 2
  | .said text => do
    (← IO.getStdout).putStr text
    return 0
  | .failed f => do
    (← IO.getStderr).putStr f.report
    return 1
  | .running setup => do
    drive (setup.surroundings host.net mostRequests) setup.config.managerConfig (setup.begin start)
    return 0

end ChainIndexer.Cli

open ChainIndexer ChainIndexer.Cli in
/-- Runs the program. -/
def main (args : List String) : IO UInt32 := do
  let env ← environment
  let path? := (Invocation.ofArgs env args).bind Invocation.file?
  let content ← path?.mapM readFile
  let host : Host Unit := {
    env
    file := fun _ => content.getD (.error (reasonOf (.noFileOrDirectory "" 2 "")))
    disk := fun _ => .vacant
    net := .unreachable }
  finishWith host () (execute host () args)
