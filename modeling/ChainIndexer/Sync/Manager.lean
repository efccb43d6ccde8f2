import ChainIndexer.Command.Execute
import ChainIndexer.Http.Retry
import ChainIndexer.Sync.Metrics
import ChainIndexer.Sync.State
import ChainIndexer.Sync.Window

/-!
# The manager

The manager brings a handler from its cursor up to the latest height, attempt by attempt.

* An attempt walks a range window by window. The heights of a window are fetched together; then,
  in ascending order, the commands of each are carried out and the events handed to the handler.
* After an attempt that succeeded the manager is idle until there is a higher height or the polling
  interval is over. After one that failed it waits, longer with every failure in a row, and tries
  again with a narrower target.

What the manager stands in is a `Surroundings`: the handler, the chain and the clock. Each of them
is told what the manager is doing, and may end the run instead of answering.
-/

namespace ChainIndexer

/-! ## Surroundings -/

/-- What the manager is doing, how many attempts in a row have failed, and its counters. -/
structure Status where
  activity : SyncState := .idle
  failures : UInt32 := 0
  metrics : Metrics := {}
  deriving DecidableEq, Repr

/-- What the manager stands in. No answer means that the run ends here.

`cursor` is the handler's cursor, `handle` hands it the events of a height. `latest` is the latest
height, once one is known. `fetch` fetches a batch: it gives the outcomes in the order of their
completion, and counts the transactions that it found, also where it is cut off. `markSeen` notes
the published height as seen, `news` waits for a higher one, but no longer than the polling
interval, and `pause` waits some milliseconds. -/
structure Surroundings (σ : Type) where
  cursor : Status → σ → Option (Except SyncError (Option Height)) × σ
  latest : Status → σ → Option Height × σ
  fetch : Status → Height → Height → σ →
    (Nat × Option (List (Height × Outcome (List Command)))) × σ
  handle : Status → Height → List Event → σ → Option (Except SyncError Unit) × σ
  markSeen : σ → σ
  news : Status → σ → Option Unit × σ
  pause : Status → UInt64 → σ → Option Unit × σ

/-- The manager's settings. -/
structure ManagerConfig where
  starting : Height := 0
  window : Window := .ofSize 10
  backoff : RetryConfig := .unbounded 1000 60000

/-- Why an action ends before its end: it failed, or the run ended. -/
inductive Halt
  | failed (e : SyncError)
  | dropped
  deriving DecidableEq

abbrev Act (σ : Type) := ExceptT Halt (StateM (Status × σ))

namespace Act

variable {σ α : Type}

def ask (op : Status → σ → Option α × σ) : Act σ α := fun (status, s) =>
  match op status s with
  | (some a, s) => (.ok a, (status, s))
  | (none, s) => (.error .dropped, (status, s))

/-- Asks the surroundings for something that may fail. -/
def demand (op : Status → σ → Option (Except SyncError α) × σ) : Act σ α := fun (status, s) =>
  match op status s with
  | (some (.ok a), s) => (.ok a, (status, s))
  | (some (.error e), s) => (.error (.failed e), (status, s))
  | (none, s) => (.error .dropped, (status, s))

def update (f : Status → Status) : Act σ Unit := fun (status, s) => (.ok (), (f status, s))

/-- Ends with a failure. -/
def fail (e : SyncError) : Act σ α := fun state => (.error (.failed e), state)

/-- The outcome of an action that may have failed. -/
def outcome (act : Act σ α) : Act σ (Except SyncError α) := fun state =>
  match act state with
  | (.ok a, state) => (.ok (.ok a), state)
  | (.error (.failed e), state) => (.ok (.error e), state)
  | (.error .dropped, state) => (.error .dropped, state)

end Act

/-! ## An attempt -/

namespace Command

/-- The events of a height's commands, or the failure of the first that yields none. -/
def executeAll (height : Height) (commands : List Command) : Except SyncError (List Event) :=
  commands.mapM fun c => c.execute.mapError fun e => e.toSync height

end Command

namespace Manager

variable {σ : Type}

/-- Carries out the commands of a height and hands over the events. -/
def commit (env : Surroundings σ) (height : Height) (commands : List Command) : Act σ Unit := do
  match Command.executeAll height commands with
  | .error e => Act.fail e
  | .ok events =>
    Act.demand fun status => env.handle status height events
    Act.update fun s => { s with metrics := s.metrics.countHeight height events.length }

/-- Commits heights in order; gives the last of them, or what was last before. -/
def commitAll (env : Surroundings σ) :
    List (Height × List Command) → Option Height → Act σ (Option Height)
  | [], last => return last
  | (height, commands) :: rest, _ => do
    commit env height commands
    commitAll env rest (some height)

/-- Fetches a batch and counts its transactions. -/
def fetch (env : Surroundings σ) (first last : Height) :
    Act σ (List (Height × Outcome (List Command))) := fun (status, s) =>
  match env.fetch status first last s with
  | ((txs, some finished), s) =>
    (.ok finished, ({ status with metrics := status.metrics.countTxs txs }, s))
  | ((txs, none), s) =>
    (.error .dropped, ({ status with metrics := status.metrics.countTxs txs }, s))

/-- Walks a range window by window; gives the last height that was committed. -/
def walk (env : Surroundings σ) (config : ManagerConfig) (current target : Height)
    (committed : Option Height) : Act σ (Option Height) :=
  if _h : current ≤ target then do
    let result ← config.window.sync (fetch env) current (config.window.lastOf current target)
    let committed ← commitAll env result.heights committed
    match result.error with
    | some e => Act.fail e
    | none =>
      match _e : resumeHeight (some (config.window.lastOf current target)) config.starting with
      | some next => walk env config next target committed
      | none => return committed
  else return committed
termination_by target.toNat + 1 - current.toNat
decreasing_by
  have h1 := lt_of_resumeHeight _e
  have h2 := config.window.le_lastOf _h
  have h3 := Height.le_iff.1 _h
  omega

/-- One attempt: gives the highest height that was committed, if there was anything to do. -/
def attempt (env : Surroundings σ) (config : ManagerConfig) (isRetry : Bool) :
    Act σ (Option Height) := do
  let cursor ← Act.demand env.cursor
  match resumeHeight cursor config.starting with
  | none => return none
  | some current =>
    let latest ← Act.ask env.latest
    let target := targetHeight latest current config.starting isRetry
    if target < current then return none
    else walk env config current target none

/-! ## The loop -/

/-- The pause after so many failures in a row. -/
def retryDelay (backoff : RetryConfig) (failures : UInt32) : UInt64 :=
  (backoff.nextDelay? failures).getD backoff.maxBackoff

/-- One more failure in a row; the count does not wrap. -/
def oneMore (failures : UInt32) : UInt32 :=
  if failures.toNat + 1 < 0x100000000 then failures + 1 else failures

/-- Changes what the manager is doing. -/
def enter (activity : SyncState) : Act σ Unit := Act.update fun s => { s with activity }

/-- An attempt and the wait after it. -/
def round (env : Surroundings σ) (config : ManagerConfig) : Act σ Unit := do
  modify fun (status, s) => (status, env.markSeen s)
  enter .syncing
  let (status, _) ← get
  match ← Act.outcome (attempt env config (0 < status.failures)) with
  | .ok _ =>
    Act.update fun s => { s with activity := .idle, failures := 0 }
    Act.ask env.news
  | .error _ =>
    let failures := oneMore status.failures
    Act.update fun s =>
      { s with activity := .backoff, failures, metrics := s.metrics.countFailure }
    Act.ask fun status => env.pause status (retryDelay config.backoff failures)

/-- So many rounds, unless the run ends before. -/
def rounds (env : Surroundings σ) (config : ManagerConfig) : Nat → Act σ Unit
  | 0 => return ()
  | n + 1 => do
    round env config
    rounds env config n

/-- Runs until the surroundings end it; none where that takes more rounds than allowed. -/
def run (env : Surroundings σ) (config : ManagerConfig) (most : Nat) (s : σ) :
    Option (Status × σ) :=
  match rounds env config most ({}, s) with
  | (.error _, state) => some state
  | (.ok _, _) => none

/-- Runs until the surroundings end it, which stops the manager. -/
def runUntil (env : Surroundings σ) (config : ManagerConfig) (most : Nat) (s : σ) :
    Option (Status × σ) :=
  (run env config most s).map fun (status, s) => ({ status with activity := .stopped }, s)

end Manager

end ChainIndexer
