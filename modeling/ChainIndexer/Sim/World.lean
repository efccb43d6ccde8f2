import ChainIndexer.Sim.Script
import ChainIndexer.Store.Basic
import ChainIndexer.Sync.Manager
import ChainIndexer.Sync.Tasks
import ChainIndexer.Sync.Tracker

/-!
# A world with a clock

Surroundings in which a manager can run without servers: a scripted chain, a tracker that polls it
beside the manager, a handler, and a clock in milliseconds. Time moves only while everything waits.
The manager acts before a poll that falls on the same time. At a given time the world ends the run.
-/

namespace ChainIndexer.Sim

/-- The world. `pollsAt` is the time of the next poll beside the manager; `rejects` are heights
whose next write is rejected; `cursorDown` makes the next read of the cursor fail. What was asked of
the chain and handed to the handler is noted with its time, the newest first, and so is what the
manager was doing between two times. -/
structure World where
  script : Script
  fetcher : Fetcher := {}
  permits : Nat := 10
  interval : Nat := 5000
  store : Store
  clock : Nat := 0
  stopsAt : Option Nat := none
  pollsAt : Option Nat := none
  tracker : Tracker := {}
  receiver : Receiver := {}
  rejects : List Height := []
  cursorDown : Bool := false
  asked : List (Nat × Height) := []
  offered : List (Nat × Height) := []
  spans : List (Nat × Nat × SyncState) := []

namespace World

/-! ## Time -/

/-- The chain is asked for its latest height. -/
def poll (w : World) : World :=
  { w with tracker := w.tracker.observe (w.script.latestAt w.clock) }

def goto (w : World) (status : Status) (time : Nat) : World :=
  { w with clock := time, spans := (w.clock, time, status.activity) :: w.spans }

/-- The time of the next poll beside the manager, which a poller without a timer never makes. -/
def nextPoll? (w : World) : Option Nat := (Timer.every? w.interval).bind fun _ => w.pollsAt

/-- Makes the polls before a time, at most so many. -/
def pollUntil (status : Status) (time : Nat) : Nat → World → World
  | 0, w => w
  | most + 1, w => match w.nextPoll? with
    | some t =>
      if t < time then
        let w := (w.goto status (max t w.clock)).poll
        pollUntil status time most { w with pollsAt := some (t + w.interval) }
      else w
    | none => w

def pollsBefore (w : World) (time : Nat) : Nat :=
  match w.nextPoll? with
  | some t => (time - t) / max w.interval 1 + 1
  | none => 0

/-- Waits until a time; the world may end the run before. -/
def waitUntil (status : Status) (time : Nat) (w : World) : Option Unit × World :=
  let stopped := w.stopsAt.any fun t => t ≤ time
  let time := if stopped then (w.stopsAt.getD time) else time
  let w := (pollUntil status time (w.pollsBefore time) w).goto status time
  (if stopped then none else some (), w)

/-! ## The chain -/

/-- Waits for a published height, asking the chain itself, at most so many times. -/
def awaitHeight (status : Status) : Nat → World → Option Height × World
  | 0, w => (none, w)
  | most + 1, w => match w.tracker.published with
    | some h => (some h, w)
    | none =>
      let w := w.poll
      match w.tracker.published with
      | some h => (some h, w)
      | none => match waitUntil status (w.clock + w.interval) w with
        | (some (), w) => awaitHeight status most w
        | (none, w) => (none, w)

/-- How often the chain may be asked in vain: until the run ends, or else until the script no
longer changes. -/
def patience (w : World) : Nat :=
  let last := (w.script.latest.map Prod.fst).foldl max 0
  (w.stopsAt.getD last - w.clock) / max w.interval 1 + 2

/-- Fetches one height at the present time. -/
def fetchOne (w : World) (height : Height) : Except SyncError (List Command) × Trace :=
  (w.fetcher.fetch (w.script.source w.permits w.clock) height).run {}

/-- The task that fetches one height at the present time. -/
def fetchTask (w : World) (height : Height) : Outcome (List Command) × Trace :=
  (w.fetcher.task (w.script.source w.permits w.clock) w.permits height).run {}

/-- Fetches the heights of a batch at the same time. -/
def fetchBatch (status : Status) (first last : Height) (w : World) :
    (Nat × Option (List (Height × Outcome (List Command)))) × World :=
  let heights := Height.range first last
  let fetched := heights.map fun h => (h, w.fetchTask h)
  let ordered := fetched.mergeSort fun a b => a.2.2.duration ≤ b.2.2.duration
  let w := { w with asked := (heights.map fun h => (w.clock, h)).reverse ++ w.asked }
  let ends := w.clock + (fetched.map fun f => f.2.2.duration).foldl max 0
  let start := w.clock
  match waitUntil status ends w with
  | (some (), w) =>
    let found := Numeral.total (fetched.map fun f => f.2.2.found)
    ((found, some (ordered.map fun f => (f.1, f.2.1))), w)
  | (none, w) =>
    let inTime := fetched.filter fun f => start + f.2.2.duration < w.clock
    ((Numeral.total (inTime.map fun f => f.2.2.found), none), w)

/-! ## The handler -/

/-- Hands events to the handler. -/
def handle (height : Height) (events : List Event) (w : World) :
    Except SyncError Unit × World :=
  let w := { w with offered := (w.clock, height) :: w.offered }
  if w.rejects.contains height then
    (.error (.handler w.store.id "database is locked"),
      { w with rejects := w.rejects.erase height })
  else match w.store.handle height events with
    | .ok store => (.ok (), { w with store })
    | .error e => (.error e, w)

/-- Reads the cursor of the handler. -/
def cursor (w : World) : Except SyncError (Option Height) × World :=
  if w.cursorDown then (.error (.storage "cursor unavailable"), { w with cursorDown := false })
  else (.ok w.store.cursor?, w)

/-! ## Waiting -/

/-- Waits for news until a time, going from poll to poll, of which there are at most so many. -/
def awaitNews (status : Status) (deadline : Nat) : Nat → World → Option Unit × World
  | 0, w => waitUntil status deadline w
  | most + 1, w =>
    if w.receiver.hasChanged w.tracker then (some (), w)
    else match w.nextPoll? with
      | some t =>
        if t < deadline && !(w.stopsAt.any fun stop => stop ≤ t) then
          let w := (w.goto status (max t w.clock)).poll
          awaitNews status deadline most { w with pollsAt := some (t + w.interval) }
        else waitUntil status deadline w
      | none => waitUntil status deadline w

def surroundings : Surroundings World where
  cursor _ w :=
    let (r, w) := w.cursor
    (some r, w)
  latest status w := awaitHeight status w.patience w
  fetch status first last w := fetchBatch status first last w
  handle _ height events w :=
    let (r, w) := handle height events w
    (some r, w)
  markSeen w := { w with receiver := .subscribe w.tracker }
  news status w :=
    let deadline := w.clock + w.interval
    awaitNews status deadline (w.pollsBefore deadline + 1) w
  pause status ms w := waitUntil status (w.clock + ms.toNat) w

/-! ## What was seen -/

/-- What the manager was doing at a time; `last` is what it does at the end. -/
def activityAt (w : World) (last : SyncState) (time : Nat) : SyncState :=
  match w.spans.reverse.find? fun s => s.1 ≤ time && time < s.2.1 with
  | some (_, _, activity) => activity
  | none => last

end World

end ChainIndexer.Sim
