import ChainIndexer.Config.Setup
import ChainIndexer.Sync.Tracker

/-!
# A run against the servers

The surroundings of a manager that was set up: the two servers are asked over the network, and the
events go to the handler that was opened. Nothing waits here. Where the manager would wait, the
state tells for how long, and whoever drives the manager waits. As long as no height is known a
round ends at once, and is begun again after the wait.
-/

namespace ChainIndexer

variable {σ α : Type}

/-- The handler, what the clients know and the other end, the tracker with the manager's receiver,
and how many milliseconds the manager waits before it goes on. -/
structure Live (σ : Type) where
  store : Store
  session : App.Session σ
  tracker : Tracker := {}
  receiver : Receiver := {}
  wait : Nat := 0

/-- Questions on the way to a height, with a count of the transactions that were found. -/
abbrev Traffic (σ : Type) := StateT (App.Session σ × Nat) Option

/-- The answer to a question. -/
def Traffic.ask (q : Query (App.Session σ) α) : Traffic σ (Except RpcError α) :=
  fun (session, found) => (q session).map fun (answer, session) => (answer, session, found)

namespace Setup

variable (s : Setup) (net : Network σ) (fuel : Nat)

/-- Where the heights of a run come from. -/
def source : Source (Traffic σ) where
  genesis := Traffic.ask (App.onRemote (s.chain.genesis net fuel))
  block height := Traffic.ask (App.onRemote (s.chain.block net fuel height))
  results height := Traffic.ask (App.onRemote (s.chain.blockResults net fuel height))
  join lookups := lookups.mapM fun l => do return l.finish (← Traffic.ask (s.app.tx net fuel l.hash))
  found n := modify fun (session, found) => (session, found + n)

def fetchBatch (first last : Height) : Traffic σ (List (Height × Outcome (List Command))) :=
  let fetcher : Fetcher := { parser := s.config.parserConfig }
  (Height.range first last).mapM fun height => do
    return (height, ← fetcher.task (s.source net fuel) s.config.permits height)

/-- Asks the node for its latest height. -/
def poll (live : Live σ) : Live σ :=
  match s.chain.latestHeight net fuel live.session.remote with
  | some (answer, remote) =>
    { live with
      session := { live.session with remote }
      tracker := live.tracker.observe answer.toOption }
  | none => live

/-- The surroundings of the manager of a run. -/
def surroundings : Surroundings (Live σ) where
  cursor _ live := (some (.ok live.store.cursor?), live)
  latest _ live := match live.tracker.published with
    | some height => (some height, live)
    | none =>
      let live := s.poll net fuel live
      (live.tracker.published, { live with wait := s.config.pollingIntervalMs.toNat })
  fetch _ first last live := match s.fetchBatch net fuel first last (live.session, 0) with
    | some (outcomes, session, found) => ((found, some outcomes), { live with session })
    | none => ((0, none), live)
  handle _ height events live := match live.store.handle height events with
    | .ok store => (some (.ok ()), { live with store })
    | .error e => (some (.error e), live)
  markSeen live := { live with receiver := .subscribe live.tracker }
  news _ live :=
    let live := s.poll net fuel live
    let wait := if live.receiver.hasChanged live.tracker then 0 else s.config.pollingIntervalMs.toNat
    (some (), { live with wait })
  pause _ ms live := (some (), { live with wait := ms.toNat })

def begin (start : σ) : Status × Live σ :=
  ({}, { store := s.store, session := ⟨{ config := s.config.cacheConfig }, start⟩ })

end Setup

end ChainIndexer
