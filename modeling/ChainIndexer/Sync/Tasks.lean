import ChainIndexer.Sync.Fetch
import ChainIndexer.Sync.Window

/-!
# Tasks that may crash

The poller and the fetch of each height are tasks of their own. A task crashes where it asks for
something that cannot be made: a timer without a period, or more permits than can be counted. Nobody
waits for the poller, whose crash goes unnoticed; the crash of a fetch is the failure of its batch.
-/

namespace ChainIndexer

/-! ## Timers and permits -/

/-- A timer that goes off once a period, in milliseconds. -/
structure Timer where
  period : Nat
  pos : 0 < period
  deriving DecidableEq, Repr

/-- The timer of a period, if there can be one. -/
def Timer.every? (ms : Nat) : Option Timer := if h : 0 < ms then some ⟨ms, h⟩ else none

/-- The most permits that can be counted. -/
def mostPermits : Nat := 0x1FFFFFFFFFFFFFFF

/-! ## Fetching -/

variable {m : Type → Type} [Monad m]

/-- The chain as a task asks it. The permits for the lookups of a block are made before the first of
them; no answer is a crash. -/
def Source.guarded (source : Source m) (permits : Nat) : Source (OptionT m) where
  genesis := .lift source.genesis
  block height := .lift (source.block height)
  results height := .lift (source.results height)
  join lookups := if permits ≤ mostPermits then .lift (source.join lookups) else .fail
  found n := .lift (source.found n)

/-- The task that fetches a height, with so many permits for lookups. -/
def Fetcher.task (f : Fetcher) (source : Source m) (permits : Nat) (height : Height) :
    m (Outcome (List Command)) := do
  match ← (f.fetch (source.guarded permits) height).run with
  | some result => return .done result
  | none => return .crashed

end ChainIndexer
