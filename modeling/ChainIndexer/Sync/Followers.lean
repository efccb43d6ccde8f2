import ChainIndexer.Sync.Tracker

/-!
# Tasks that share a tracker

Any number of pollers and of calls for the latest height share one tracker. Each is a task that
advances on its own: between two of its steps the others may take any number of theirs. A request is
open from the step that sends it to the step that takes its answer, so answers may come in another
order than they were asked for. A task may be dropped at any time, its open request with it.
-/

namespace ChainIndexer

/-- Where a task stands. A poller waits for its tick or for an answer. A call for the latest height
is about to look at the published height, waits for an answer, or rests after a failure. -/
inductive Follower
  | ticking
  | polling
  | looking
  | asking
  | resting
  | gone
  deriving DecidableEq, Repr

namespace Follower

/-- The task is a call that has not returned. -/
def isCall : Follower → Bool
  | looking | asking | resting => true
  | ticking | polling | gone => false

end Follower

/-- What happens next: a poller or a call starts, a task takes its next step, or it is dropped. The
answer of the node is used where the step takes one; none is a failure. -/
inductive Move
  | startPoller
  | startCall
  | act (task : Nat) (answer : Option Height)
  | drop (task : Nat)
  deriving DecidableEq, Repr

/-- The tasks and their tracker. What was answered and what calls returned is noted, in order. -/
structure Crowd where
  tracker : Tracker := {}
  tasks : List Follower := []
  answers : List (Option Height) := []
  returned : List (Nat × Height) := []
  deriving DecidableEq, Repr

namespace Crowd

/-- A task stands somewhere else. -/
def put (c : Crowd) (task : Nat) (f : Follower) : Crowd := { c with tasks := c.tasks.set task f }

def answer (c : Crowd) (answer : Option Height) : Crowd :=
  { c with tracker := c.tracker.observe answer, answers := c.answers ++ [answer] }

/-- A call looks at the published height: it returns it, or else asks the node. -/
def look (c : Crowd) (task : Nat) : Crowd :=
  match c.tracker.published with
  | some height => { c.put task .gone with returned := c.returned ++ [(task, height)] }
  | none => c.put task .asking

/-- The next step of a task that stands here. -/
def act (c : Crowd) (task : Nat) (answer : Option Height) : Follower → Crowd
  | .ticking => c.put task .polling
  | .polling => (c.answer answer).put task .ticking
  | .looking => c.look task
  | .asking => (c.answer answer).put task (if answer.isSome then .looking else .resting)
  | .resting => c.put task .looking
  | .gone => c

def step (c : Crowd) : Move → Crowd
  | .startPoller => { c with tasks := c.tasks ++ [.ticking] }
  | .startCall => { c with tasks := c.tasks ++ [.looking] }
  | .act task answer => c.act task answer (c.tasks.getD task .gone)
  | .drop task => c.put task .gone

def run (c : Crowd) (moves : List Move) : Crowd := moves.foldl step c

end Crowd

end ChainIndexer
