import ChainIndexer.Sync.Tracker

/-!
# A node that answers from a script

The node gives one answer a poll; no answer and every poll past the end of the script are failures.
-/

namespace ChainIndexer.Sim

/-- The answers left, the polls so far, and the tracker that polls. -/
structure Heights where
  script : List (Option Height)
  polls : Nat := 0
  tracker : Tracker := {}

namespace Heights

/-- Asks the node once; gives its answer. -/
def poll (s : Heights) : Option Height × Heights :=
  let answer := s.script.head?.join
  (answer, { script := s.script.drop 1, polls := s.polls + 1, tracker := s.tracker.observe answer })

/-- Asks the node some times. -/
def pollTimes : Nat → Heights → Heights
  | 0, s => s
  | n + 1, s => pollTimes n s.poll.2

/-- The published height, for which the node is asked at most so many times. -/
def latest : Nat → Heights → Option Height × Heights
  | 0, s => (s.tracker.published, s)
  | n + 1, s => match s.tracker.published with
    | some h => (some h, s)
    | none => latest n s.poll.2

/-- How many polls start within some time, one an interval. -/
def pollsWithin (time interval : Nat) : Nat := time / interval + 1

end Heights

end ChainIndexer.Sim
