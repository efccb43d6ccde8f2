/-!
# Lookups at the same time

Some tasks, each taking its time, of which at most so many run at the same time. They start in
order as permits come free; tasks that end at the same time end in the order in which they started,
before any waiting task starts. A task that takes no time ends as it starts.
-/

namespace ChainIndexer.Sim

/-- A task that runs: when it ends, and its place. -/
structure Running where
  ends : Nat
  place : Nat
  deriving DecidableEq, Repr

/-- The tasks that run, those that wait with the time that each takes, those that ended, the last
first, and the most that ever ran at the same time. -/
structure Lookups where
  running : List Running := []
  waiting : List (Nat × Nat) := []
  ended : List (Nat × Nat) := []
  peak : Nat := 0
  deriving DecidableEq, Repr

namespace Lookups

/-- Starts waiting tasks at a time while there are permits. -/
def start (permits now : Nat) : List (Nat × Nat) → Lookups → Lookups
  | [], s => { s with waiting := [] }
  | (place, takes) :: rest, s =>
    if s.running.length < permits then
      let peak := max s.peak (s.running.length + 1)
      if takes = 0 then start permits now rest { s with ended := (place, now) :: s.ended, peak }
      else start permits now rest
        { s with running := s.running ++ [⟨now + takes, place⟩], peak }
    else { s with waiting := (place, takes) :: rest }

/-- When the next task ends. -/
def nextEnd? (s : Lookups) : Option Nat := (s.running.map Running.ends).min?

/-- Goes to the time at which the next tasks end. -/
def step (permits : Nat) (s : Lookups) : Lookups :=
  match s.nextEnd? with
  | none => s
  | some now =>
    let ending := s.running.filter fun r => r.ends = now
    start permits now s.waiting
      { s with
        running := s.running.filter fun r => r.ends ≠ now
        ended := (ending.map fun r => (r.place, now)).reverse ++ s.ended }

/-- Goes on so many times. -/
def steps (permits : Nat) : Nat → Lookups → Lookups
  | 0, s => s
  | n + 1, s => steps permits n (s.step permits)

/-- Runs tasks that take these times: each place and when it ended, in the order of the ends, and
the most that ran at the same time. -/
def run (permits : Nat) (takes : List Nat) : List (Nat × Nat) × Nat :=
  let waiting := (List.range takes.length).zip takes
  let s := steps permits takes.length (start permits 0 waiting {})
  (s.ended.reverse, s.peak)

end Lookups

end ChainIndexer.Sim
