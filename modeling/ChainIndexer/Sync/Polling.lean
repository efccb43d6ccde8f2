import ChainIndexer.Sync.Manager
import ChainIndexer.Sync.Tracker

/-!
# Polls beside the manager

The manager and the poller share one tracker. A schedule says what comes of the polls before each
step of the manager, so that the polls may fall between any two of its steps, in any number; the run
ends with the schedule.

* `Tracker.awaitHeight` reads the published height, once there is one.
* `Receiver.watch` waits for a publication that was not seen.
* `Surroundings.beside` puts the polls beside the other surroundings of a manager.
-/

namespace ChainIndexer

variable {σ α : Type}

/-- What comes of the polls before each step: the answers of the node, none for a failure. -/
abbrev Schedule := List (List (Option Height))

namespace Tracker

/-- Takes the answers of polls one after the other. -/
def observeAll (t : Tracker) (answers : List (Option Height)) : Tracker := answers.foldl observe t

/-- The published height; as long as there is none, the next polls are awaited. -/
def awaitHeight (t : Tracker) : Schedule → Option Height × Tracker × Schedule
  | [] => (t.published, t, [])
  | answers :: schedule => match t.published with
    | some height => (some height, t, answers :: schedule)
    | none => (t.observeAll answers).awaitHeight schedule

end Tracker

/-- Waits for a publication that was not seen while these polls are made, and tells whether there
was one; if there was none, the timer ends the wait. -/
def Receiver.watch (r : Receiver) (t : Tracker) : List (Option Height) → Bool × Tracker
  | [] => (r.hasChanged t, t)
  | answer :: answers => if r.hasChanged t then (true, t) else r.watch (t.observe answer) answers

/-- The surroundings of a manager with the tracker, the manager's receiver and the polls to come. -/
structure Beside (σ : Type) where
  rest : σ
  tracker : Tracker
  receiver : Receiver
  schedule : Schedule

namespace Beside

/-- A new receiver of a tracker. -/
def start (rest : σ) (tracker : Tracker) (schedule : Schedule) : Beside σ :=
  ⟨rest, tracker, .subscribe tracker, schedule⟩

/-- Makes the polls before the next step, unless the run ends. -/
def poll? (b : Beside σ) : Option (Beside σ) :=
  match b.schedule with
  | [] => none
  | answers :: schedule => some { b with tracker := b.tracker.observeAll answers, schedule }

/-- A step that has nothing to do with the tracker; `ended` is what it gives where the run ends. -/
def step (ended : α) (op : σ → α × σ) (b : Beside σ) : α × Beside σ :=
  match b.poll? with
  | none => (ended, b)
  | some b => ((op b.rest).1, { b with rest := (op b.rest).2 })

def latest (b : Beside σ) : Option Height × Beside σ :=
  match b.poll? with
  | none => (none, b)
  | some b =>
    let (height, tracker, schedule) := b.tracker.awaitHeight b.schedule
    (height, { b with tracker, schedule })

/-- The published height counts as seen from now on. -/
def markSeen (b : Beside σ) : Beside σ :=
  let b := b.poll?.getD b
  { b with receiver := .subscribe b.tracker }

/-- Waits for news or for the timer; news counts as seen from then on. -/
def news (b : Beside σ) : Option Unit × Beside σ :=
  match b.poll? with
  | none => (none, b)
  | some b => match b.schedule with
    | [] => (none, b)
    | answers :: schedule =>
      let (changed, tracker) := b.receiver.watch b.tracker answers
      let receiver := if changed then .subscribe tracker else b.receiver
      (some (), { b with tracker, receiver, schedule })

end Beside

/-- The surroundings with polls beside them, in place of a chain height of their own. -/
def Surroundings.beside (env : Surroundings σ) : Surroundings (Beside σ) where
  cursor status := Beside.step none (env.cursor status)
  latest _ := Beside.latest
  fetch status first last := Beside.step (0, none) (env.fetch status first last)
  handle status height events := Beside.step none (env.handle status height events)
  markSeen := Beside.markSeen
  news _ := Beside.news
  pause status ms := Beside.step none (env.pause status ms)

end ChainIndexer
