import ChainIndexer.Chain.Block

/-!
# The height of the chain

A tracker asks the node for its latest height and publishes an answer only when it is higher than
every answer before it. A receiver remembers which publication it saw last, so it can tell whether
there is a newer one.
-/

namespace ChainIndexer

/-- The published height, and how often one was published. -/
structure Tracker where
  published : Option Height := none
  publications : Nat := 0
  deriving DecidableEq, Repr

namespace Tracker

/-- The height is higher than the published one. -/
def isNews (t : Tracker) (height : Height) : Bool :=
  match t.published with
  | some h => h < height
  | none => true

/-- Takes an answer of the node; none is a failure. -/
def observe (t : Tracker) (answer : Option Height) : Tracker :=
  match answer with
  | some height =>
    if t.isNews height then ⟨some height, t.publications + 1⟩ else t
  | none => t

end Tracker

/-- Follows a tracker: how many publications it has seen. -/
structure Receiver where
  seen : Nat := 0
  deriving DecidableEq, Repr

namespace Receiver

/-- A receiver to which the published height counts as seen. -/
def subscribe (t : Tracker) : Receiver := ⟨t.publications⟩

def hasChanged (r : Receiver) (t : Tracker) : Bool := r.seen ≠ t.publications

end Receiver

end ChainIndexer
