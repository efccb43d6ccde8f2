import ChainIndexer.Sync.Error
import ChainIndexer.Sync.Plan

/-!
# Windows

A range of heights is split into batches of at most a window's size. The heights of a batch are
fetched at the same time and come back in ascending order, whatever the order of their completion.
A batch succeeds or fails as a whole; on a failure the batches before it are kept and none after it
is started. Genesis is always a batch of its own.
-/

namespace ChainIndexer

/-- The most heights that are fetched at the same time. -/
structure Window where
  size : UInt64
  pos : 0 < size
  deriving DecidableEq, Repr

def Height.range (first last : Height) : List Height :=
  (List.range (last.toNat + 1 - first.toNat)).map fun i => first + UInt64.ofNat i

namespace Window

/-- The window of a size; none is taken as one. -/
def ofSize (n : UInt64) : Window := if h : 0 < n then ⟨n, h⟩ else ⟨1, by decide⟩

/-! ## Batches -/

/-- The last height of the batch that starts a range. -/
def lastOf (w : Window) (first stop : Height) : Height :=
  if first = 0 then 0 else min (first.plus (w.size - 1)) stop

theorem toNat_le_plus (h : Height) (n : UInt64) : h.toNat ≤ (h.plus n).toNat := by
  unfold Height.plus
  split
  · rw [UInt64.toNat_add, Nat.mod_eq_of_lt (by omega)]
    omega
  · have := h.toNat_lt
    simp only [Height.max, UInt64.reduceToNat]
    omega

/-- A batch holds at least its first height. -/
theorem le_lastOf (w : Window) {first stop : Height} (h : first ≤ stop) :
    first.toNat ≤ (w.lastOf first stop).toNat := by
  unfold lastOf
  split
  · subst_vars; simp
  · have h1 := toNat_le_plus first (w.size - 1)
    have h2 := Height.le_iff.1 h
    change first.toNat ≤ (if first.plus (w.size - 1) ≤ stop then _ else stop).toNat
    split <;> assumption

/-- The batches of a range, each by its first and last height. -/
def batches (w : Window) (first stop : Height) : List (Height × Height) :=
  if _h : first ≤ stop then
    (first, w.lastOf first stop) :: match _e : (w.lastOf first stop).next? with
      | some next => w.batches next stop
      | none => []
  else []
termination_by stop.toNat + 1 - first.toNat
decreasing_by
  have h1 := Height.toNat_of_next? _e
  have h2 := w.le_lastOf _h
  have h3 := Height.le_iff.1 _h
  omega

end Window

/-! ## A batch -/

/-- What came of fetching a height: a result, or a crash that left none. -/
inductive Outcome (α : Type)
  | done (result : Except SyncError α)
  | crashed

namespace Batch

variable {α : Type}

/-- The failure of a batch whose task crashed. -/
def crash : Height × SyncError := (Height.max, .other "fetch task failed")

/-- The failure to report after one more outcome: that of the lowest height. A crash is reported
only where no height has failed. -/
def blame (failure : Option (Height × SyncError)) (o : Height × Outcome α) :
    Option (Height × SyncError) :=
  match o with
  | (_, .done (.ok _)) => failure
  | (height, .done (.error e)) => match failure with
    | some (h, f) => if height < h then some (height, e) else some (h, f)
    | none => some (height, e)
  | (_, .crashed) => failure.or (some crash)

def slot? (finished : List (Height × Outcome α)) (height : Height) : Option α :=
  match finished.lookup height with
  | some (.done (.ok a)) => some a
  | _ => none

/-- The results of a batch, given the outcomes of its heights in the order of their completion. -/
def settle (first last : Height) (finished : List (Height × Outcome α)) :
    Except SyncError (List (Height × α)) :=
  match finished.foldl blame none with
  | some (_, e) => .error e
  | none => (Height.range first last).mapM fun h =>
    match slot? finished h with
    | some a => .ok (h, a)
    | none => .error (.fetch h "no result recorded")

end Batch

/-! ## A range -/

/-- What came of a range: the heights of its leading batches, the last of these heights, and the
failure of the batch after them. -/
structure RangeResult (α : Type) where
  heights : List (Height × α) := []
  synced : Option Height := none
  error : Option SyncError := none

namespace RangeResult

variable {α : Type}

/-- The heights, unless there was a failure. -/
def toExcept (r : RangeResult α) : Except SyncError (List (Height × α)) :=
  match r.error with
  | some e => .error e
  | none => .ok r.heights

end RangeResult

namespace Window

variable {m : Type → Type} [Monad m] {α : Type}

/-- Fetches batch after batch until one fails. -/
def syncBatches (fetch : Height → Height → m (List (Height × Outcome α))) :
    List (Height × Height) → RangeResult α → m (RangeResult α)
  | [], acc => pure acc
  | (first, last) :: rest, acc => do
    match Batch.settle first last (← fetch first last) with
    | .ok heights =>
      syncBatches fetch rest { acc with heights := acc.heights ++ heights, synced := some last }
    | .error e => return { acc with error := some e }

/-- Fetches a range; `fetch` fetches a batch and gives the outcomes of its heights in the order of
their completion. -/
def sync (w : Window) (fetch : Height → Height → m (List (Height × Outcome α)))
    (first stop : Height) : m (RangeResult α) :=
  syncBatches fetch (w.batches first stop) {}

end Window

end ChainIndexer
