import ChainIndexer.Event.Payload
import ChainIndexer.Sync.Error

/-!
# Cursors, and the handler in memory

A handler remembers the highest height that it has accepted, its cursor, and accepts only heights
above it. So the heights that it accepts ascend. The handler in memory keeps the events of every
height that it accepted, the newest height first.
-/

namespace ChainIndexer

/-! ## The cursor of a handler -/

namespace Store

/-- The height is above the cursor. -/
def advances : Option Height → Height → Bool
  | some c, h => c < h
  | none, _ => true

def notAbove (id : String) (cursor height : Height) : SyncError :=
  .handler id ("height " ++ SyncError.heightText height ++ " is not above cursor "
    ++ SyncError.heightText cursor)

/-- Lets a height pass only above the cursor. -/
def ensureAdvances (id : String) (cursor : Option Height) (height : Height) :
    Except SyncError Unit :=
  match cursor with
  | some c => if c < height then .ok () else .error (notAbove id c height)
  | none => .ok ()

/-- A height passes exactly when it is above the cursor. -/
theorem ensureAdvances_eq_ok_iff (id : String) (cursor : Option Height) (height : Height) :
    ensureAdvances id cursor height = .ok () ↔ advances cursor height = true := by
  cases cursor with
  | none => simp [ensureAdvances, advances]
  | some c => by_cases h : c < height <;> simp [ensureAdvances, advances, h]

end Store

/-! ## The handler in memory -/

/-- A handler that keeps everything in memory. -/
structure MemoryStore where
  id : String
  cursor : Option Height := none
  log : List (Height × List Event) := []
  calls : UInt64 := 0

namespace MemoryStore

/-- Accepts the events of a height above the cursor, which moves there. -/
def handle (s : MemoryStore) (height : Height) (events : List Event) :
    Except SyncError MemoryStore := do
  Store.ensureAdvances s.id s.cursor height
  return { s with cursor := some height, log := (height, events) :: s.log, calls := s.calls + 1 }

/-- The events of a height, if it was accepted. -/
def eventsAt? (s : MemoryStore) (height : Height) : Option (List Event) := s.log.lookup height

/-- The accepted heights, from the lowest. -/
def heights (s : MemoryStore) : List Height := s.log.reverse.map Prod.fst

/-- All events, by height and then by place. -/
def allEvents (s : MemoryStore) : List Event := s.log.reverse.flatMap Prod.snd

end MemoryStore

end ChainIndexer
