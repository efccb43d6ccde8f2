import ChainIndexer.Event.Payload
import ChainIndexer.Json.Reader
import ChainIndexer.Store.Memory

/-!
# The handlers of a database

A database holds the events and the cursors of any number of handlers, each under its id. An event
is a row: the handler, the height, its place among the events of that height, its name and version,
and its payload as the text of a document. Heights are integers of 64 bits with a sign there, so
the upper half of the heights is out of range. A height's rows and its cursor are written together.
-/

namespace ChainIndexer

open Json (Value)

/-- A stored event. -/
structure EventRow where
  handler : String
  height : Height
  place : Nat
  name : String
  version : UInt32
  payload : String
  deriving DecidableEq, Repr

/-- The rows of all handlers, in the order in which they were written, and the cursors by id. -/
structure Database where
  rows : List EventRow := []
  cursors : List (String × Height) := []
  deriving DecidableEq, Repr

/-! ## Rows -/

namespace EventRow

def ofEvent (handler : String) (height : Height) (place : Nat) (e : Event) : EventRow :=
  { handler, height, place, name := e.name, version := e.version
    payload := (Payload.codec.write e.payload).compact }

/-- The rows of a height's events, from a place on. -/
def ofEvents (handler : String) (height : Height) : Nat → List Event → List EventRow
  | _, [] => []
  | place, e :: es => ofEvent handler height place e :: ofEvents handler height (place + 1) es

def toEvent (r : EventRow) : Except SyncError Event := do
  let value ← match Json.parse? r.payload with
    | some value => pure value
    | none => throw (.storage "payload is not a document")
  let payload ← (Payload.codec.decode value).mapError fun e => .storage e.message
  return { height := r.height, name := r.name, version := r.version, payload }

end EventRow

/-! ## Operations -/

namespace Database

/-- Refuses a height that 64 bits with a sign do not hold. -/
def inRange (height : Height) : Except SyncError Unit :=
  if height.toNat < 0x8000000000000000 then .ok ()
  else .error (.storage ("height " ++ SyncError.heightText height ++ " out of range"))

def cursor? (db : Database) (id : String) : Option Height := db.cursors.lookup id

/-- Moves the cursor of a handler. -/
def withCursor (db : Database) (id : String) (height : Height) : Database :=
  { db with cursors := (id, height) :: db.cursors.filter fun p => p.1 != id }

/-- Accepts the events of a height above the handler's cursor, which moves there. -/
def handle (db : Database) (id : String) (height : Height) (events : List Event) :
    Except SyncError Database := do
  inRange height
  Store.ensureAdvances id (db.cursor? id) height
  return { db with rows := db.rows ++ EventRow.ofEvents id height 0 events }.withCursor id height

/-- The rows of a handler at a height, by their places. -/
def rowsAt (db : Database) (id : String) (height : Height) : List EventRow :=
  (db.rows.filter fun r => r.handler == id && r.height == height).mergeSort
    fun a b => a.place ≤ b.place

def eventsAt (db : Database) (id : String) (height : Height) : Except SyncError (List Event) := do
  inRange height
  (db.rowsAt id height).mapM EventRow.toEvent

/-- How many events a handler has. -/
def count (db : Database) (id : String) : Nat :=
  (db.rows.filter fun r => r.handler == id).length

end Database

end ChainIndexer
