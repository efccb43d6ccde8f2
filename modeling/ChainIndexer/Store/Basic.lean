import ChainIndexer.Store.Database
import ChainIndexer.Store.Memory

/-!
# Handlers

A handler accepts the events of one height after the other. It lives in memory, or it is one of the
handlers of a database.
-/

namespace ChainIndexer

/-- A handler. -/
inductive Store
  | memory (s : MemoryStore)
  | database (id : String) (db : Database)

namespace Store

def inMemory (id : String) : Store := .memory { id }

/-- The name of the handler. -/
def id : Store → String
  | memory s => s.id
  | database id _ => id

/-- The highest height that it accepted. -/
def cursor? : Store → Option Height
  | memory s => s.cursor
  | database id db => db.cursor? id

/-- Accepts the events of a height above the cursor. -/
def handle : Store → Height → List Event → Except SyncError Store
  | memory s, height, events => (s.handle height events).map .memory
  | database id db, height, events => (db.handle id height events).map (.database id)

/-- The events of a height; none where the handler knows that it never accepted it. -/
def eventsAt : Store → Height → Except SyncError (Option (List Event))
  | memory s, height => .ok (s.eventsAt? height)
  | database id db, height => (db.eventsAt id height).map some

/-- What can be seen of a handler, as a document. -/
def toValue (s : Store) : Json.Value :=
  let cursor := ("cursor", .ofOption .ofUInt64 s.cursor?)
  match s with
  | memory m => .ofList [cursor, ("events", .ofNat m.allEvents.length),
      ("heights", .array (m.heights.map .ofUInt64)), ("calls", .ofUInt64 m.calls)]
  | database id db => .ofList [cursor, ("events", .ofNat (db.count id))]

end Store

end ChainIndexer
