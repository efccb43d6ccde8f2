import Mathlib.Logic.Function.Basic
import ChainIndexer.Proofs.Json.Parsing
import ChainIndexer.Proofs.Payload
import ChainIndexer.Store.Target

/-!
# A database refines handlers in memory

A database serves the handlers of any ids. Beside it one handler in memory is kept for each id and
given the same calls, at heights that a database can hold.

* `toEvent_ofEvent`: a row gives back the event that it was written for.
* `step_mirrors`: a call leaves the database and the handlers in memory in agreement.
* `refines_memories`: after any calls the cursors and the events are the same, and so is the answer
  to the next call; a call that fails leaves the database as it was, and a call for one id leaves the
  others alone.
-/

namespace ChainIndexer

/-! ## Rows -/

/-- The event is one of the height, its instants are instants, and its form is one that a document
keeps. -/
def Event.Storable (height : Height) (e : Event) : Prop :=
  e.height = height ∧ (∀ t ∈ e.payload.times, t.Valid) ∧
    (Payload.codec.write e.payload).Fits Json.maxDepth

namespace EventRow

variable {id : String} {height : Height}

theorem toEvent_ofEvent {e : Event} (h : e.Storable height) (place : Nat) :
    (ofEvent id height place e).toEvent = .ok e := by
  obtain ⟨hheight, htimes, hfits⟩ := h
  have hparse := Json.parse?_compact hfits
  have hdecode : Payload.codec.decode (Payload.codec.write e.payload) = .ok e.payload :=
    Payload.restores htimes .direct
  simp only [toEvent, ofEvent, hparse]
  change ((Payload.codec.decode _).mapError _).bind _ = _
  rw [hdecode, ← hheight]
  rfl

theorem mapM_toEvent_ofEvents {events : List Event} (h : ∀ e ∈ events, e.Storable height)
    (place : Nat) : (ofEvents id height place events).mapM toEvent = .ok events := by
  induction events generalizing place with
  | nil => rfl
  | cons e events ih =>
    obtain ⟨he, hevents⟩ := List.forall_mem_cons.1 h
    simp only [ofEvents, List.mapM_cons, toEvent_ofEvent he, ih hevents]
    rfl

theorem of_mem_ofEvents {r : EventRow} {place : Nat} {events : List Event}
    (h : r ∈ ofEvents id height place events) :
    r.handler = id ∧ r.height = height ∧ place ≤ r.place := by
  induction events generalizing place with
  | nil => simp [ofEvents] at h
  | cons e events ih =>
    rcases List.mem_cons.1 h with rfl | h
    · exact ⟨rfl, rfl, Nat.le_refl _⟩
    · obtain ⟨hid, hheight, hplace⟩ := ih h
      exact ⟨hid, hheight, by omega⟩

theorem pairwise_ofEvents (place : Nat) (events : List Event) :
    (ofEvents id height place events).Pairwise fun a b => a.place ≤ b.place := by
  induction events generalizing place with
  | nil => exact .nil
  | cons e events ih =>
    refine .cons (fun r hr => ?_) (ih (place + 1))
    have hplace := (of_mem_ofEvents hr).2.2
    simp only [ofEvent]
    omega

end EventRow

/-! ## Accepting a height -/

theorem Store.advances_trans {cursor : Option Height} {height k : Height}
    (h : advances cursor height = true) (hk : height < k) : advances cursor k = true := by
  cases cursor with
  | none => rfl
  | some c => exact decide_eq_true (UInt64.lt_trans (of_decide_eq_true h) hk)

namespace MemoryStore

def accept (s : MemoryStore) (height : Height) (events : List Event) : MemoryStore :=
  { s with cursor := some height, log := (height, events) :: s.log, calls := s.calls + 1 }

theorem handle_eq (s : MemoryStore) (height : Height) (events : List Event) :
    s.handle height events
      = (Store.ensureAdvances s.id s.cursor height).map fun _ => s.accept height events := by
  unfold handle
  cases Store.ensureAdvances s.id s.cursor height <;> rfl

theorem eventsAt?_accept_self {s : MemoryStore} {height : Height} {events : List Event} :
    (s.accept height events).eventsAt? height = some events := by
  simp [accept, eventsAt?]

theorem eventsAt?_accept_of_ne {s : MemoryStore} {height k : Height} {events : List Event}
    (h : k ≠ height) : (s.accept height events).eventsAt? k = s.eventsAt? k := by
  have hne : (k == height) = false := by simpa using h
  simp [accept, eventsAt?, List.lookup_cons, hne]

end MemoryStore

namespace Database

def Holds (height : Height) : Prop := height.toNat < 0x8000000000000000

instance (height : Height) : Decidable (Holds height) := by unfold Holds; infer_instance

def accept (db : Database) (id : String) (height : Height) (events : List Event) : Database :=
  { db with rows := db.rows ++ EventRow.ofEvents id height 0 events }.withCursor id height

variable {db : Database} {id id' : String} {height : Height} {events : List Event}

theorem inRange_eq (height : Height) (h : Holds height) : inRange height = .ok () := if_pos h

theorem inRange_error (h : ¬ Holds height) : ∃ e, inRange height = .error e := ⟨_, if_neg h⟩

theorem handle_eq (h : Holds height) :
    db.handle id height events
      = (Store.ensureAdvances id (db.cursor? id) height).map fun _ => db.accept id height events := by
  rw [handle, inRange_eq height h]
  cases Store.ensureAdvances id (db.cursor? id) height <;> rfl

theorem eq_accept_of_handle {db' : Database} (h : db.handle id height events = .ok db') :
    db' = db.accept id height events := by
  obtain ⟨-, -, h⟩ := bind_eq_ok_iff.1 h
  obtain ⟨-, -, h⟩ := bind_eq_ok_iff.1 h
  exact (Except.ok.inj h).symm

theorem handle_error (h : ¬ Holds height) (db : Database) (id : String) (events : List Event) :
    ∃ e, db.handle id height events = .error e := by
  obtain ⟨e, he⟩ := inRange_error h
  exact ⟨e, by rw [handle, he]; rfl⟩

theorem lookup_filter_ne {cursors : List (String × Height)} (h : id' ≠ id) :
    (cursors.filter fun p => p.1 != id).lookup id' = cursors.lookup id' := by
  induction cursors with
  | nil => rfl
  | cons p cursors ih =>
    by_cases hp : p.1 = id
    · have hne : (id' == p.1) = false := by simpa [hp] using h
      rw [List.filter_cons_of_neg (by simpa using hp), List.lookup_cons, hne, ih]
    · rw [List.filter_cons_of_pos (by simpa using hp), List.lookup_cons, List.lookup_cons, ih]

theorem cursor?_accept_self : (db.accept id height events).cursor? id = some height := by
  simp [accept, withCursor, cursor?]

theorem cursor?_accept_of_ne (h : id' ≠ id) :
    (db.accept id height events).cursor? id' = db.cursor? id' := by
  have hne : (id' == id) = false := by simpa using h
  simp only [accept, withCursor, cursor?, List.lookup_cons, hne, lookup_filter_ne h]

/-- The rows of a handler at a height, in the order in which they were written. -/
def stored (db : Database) (id : String) (height : Height) : List EventRow :=
  db.rows.filter fun r => r.handler == id && r.height == height

theorem stored_accept_self :
    (db.accept id height events).stored id height
      = db.stored id height ++ EventRow.ofEvents id height 0 events := by
  have hall : (EventRow.ofEvents id height 0 events).filter
      (fun r => r.handler == id && r.height == height) = EventRow.ofEvents id height 0 events := by
    refine List.filter_eq_self.2 fun r hr => ?_
    obtain ⟨hid, hheight, -⟩ := EventRow.of_mem_ofEvents hr
    simp [hid, hheight]
  simp only [stored, accept, withCursor, List.filter_append, hall]

theorem stored_accept_of_ne {k : Height} (h : id' ≠ id ∨ k ≠ height) :
    (db.accept id height events).stored id' k = db.stored id' k := by
  have hnone : (EventRow.ofEvents id height 0 events).filter
      (fun r => r.handler == id' && r.height == k) = [] := by
    refine List.filter_eq_nil_iff.2 fun r hr => ?_
    obtain ⟨hid, hheight, -⟩ := EventRow.of_mem_ofEvents hr
    rcases h with h | h <;> simp [hid, hheight, h.symm]
  simp only [stored, accept, withCursor, List.filter_append, hnone, List.append_nil]

theorem eventsAt_congr {db' : Database} (h : db'.stored id height = db.stored id height) :
    db'.eventsAt id height = db.eventsAt id height := by
  have hrows : db'.rowsAt id height = db.rowsAt id height := congrArg (List.mergeSort · _) h
  rw [eventsAt, eventsAt, hrows]

theorem eventsAt_of_stored (hh : Holds height)
    (h : db.stored id height = EventRow.ofEvents id height 0 events)
    (hs : ∀ e ∈ events, e.Storable height) : db.eventsAt id height = .ok events := by
  have hrows : db.rowsAt id height = EventRow.ofEvents id height 0 events := by
    change (db.stored id height).mergeSort _ = _
    rw [h, List.mergeSort_of_pairwise]
    simpa using EventRow.pairwise_ofEvents 0 events
  rw [eventsAt, inRange_eq height hh, hrows]
  exact EventRow.mapM_toEvent_ofEvents hs 0

end Database

/-! ## Calls -/

/-- A database file: the text that opens it, and the disk around it. -/
structure DatabaseFile where
  text : String
  connection : Store.Connection
  opens : Store.Connection.ofPath text = .ok connection
  onDisk : connection.inMemory = false
  others : Store.Disk

def DatabaseFile.disk (file : DatabaseFile) (db : Database) : Store.Disk :=
  Function.update file.others file.connection.path (.database db)

/-- What a handler is asked for. -/
inductive Request
  | handle (height : Height) (events : List Event)
  | cursor
  | eventsAt (height : Height)
  | reopen

/-- A request to the handler of an id. -/
structure Call where
  id : String
  request : Request

/-- The events that the call brings can be stored at its height. -/
def Call.Storable (c : Call) : Prop :=
  ∀ height events, c.request = .handle height events → ∀ e ∈ events, e.Storable height

/-- The database after a call; what fails is rolled back. -/
def DatabaseFile.step (file : DatabaseFile) (db : Database) (c : Call) : Database :=
  match c.request with
  | .handle height events =>
    match db.handle c.id height events with
    | .ok db' => db'
    | .error _ => db
  | .cursor => db
  | .eventsAt _ => db
  | .reopen =>
    match Store.openAt (file.disk db) (.sqlite file.text) c.id with
    | .ok (.database _ db') => db'
    | _ => {}

abbrev Memories := String → MemoryStore

namespace Memories

/-- No handler accepted anything yet. -/
def fresh : Memories := fun id => { id }

/-- The handlers in memory after a call; those at heights that a database cannot hold are kept from
them. -/
def step (m : Memories) (c : Call) : Memories :=
  match c.request with
  | .handle height events =>
    if Database.Holds height then
      match (m c.id).handle height events with
      | .ok s => Function.update m c.id s
      | .error _ => m
    else m
  | _ => m

end Memories

theorem DatabaseFile.openAt_eq (file : DatabaseFile) (db : Database) (id : String) :
    Store.openAt (file.disk db) (.sqlite file.text) id = .ok (.database id db) := by
  have hdb : file.connection.database (file.disk db) = .ok db := by
    simp [Store.Connection.database, file.onDisk, disk]
  simp only [Store.openAt, file.opens]
  change (file.connection.database _).bind _ = _
  rw [hdb]
  rfl

/-! ## Agreement -/

/-- The handler of an id in the database holds what the one in memory holds, and that one holds
nothing above its cursor. -/
structure Database.Mirrors (db : Database) (id : String) (s : MemoryStore) : Prop where
  named : s.id = id
  cursor : db.cursor? id = s.cursor
  stored : ∀ height,
    db.stored id height = EventRow.ofEvents id height 0 ((s.eventsAt? height).getD [])
  storable : ∀ height, ∀ e ∈ (s.eventsAt? height).getD [], e.Storable height
  above : ∀ height, Store.advances s.cursor height = true → s.eventsAt? height = none

namespace Database.Mirrors

variable {db : Database} {id : String} {s : MemoryStore}

theorem fresh (id : String) : Mirrors {} id (Memories.fresh id) where
  named := rfl
  cursor := rfl
  stored _ := rfl
  storable _ := by simp [Memories.fresh, MemoryStore.eventsAt?]
  above _ _ := rfl

theorem accept (h : db.Mirrors id s) {height : Height} {events : List Event}
    (hadvances : Store.advances s.cursor height = true)
    (hs : ∀ e ∈ events, e.Storable height) :
    (db.accept id height events).Mirrors id (s.accept height events) where
  named := h.named
  cursor := cursor?_accept_self
  stored k := by
    by_cases hk : k = height
    · subst hk
      rw [stored_accept_self, h.stored, h.above k hadvances, MemoryStore.eventsAt?_accept_self]
      rfl
    · rw [stored_accept_of_ne (.inr hk), h.stored, MemoryStore.eventsAt?_accept_of_ne hk]
  storable k := by
    by_cases hk : k = height
    · subst hk
      rw [MemoryStore.eventsAt?_accept_self]
      exact hs
    · rw [MemoryStore.eventsAt?_accept_of_ne hk]
      exact h.storable k
  above k hk := by
    have hlt : height < k := of_decide_eq_true hk
    have hne : k ≠ height := by
      rintro rfl
      exact absurd hlt (UInt64.lt_irrefl k)
    rw [MemoryStore.eventsAt?_accept_of_ne hne]
    exact h.above k (Store.advances_trans hadvances hlt)

theorem of_ne (h : db.Mirrors id s) {id' : String} (hne : id ≠ id') (height : Height)
    (events : List Event) : (db.accept id' height events).Mirrors id s where
  named := h.named
  cursor := by rw [cursor?_accept_of_ne hne, h.cursor]
  stored k := by rw [stored_accept_of_ne (.inl hne), h.stored]
  storable := h.storable
  above := h.above

theorem handle (h : db.Mirrors id s) {height : Height} (hh : Holds height)
    (events : List Event) :
    (db.handle id height events).map (fun _ => ())
      = (s.handle height events).map fun _ => () := by
  rw [handle_eq hh, MemoryStore.handle_eq, h.named, h.cursor]
  cases Store.ensureAdvances id s.cursor height <;> rfl

theorem eventsAt (h : db.Mirrors id s) {height : Height} (hh : Holds height) :
    db.eventsAt id height = .ok ((s.eventsAt? height).getD []) :=
  eventsAt_of_stored hh (h.stored height) (h.storable height)

end Database.Mirrors

theorem DatabaseFile.step_mirrors (file : DatabaseFile) {db : Database} {m : Memories}
    (h : ∀ id, db.Mirrors id (m id)) {c : Call} (hc : c.Storable) :
    ∀ id, (file.step db c).Mirrors id (m.step c id) := by
  obtain ⟨id, request⟩ := c
  cases request with
  | cursor => exact h
  | eventsAt height => exact h
  | reopen =>
    simp only [step, file.openAt_eq]
    exact h
  | handle height events =>
    by_cases hh : Database.Holds height
    · simp only [step, Memories.step, if_pos hh, Database.handle_eq hh, MemoryStore.handle_eq,
        (h id).named, (h id).cursor]
      cases hadvances : Store.ensureAdvances id (m id).cursor height with
      | error e => exact h
      | ok u =>
        intro id'
        by_cases hid : id' = id
        · subst hid
          simp only [Except.map, Function.update_self]
          exact (h id').accept ((Store.ensureAdvances_eq_ok_iff id' _ height).1 hadvances)
            (hc height events rfl)
        · simp only [Except.map, Function.update_of_ne hid]
          exact (h id').of_ne hid height events
    · obtain ⟨e, he⟩ := Database.handle_error hh db id events
      simp only [step, Memories.step, if_neg hh, he]
      exact h

theorem DatabaseFile.foldl_mirrors (file : DatabaseFile) {db : Database} {m : Memories}
    (h : ∀ id, db.Mirrors id (m id)) {calls : List Call} (hcalls : ∀ c ∈ calls, c.Storable) :
    ∀ id, (calls.foldl file.step db).Mirrors id (calls.foldl Memories.step m id) := by
  induction calls generalizing db m with
  | nil => exact h
  | cons c calls ih =>
    obtain ⟨hc, hcalls⟩ := List.forall_mem_cons.1 hcalls
    exact ih (file.step_mirrors h hc) hcalls

/-! ## Refinement -/

namespace DatabaseFile

variable (file : DatabaseFile)

theorem step_of_error {db : Database} {id : String} {height : Height} {events : List Event}
    {e : SyncError} (h : db.handle id height events = .error e) :
    file.step db ⟨id, .handle height events⟩ = db := by
  simp only [step, h]

theorem step_of_ne {c : Call} {id : String} (h : id ≠ c.id) (db : Database) :
    (file.step db c).cursor? id = db.cursor? id ∧
      ∀ height, (file.step db c).eventsAt id height = db.eventsAt id height := by
  obtain ⟨id', request⟩ := c
  cases request with
  | cursor => exact ⟨rfl, fun _ => rfl⟩
  | eventsAt height => exact ⟨rfl, fun _ => rfl⟩
  | reopen =>
    simp [step, file.openAt_eq]
  | handle height events =>
    cases hdb : db.handle id' height events with
    | error e =>
      rw [file.step_of_error hdb]
      exact ⟨rfl, fun _ => rfl⟩
    | ok db' =>
      obtain rfl := Database.eq_accept_of_handle hdb
      simp only [step, hdb]
      exact ⟨Database.cursor?_accept_of_ne h,
        fun k => Database.eventsAt_congr (Database.stored_accept_of_ne (.inl h))⟩

/-- **The handlers of a database refine handlers in memory.** After any calls to handlers of any
ids, the file opens as what was written to it, and for each id the cursor is the one in memory; at a
height that the database can hold the events are those in memory, and new events are accepted, or
refused with the same error, as in memory; at any other height they are refused. A call that fails
leaves the database as it was, and a call for one id leaves the others alone. -/
theorem refines_memories {calls : List Call} (h : ∀ c ∈ calls, c.Storable) :
    let db := calls.foldl file.step {}
    let m := calls.foldl Memories.step .fresh
    (∀ id, Store.openAt (file.disk db) (.sqlite file.text) id = .ok (.database id db) ∧
      db.cursor? id = (m id).cursor ∧
      ∀ height,
        (Database.Holds height →
          db.eventsAt id height = .ok (((m id).eventsAt? height).getD []) ∧
          ∀ events, (db.handle id height events).map (fun _ => ())
            = ((m id).handle height events).map fun _ => ()) ∧
        (¬ Database.Holds height → ∀ events, ∃ e, db.handle id height events = .error e)) ∧
    (∀ id height events e, db.handle id height events = .error e →
      file.step db ⟨id, .handle height events⟩ = db) ∧
    ∀ c id, id ≠ c.id → (file.step db c).cursor? id = db.cursor? id ∧
      ∀ height, (file.step db c).eventsAt id height = db.eventsAt id height := by
  intro db m
  have hmirrors : ∀ id, db.Mirrors id (m id) :=
    file.foldl_mirrors Database.Mirrors.fresh h
  refine ⟨fun id => ⟨file.openAt_eq db id, (hmirrors id).cursor, fun height => ⟨fun hh => ?_, ?_⟩⟩,
    fun id height events e he => file.step_of_error he, fun c id hne => file.step_of_ne hne db⟩
  · exact ⟨(hmirrors id).eventsAt hh, (hmirrors id).handle hh⟩
  · exact fun hh events => Database.handle_error hh db id events

/-- A file beside nothing else. -/
def plain : DatabaseFile where
  text := "chain.db"
  connection := { path := "chain.db", create := true }
  opens := by decide +kernel
  onDisk := rfl
  others _ := .vacant

/-- A change of voting power at height 5. -/
def powerEvent : Event := .of 5 1 (.powerChanged ⟨"ed25519", "AAAA", 7⟩)

theorem powerEvent_storable : powerEvent.Storable 5 := by
  have hform : Payload.codec.write powerEvent.payload = .object [
      ("data", .object [("power", .ofInt64 7), ("pub_key", .string "AAAA"),
        ("pub_key_type", .string "ed25519")]),
      ("type", .string "PowerChanged")] := by rfl
  have hpower (n : Nat) : (Json.Value.ofInt64 7).Fits n := .whole
  refine ⟨rfl, by simp [powerEvent, Event.of, Payload.times], ?_⟩
  rw [hform]
  refine .object (by decide) ?_
  simp only [List.forall_mem_cons, List.not_mem_nil, false_implies, implies_true, and_true]
  refine ⟨.object (by decide) ?_, .string⟩
  simp only [List.forall_mem_cons, List.not_mem_nil, false_implies, implies_true, and_true]
  exact ⟨hpower _, .string, .string⟩

/-- Two handlers of one file; the second call for height 5 and the one for a height out of range are
refused, and the file is reopened in between. -/
def twoHandlers : List Call := [
  ⟨"a", .handle 5 [powerEvent]⟩, ⟨"b", .handle 7 []⟩, ⟨"a", .handle 5 []⟩, ⟨"a", .reopen⟩,
  ⟨"a", .handle 0x8000000000000000 []⟩, ⟨"a", .cursor⟩]

theorem twoHandlers_eventsAt :
    (twoHandlers.foldl plain.step {}).cursor? "a" = some 5 ∧
      (twoHandlers.foldl plain.step {}).eventsAt "a" 5 = .ok [powerEvent] := by
  have h : ∀ c ∈ twoHandlers, c.Storable := by
    simp [twoHandlers, Call.Storable, powerEvent_storable]
  obtain ⟨-, hcursor, hevents⟩ := (plain.refines_memories h).1 "a"
  exact ⟨hcursor, ((hevents 5).1 (by decide)).1⟩

end DatabaseFile

end ChainIndexer
