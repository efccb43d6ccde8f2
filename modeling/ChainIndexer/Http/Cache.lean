import ChainIndexer.Json.Basic

/-!
# Cached answers

Answers are kept under the request they answer for one of two spans of time. When a new request
comes and there is no room, stale answers go first and then the oldest fresh ones. Nothing else
ever removes an answer. Of answers that came at the same time the one that stands first in the table
goes; the table has no order of its own, and so a cache is given the places of the keys from outside
(`Cache.places`).
-/

namespace ChainIndexer

open Json (Value)

/-- How long an answer is kept. -/
inductive CacheTtl
  | short
  | long
  deriving DecidableEq, Repr

/-- The two spans, in milliseconds, and how many answers are kept. -/
structure CacheConfig where
  shortTtl : Nat := 10000
  longTtl : Nat := 600000
  maxEntries : Nat := 10000
  deriving DecidableEq, Repr

def CacheConfig.span (c : CacheConfig) : CacheTtl → Nat
  | .short => c.shortTtl
  | .long => c.longTtl

/-- An answer: its request, when it came, and how long it is kept. -/
structure CacheEntry where
  key : String
  storedAt : Nat
  ttl : Nat
  value : Value

/-- The answer may still be given. -/
def CacheEntry.isFresh (e : CacheEntry) (now : Nat) : Bool := now - e.storedAt < e.ttl

/-- Answers, each request once, how often one was found and not found, and the places of the keys in
the table when the next answers are stored, one after the other. -/
structure Cache where
  config : CacheConfig
  entries : List CacheEntry := []
  hits : UInt64 := 0
  misses : UInt64 := 0
  places : Nat → String → Nat := fun _ _ => 0

namespace Cache

/-- The entry of a request, fresh or stale. -/
def entry? (c : Cache) (key : String) : Option CacheEntry := c.entries.find? fun e => e.key == key

/-- Looks for a fresh answer, and counts. -/
def get (c : Cache) (now : Nat) (key : String) : Option Value × Cache :=
  match (c.entry? key).filter fun e => e.isFresh now with
  | some e => (some e.value, { c with hits := c.hits + 1 })
  | none => (none, { c with misses := c.misses + 1 })

/-- The oldest of some entries, the first in the table if there are several. -/
def oldest? (place : String → Nat) : List CacheEntry → Option CacheEntry
  | [] => none
  | e :: es => match oldest? place es with
    | some o =>
      if o.storedAt < e.storedAt ∨ o.storedAt = e.storedAt ∧ place o.key < place e.key then some o
      else some e
    | none => some e

/-- The entries without the oldest. -/
def dropOldest (place : String → Nat) (es : List CacheEntry) : List CacheEntry :=
  match oldest? place es with
  | some o => es.filter fun e => e.key != o.key
  | none => es

/-- The entries without the oldest ones, so many. -/
def dropOldestTimes (place : String → Nat) : Nat → List CacheEntry → List CacheEntry
  | 0, es => es
  | n + 1, es => dropOldestTimes place n (dropOldest place es)

/-- Makes room for one more answer. -/
def makeRoom (c : Cache) (now : Nat) : List CacheEntry :=
  let fresh := c.entries.filter fun e => e.isFresh now
  dropOldestTimes (c.places 0) (fresh.length + 1 - max c.config.maxEntries 1) fresh

/-- Stores an answer. -/
def insert (c : Cache) (now : Nat) (key : String) (ttl : CacheTtl) (value : Value) : Cache :=
  let added : CacheEntry := ⟨key, now, c.config.span ttl, value⟩
  let entries :=
    if (c.entry? key).isSome then c.entries.map fun e => if e.key == key then added else e
    else if c.config.maxEntries ≤ c.entries.length then c.makeRoom now ++ [added]
    else c.entries ++ [added]
  { c with entries, places := fun n => c.places (n + 1) }

/-- How many answers are kept, fresh or stale. -/
def size (c : Cache) : Nat := c.entries.length

end Cache

end ChainIndexer
