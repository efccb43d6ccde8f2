import ChainIndexer.Http.Cache
import Mathlib.Data.List.Induction
import Mathlib.Data.List.Nodup

/-!
# A cache against its history

A history is the calls that a cache was given, each with the time on the clock.

* `Cache.Recorded`: the cache holds the latest answer of some of the keys that were stored, no key
  twice, and no more than there is room for. `Recorded.get` and `Recorded.insert` are the steps.
* `Cache.after_dependable`: what this means for the next call.
-/

namespace ChainIndexer

open Json (Value)

namespace Cache

/-! ## The oldest entries -/

section Oldest

variable {place : String → Nat} {es : List CacheEntry} {e : CacheEntry} {n : Nat}

theorem oldest?_eq_none_iff : oldest? place es = none ↔ es = [] := by
  cases es with
  | nil => exact ⟨fun _ => rfl, fun _ => rfl⟩
  | cons e es =>
    constructor
    · intro h
      unfold oldest? at h
      split at h
      · split at h <;> cases h
      · cases h
    · intro h
      cases h

theorem oldest?_spec {o : CacheEntry} (h : oldest? place es = some o) :
    o ∈ es ∧ ∀ e ∈ es, o.storedAt ≤ e.storedAt := by
  induction es generalizing o with
  | nil => cases h
  | cons e es ih =>
    unfold oldest? at h
    cases hrest : oldest? place es with
    | none =>
      rw [hrest] at h
      cases h
      simp [oldest?_eq_none_iff.1 hrest]
    | some o' =>
      obtain ⟨hmem, hle⟩ := ih hrest
      rw [hrest] at h
      dsimp only at h
      by_cases hlt : o'.storedAt < e.storedAt ∨
          o'.storedAt = e.storedAt ∧ place o'.key < place e.key
      · rw [if_pos hlt] at h
        cases h
        refine ⟨List.mem_cons_of_mem e hmem, fun e' he' => ?_⟩
        rcases List.mem_cons.1 he' with rfl | he'
        · omega
        · exact hle e' he'
      · rw [if_neg hlt] at h
        cases h
        refine ⟨List.mem_cons_self .., fun e' he' => ?_⟩
        rcases List.mem_cons.1 he' with rfl | he'
        · omega
        · have hold := hle e' he'
          omega

theorem dropOldest_sublist (place : String → Nat) (es : List CacheEntry) :
    (dropOldest place es).Sublist es := by
  unfold dropOldest
  cases oldest? place es with
  | none => exact List.Sublist.refl es
  | some o => exact List.filter_sublist

theorem dropOldestTimes_sublist (place : String → Nat) (n : Nat) (es : List CacheEntry) :
    (dropOldestTimes place n es).Sublist es := by
  induction n generalizing es with
  | zero => exact List.Sublist.refl es
  | succ n ih => exact (ih (dropOldest place es)).trans (dropOldest_sublist place es)

theorem length_dropOldest_le (place : String → Nat) (es : List CacheEntry) :
    (dropOldest place es).length ≤ es.length - 1 := by
  unfold dropOldest
  cases holdest : oldest? place es with
  | none => simp [oldest?_eq_none_iff.1 holdest]
  | some o =>
    have hmem := (oldest?_spec holdest).1
    have hlt : (es.filter fun e => e.key != o.key).length < es.length :=
      List.length_filter_lt_length_iff_exists.2 ⟨o, hmem, by simp⟩
    dsimp only
    omega

theorem length_dropOldestTimes_le (place : String → Nat) (n : Nat) (es : List CacheEntry) :
    (dropOldestTimes place n es).length ≤ es.length - n := by
  induction n generalizing es with
  | zero => exact Nat.le_refl _
  | succ n ih =>
    have hone := length_dropOldest_le place es
    have hrest := ih (dropOldest place es)
    rw [dropOldestTimes]
    omega

theorem storedAt_le_of_dropped (hkeys : (es.map CacheEntry.key).Nodup) (he : e ∈ es)
    (hgone : e ∉ dropOldestTimes place n es) :
    0 < n ∧ ∀ e' ∈ dropOldestTimes place n es, e.storedAt ≤ e'.storedAt := by
  induction n generalizing es with
  | zero => exact absurd he hgone
  | succ n ih =>
    refine ⟨Nat.succ_pos n, fun e' he' => ?_⟩
    rw [dropOldestTimes] at hgone he'
    by_cases hstep : e ∈ dropOldest place es
    · have hkeys' : ((dropOldest place es).map CacheEntry.key).Nodup :=
        hkeys.sublist ((dropOldest_sublist place es).map _)
      exact (ih hkeys' hstep hgone).2 e' he'
    · -- of the step itself only the oldest is gone
      have he'' : e' ∈ es :=
        (dropOldest_sublist place es).subset ((dropOldestTimes_sublist place n _).subset he')
      unfold dropOldest at hstep
      cases holdest : oldest? place es with
      | none =>
        rw [holdest] at hstep
        exact absurd he hstep
      | some o =>
        obtain ⟨hmem, hle⟩ := oldest?_spec holdest
        rw [holdest] at hstep
        have hkey : e.key = o.key := by
          by_contra hne
          exact hstep (List.mem_filter.2 ⟨he, by simpa using hne⟩)
        obtain rfl : e = o := List.inj_on_of_nodup_map hkeys he hmem hkey
        exact hle e' he''

end Oldest

/-! ## One call -/

variable {c : Cache} {now : Nat} {key : String} {ttl : CacheTtl} {v : Value} {e : CacheEntry}

theorem entries_get (c : Cache) (now : Nat) (key : String) :
    (c.get now key).2.entries = c.entries := by
  unfold get
  split <;> rfl

theorem config_get (c : Cache) (now : Nat) (key : String) :
    (c.get now key).2.config = c.config := by
  unfold get
  split <;> rfl

theorem key_of_entry? (h : c.entry? key = some e) : e ∈ c.entries ∧ e.key = key :=
  ⟨List.mem_of_find?_eq_some h, by simpa using List.find?_some h⟩

theorem entry?_eq_none_iff : c.entry? key = none ↔ ∀ e ∈ c.entries, e.key ≠ key := by
  unfold entry?
  simp

theorem mem_of_get (h : (c.get now key).1 = some v) :
    ∃ e ∈ c.entries, e.key = key ∧ e.value = v ∧ e.isFresh now := by
  unfold get at h
  cases hfound : (c.entry? key).filter fun e => e.isFresh now with
  | none =>
    rw [hfound] at h
    cases h
  | some e =>
    rw [hfound] at h
    obtain ⟨hentry, hfresh⟩ := Option.filter_eq_some_iff.1 hfound
    obtain ⟨hmem, hkey⟩ := key_of_entry? hentry
    exact ⟨e, hmem, hkey, Option.some.inj h, hfresh⟩

theorem insert_of_stored (h : (c.entry? key).isSome) :
    (c.insert now key ttl v).entries
      = c.entries.map fun e => if e.key == key then ⟨key, now, c.config.span ttl, v⟩ else e := by
  unfold insert
  dsimp only
  rw [if_pos h]

/-- The answer of a new key comes after those that are kept. A fresh one is only given up where all
the room is taken by fresh ones, and it is no younger than those that are kept. -/
theorem insert_of_new (h : c.entry? key = none) (now : Nat) (ttl : CacheTtl) (v : Value) :
    ∃ kept, (c.insert now key ttl v).entries = kept ++ [⟨key, now, c.config.span ttl, v⟩] ∧
      kept.Sublist c.entries ∧ kept.length < max c.config.maxEntries 1 ∧
      ((c.entries.map CacheEntry.key).Nodup → ∀ e ∈ c.entries, e.isFresh now → e ∉ kept →
        max c.config.maxEntries 1 ≤ (c.entries.filter fun e => e.isFresh now).length ∧
        ∀ e' ∈ kept, e.storedAt ≤ e'.storedAt) := by
  have hnot : ¬(c.entry? key).isSome := by simp [h]
  unfold insert
  dsimp only
  rw [if_neg hnot]
  by_cases hroom : c.config.maxEntries ≤ c.entries.length
  · rw [if_pos hroom]
    have hfresh : (c.entries.filter fun e => e.isFresh now).Sublist c.entries :=
      List.filter_sublist
    refine ⟨c.makeRoom now, rfl, (dropOldestTimes_sublist _ _ _).trans hfresh, ?_, ?_⟩
    · have hlength := length_dropOldestTimes_le (c.places 0)
        ((c.entries.filter fun e => e.isFresh now).length + 1 - max c.config.maxEntries 1)
        (c.entries.filter fun e => e.isFresh now)
      unfold makeRoom
      dsimp only
      omega
    · intro hkeys e he hfreshe hgone
      obtain ⟨hpos, hle⟩ := storedAt_le_of_dropped (hkeys.sublist (hfresh.map _))
        (List.mem_filter.2 ⟨he, hfreshe⟩) hgone
      exact ⟨by omega, hle⟩
  · rw [if_neg hroom]
    exact ⟨c.entries, rfl, List.Sublist.refl _, by omega, fun _ e he _ hgone => absurd he hgone⟩

theorem config_insert (c : Cache) (now : Nat) (key : String) (ttl : CacheTtl) (v : Value) :
    (c.insert now key ttl v).config = c.config := rfl

theorem mem_insert (h : e ∈ (c.insert now key ttl v).entries) :
    e = ⟨key, now, c.config.span ttl, v⟩ ∨ e ∈ c.entries ∧ e.key ≠ key := by
  cases hentry : c.entry? key with
  | some stored =>
    rw [insert_of_stored (by simp [hentry])] at h
    obtain ⟨e', he', rfl⟩ := List.mem_map.1 h
    by_cases hkey : e'.key = key
    · exact .inl (by simp [hkey])
    · exact .inr (by simp [hkey, he'])
  | none =>
    obtain ⟨kept, hentries, hsub, -, -⟩ := insert_of_new hentry now ttl v
    rw [hentries] at h
    rcases List.mem_append.1 h with h | h
    · exact .inr ⟨hsub.subset h, entry?_eq_none_iff.1 hentry e (hsub.subset h)⟩
    · exact .inl (List.mem_singleton.1 h)

theorem entry?_insert (c : Cache) (now : Nat) (key : String) (ttl : CacheTtl) (v : Value) :
    entry? (c.insert now key ttl v) key = some ⟨key, now, c.config.span ttl, v⟩ := by
  cases hentry : c.entry? key with
  | some stored =>
    have hmap : ((fun e : CacheEntry => e.key == key) ∘ fun e : CacheEntry =>
        if e.key == key then (⟨key, now, c.config.span ttl, v⟩ : CacheEntry) else e)
          = fun e => e.key == key := by
      funext e
      by_cases hkey : e.key = key <;> simp [hkey]
    have hentries : (c.insert now key ttl v).entries = _ := insert_of_stored (by simp [hentry])
    obtain ⟨-, hkey⟩ := key_of_entry? hentry
    unfold entry? at hentry ⊢
    rw [hentries, List.find?_map, hmap, hentry]
    simp [hkey]
  | none =>
    obtain ⟨kept, hentries, hsub, -, -⟩ := insert_of_new hentry now ttl v
    have hkept : kept.find? (fun e => e.key == key) = none := by
      rw [List.find?_eq_none]
      intro e he
      simpa using entry?_eq_none_iff.1 hentry e (hsub.subset he)
    unfold entry?
    rw [hentries, List.find?_append, hkept]
    simp

theorem keys_insert (hkeys : (c.entries.map CacheEntry.key).Nodup) :
    ((c.insert now key ttl v).entries.map CacheEntry.key).Nodup := by
  cases hentry : c.entry? key with
  | some stored =>
    have hsame : (c.entries.map fun e => if e.key == key then
        (⟨key, now, c.config.span ttl, v⟩ : CacheEntry) else e).map CacheEntry.key
          = c.entries.map CacheEntry.key := by
      rw [List.map_map]
      refine List.map_congr_left fun e _ => ?_
      by_cases hkey : e.key = key <;> simp [hkey]
    rw [insert_of_stored (by simp [hentry]), hsame]
    exact hkeys
  | none =>
    obtain ⟨kept, hentries, hsub, -, -⟩ := insert_of_new hentry now ttl v
    rw [hentries, List.map_append, List.nodup_append]
    refine ⟨hkeys.sublist (hsub.map _), by simp, ?_⟩
    rintro k hk k' hk' rfl
    obtain ⟨e, he, rfl⟩ := List.mem_map.1 hk
    exact entry?_eq_none_iff.1 hentry e (hsub.subset he) (by simpa using hk')

theorem size_insert_le (hroom : c.size ≤ max c.config.maxEntries 1) :
    (c.insert now key ttl v).size ≤ max c.config.maxEntries 1 := by
  unfold size at hroom ⊢
  cases hentry : c.entry? key with
  | some stored =>
    rw [insert_of_stored (by simp [hentry]), List.length_map]
    exact hroom
  | none =>
    obtain ⟨kept, hentries, -, hlength, -⟩ := insert_of_new hentry now ttl v
    rw [hentries, List.length_append, List.length_singleton]
    exact hlength

/-! ## Histories -/

/-- A call of a cache. -/
inductive Call
  | get (key : String)
  | insert (key : String) (ttl : CacheTtl) (value : Value)

def Call.isGet : Call → Bool
  | get _ => true
  | insert _ _ _ => false

def Call.Stores (call : Call) (key : String) : Prop := ∃ ttl v, call = .insert key ttl v

def perform (c : Cache) (now : Nat) : Call → Cache
  | .get key => (c.get now key).2
  | .insert key ttl v => c.insert now key ttl v

/-- The cache after a history, from nothing. -/
def after (config : CacheConfig) (places : Nat → String → Nat) (calls : List (Nat × Call)) :
    Cache :=
  calls.foldl (fun c call => c.perform call.1 call.2) { config, places }

/-- The latest answer that was stored for a key is this one, at this time. -/
def Latest (calls : List (Nat × Call)) (key : String) (t : Nat) (ttl : CacheTtl) (v : Value) :
    Prop :=
  ∃ before later, calls = before ++ (t, .insert key ttl v) :: later ∧
    ∀ call ∈ later, ¬call.2.Stores key

variable {calls : List (Nat × Call)} {config : CacheConfig} {t : Nat}

theorem Latest.concat (h : Latest calls key t ttl v) {call : Nat × Call}
    (hcall : ¬call.2.Stores key) : Latest (calls ++ [call]) key t ttl v := by
  obtain ⟨before, later, rfl, hlater⟩ := h
  refine ⟨before, later ++ [call], by simp, fun call' hmem => ?_⟩
  rcases List.mem_append.1 hmem with hmem | hmem
  · exact hlater call' hmem
  · rw [List.mem_singleton.1 hmem]
    exact hcall

/-- The cache holds the latest answer of some of the keys, no key twice, and no more than there is
room for, and it counted every question. -/
structure Recorded (config : CacheConfig) (calls : List (Nat × Call)) (c : Cache) : Prop where
  config_eq : c.config = config
  keys : (c.entries.map CacheEntry.key).Nodup
  room : c.size ≤ max c.config.maxEntries 1
  latest : ∀ e ∈ c.entries, ∃ ttl, e.ttl = config.span ttl ∧
    Latest calls e.key e.storedAt ttl e.value
  counted : ∃ found missed, found + missed = calls.countP (fun call => call.2.isGet) ∧
    c.hits = UInt64.ofNat found ∧ c.misses = UInt64.ofNat missed

namespace Recorded

theorem start (config : CacheConfig) (places : Nat → String → Nat) :
    Recorded config [] { config, places } where
  config_eq := rfl
  keys := List.nodup_nil
  room := Nat.zero_le _
  latest e he := by cases he
  counted := ⟨0, 0, rfl, rfl, rfl⟩

theorem get (h : Recorded config calls c) (now : Nat) (key : String) :
    Recorded config (calls ++ [(now, .get key)]) (c.get now key).2 := by
  have hentries := entries_get c now key
  have hconfig := config_get c now key
  refine ⟨hconfig.trans h.config_eq, ?_, ?_, ?_, ?_⟩
  · rw [hentries]
    exact h.keys
  · rw [size, hentries, hconfig]
    exact h.room
  · intro e he
    rw [hentries] at he
    obtain ⟨ttl, httl, hlatest⟩ := h.latest e he
    refine ⟨ttl, httl, hlatest.concat ?_⟩
    rintro ⟨ttl', v', hcall⟩
    cases hcall
  · obtain ⟨found, missed, hsum, hhits, hmisses⟩ := h.counted
    -- the counters are of 64 bits, so they are given by numbers that may be larger
    have hmore : (calls ++ [(now, Call.get key)]).countP (fun call => call.2.isGet)
        = calls.countP (fun call => call.2.isGet) + 1 := by
      simp [Call.isGet]
    rw [hmore, ← hsum]
    unfold Cache.get
    split
    · refine ⟨found + 1, missed, by omega, ?_, hmisses⟩
      rw [UInt64.ofNat_add, ← hhits]
      rfl
    · refine ⟨found, missed + 1, by omega, hhits, ?_⟩
      rw [UInt64.ofNat_add, ← hmisses]
      rfl

theorem insert (h : Recorded config calls c) (now : Nat) (key : String) (ttl : CacheTtl)
    (v : Value) :
    Recorded config (calls ++ [(now, .insert key ttl v)]) (c.insert now key ttl v) := by
  have hconfig := config_insert c now key ttl v
  refine ⟨hconfig.trans h.config_eq, keys_insert h.keys, ?_, ?_, ?_⟩
  · rw [hconfig]
    exact size_insert_le h.room
  · intro e he
    rcases mem_insert he with rfl | ⟨he, hkey⟩
    · rw [h.config_eq]
      exact ⟨ttl, rfl, calls, [], rfl, by simp⟩
    · obtain ⟨ttl', httl, hlatest⟩ := h.latest e he
      refine ⟨ttl', httl, hlatest.concat ?_⟩
      rintro ⟨ttl'', v', hcall⟩
      cases hcall
      exact hkey rfl
  · obtain ⟨found, missed, hsum, hhits, hmisses⟩ := h.counted
    have hsame : (calls ++ [(now, Call.insert key ttl v)]).countP (fun call => call.2.isGet)
        = calls.countP (fun call => call.2.isGet) := by
      simp [Call.isGet]
    rw [hsame]
    exact ⟨found, missed, hsum, hhits, hmisses⟩

theorem after (config : CacheConfig) (places : Nat → String → Nat) (calls : List (Nat × Call)) :
    Recorded config calls (after config places calls) := by
  induction calls using List.reverseRecOn with
  | nil => exact start config places
  | append_singleton calls call ih =>
    obtain ⟨now, call⟩ := call
    rw [Cache.after, List.foldl_append]
    cases call with
    | get key => exact ih.get now key
    | insert key ttl v => exact ih.insert now key ttl v

end Recorded

/-! ## The next call -/

/-- What can be relied on after a history, whatever the clock shows. -/
structure Dependable (config : CacheConfig) (calls : List (Nat × Call)) (c : Cache) : Prop where
  /-- No more is kept than there is room for, and there is room for one answer. -/
  bounded : c.size ≤ max config.maxEntries 1
  /-- An answer that is given is the latest one for its key, and its span is not over. -/
  sound : ∀ now key v, (c.get now key).1 = some v →
    ∃ t ttl, Latest calls key t ttl v ∧ now < t + config.span ttl
  /-- An answer that was just stored is kept. -/
  stored : ∀ now key ttl v,
    entry? (c.insert now key ttl v) key = some ⟨key, now, config.span ttl, v⟩
  /-- To store an answer for a key that has one removes that of no other key. -/
  refreshed : ∀ now key ttl v, (c.entry? key).isSome → ∀ e ∈ c.entries, e.key ≠ key →
    e ∈ (c.insert now key ttl v).entries
  /-- To store an answer for a new key removes a fresh one only where all the room is taken by
  fresh ones, and then none that is younger than one that stays. -/
  evicted : ∀ now key ttl v, c.entry? key = none → ∀ e ∈ c.entries, e.isFresh now →
    e ∉ (c.insert now key ttl v).entries →
      max config.maxEntries 1 ≤ (c.entries.filter fun e => e.isFresh now).length ∧
      ∀ e' ∈ c.entries, e' ∈ (c.insert now key ttl v).entries → e.storedAt ≤ e'.storedAt
  /-- Every question was counted, as found or as missed, by counters of 64 bits. -/
  counted : c.hits + c.misses = UInt64.ofNat (calls.countP fun call => call.2.isGet) ∧
    (calls.countP (fun call => call.2.isGet) < 0x10000000000000000 →
      c.hits.toNat + c.misses.toNat = calls.countP fun call => call.2.isGet)

/-- **A cache is sound and bounded** after every history. -/
theorem after_dependable (config : CacheConfig) (places : Nat → String → Nat)
    (calls : List (Nat × Call)) : Dependable config calls (after config places calls) := by
  have h := Recorded.after config places calls
  generalize after config places calls = c at h
  refine ⟨h.config_eq ▸ h.room, ?_, ?_, ?_, ?_, ?_⟩
  · intro now key v hget
    obtain ⟨e, he, rfl, rfl, hfresh⟩ := mem_of_get hget
    obtain ⟨ttl, httl, hlatest⟩ := h.latest e he
    have hspan : now - e.storedAt < e.ttl := by simpa [CacheEntry.isFresh] using hfresh
    exact ⟨e.storedAt, ttl, hlatest, by omega⟩
  · intro now key ttl v
    rw [entry?_insert, h.config_eq]
  · intro now key ttl v hentry e he hkey
    rw [insert_of_stored hentry]
    exact List.mem_map.2 ⟨e, he, by simp [hkey]⟩
  · intro now key ttl v hentry e he hfresh hgone
    obtain ⟨kept, hentries, -, -, hkept⟩ := insert_of_new hentry now ttl v
    rw [hentries] at hgone ⊢
    obtain ⟨hfull, hle⟩ := hkept h.keys e he hfresh fun hmem => hgone (List.mem_append_left _ hmem)
    refine ⟨h.config_eq ▸ hfull, fun e' he' hstays => ?_⟩
    rcases List.mem_append.1 hstays with hstays | hstays
    · exact hle e' hstays
    · have hkey := entry?_eq_none_iff.1 hentry e' he'
      rw [List.mem_singleton.1 hstays] at hkey
      exact absurd rfl hkey
  · obtain ⟨found, missed, hsum, hhits, hmisses⟩ := h.counted
    rw [hhits, hmisses, ← hsum]
    refine ⟨(UInt64.ofNat_add found missed).symm, fun hlt => ?_⟩
    rw [UInt64.toNat_ofNat', UInt64.toNat_ofNat', Nat.mod_eq_of_lt (by omega),
      Nat.mod_eq_of_lt (by omega)]

example : (after { maxEntries := 2 } (fun _ key => if key = "b" then 0 else 1)
    [(0, .insert "a" .long .null), (0, .insert "b" .short .null), (2, .insert "c" .long .null)]
      ).entries.map (fun e => (e.key, e.storedAt)) = [("a", 0), ("c", 2)] := by
  decide

end Cache

end ChainIndexer
