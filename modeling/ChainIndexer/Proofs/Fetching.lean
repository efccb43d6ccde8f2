import ChainIndexer.Proofs.Commands

/-!
# What a fetch depends on

A `Ledger` says what a chain answers whenever it does. A source that may fail, change its state
with every request and complete lookups in any order is `Faithful` to the ledger when each of its
answers is the ledger's.

* `Source.Faithful.fetch`: what a faithful source gives for a height is what the ledger gives.
* `Fetcher.height_of_mem_fetch`: the commands of a height are of that height.
* `Fetcher.height?_of_fetch`: a fetch that fails blames its height.
-/

namespace ChainIndexer

/-! ## Ledgers -/

/-- What a chain answers to each request whenever it answers, and nothing where it never does. -/
structure Ledger where
  genesis : Option Genesis
  block : Height → Option Block
  results : Height → Option BlockResults
  tx : String → Option Tx

theorem Lookup.getElem?_spawn (hashes : List String) (i : Nat) :
    (Lookup.spawn hashes)[i]? = hashes[i]?.map fun hash => ⟨hash, fun answer => (i, answer)⟩ :=
  List.getElem?_mapIdx

namespace Ledger

/-- The answer of a chain that answers whatever it ever does. -/
def answer {α : Type} : Option α → Except RpcError α
  | some a => .ok a
  | none => .error (.notFound "")

/-- The lookups of some hashes, completed in order. -/
def txs (l : Ledger) (hashes : List String) : List (Nat × Except RpcError Tx) :=
  hashes.mapIdx fun place hash => (place, answer (l.tx hash))

/-- The chain of a ledger. -/
def source (l : Ledger) : Source Id where
  genesis := answer l.genesis
  block h := answer (l.block h)
  results h := answer (l.results h)
  join lookups := lookups.map fun t => t.finish (answer (l.tx t.hash))
  found _ := ()

def Answers (l : Ledger) (hashes : List String) (finished : List (Nat × Except RpcError Tx)) :
    Prop :=
  ∀ place tx, (place, .ok tx) ∈ finished → ∃ hash, hashes[place]? = some hash ∧ l.tx hash = some tx

theorem mem_txs {l : Ledger} {hashes : List String} {place : Nat} {o : Except RpcError Tx} :
    (place, o) ∈ l.txs hashes ↔ ∃ hash, hashes[place]? = some hash ∧ o = answer (l.tx hash) := by
  simp only [txs, List.mem_mapIdx, Prod.mk.injEq, List.getElem?_eq_some_iff]
  constructor
  · rintro ⟨i, hi, rfl, rfl⟩
    exact ⟨_, ⟨hi, rfl⟩, rfl⟩
  · rintro ⟨hash, ⟨hi, rfl⟩, rfl⟩
    exact ⟨place, hi, rfl, rfl⟩

theorem source_txs (l : Ledger) (hashes : List String) : l.source.txs hashes = l.txs hashes := by
  apply List.ext_getElem?
  intro i
  rw [txs, List.getElem?_mapIdx, Source.txs]
  change ((Lookup.spawn hashes).map fun t => t.finish (answer (l.tx t.hash)))[i]? = _
  rw [List.getElem?_map, Lookup.getElem?_spawn, Option.map_map]
  rfl

theorem source_genesis {l : Ledger} {g : Genesis} (h : l.genesis = some g) :
    l.source.genesis = .ok g := congrArg answer h

theorem source_block {l : Ledger} {height : Height} {b : Block} (h : l.block height = some b) :
    l.source.block height = .ok b := congrArg answer h

theorem source_results {l : Ledger} {height : Height} {r : BlockResults}
    (h : l.results height = some r) : l.source.results height = .ok r := congrArg answer h

end Ledger

/-- Whatever the source answers, in whichever state, is what the ledger has. -/
structure Source.Faithful {τ : Type} (source : Source (StateM τ)) (l : Ledger) : Prop where
  genesis : ∀ {s g}, (source.genesis s).1 = .ok g → l.genesis = some g
  block : ∀ {h s b}, (source.block h s).1 = .ok b → l.block h = some b
  results : ∀ {h s r}, (source.results h s).1 = .ok r → l.results h = some r
  txs : ∀ hashes s, l.Answers hashes (source.txs hashes s).1

/-! ## Transactions -/

namespace Lookup

variable {height : Height} {hashes : List String} {finished : List (Nat × Except RpcError Tx)}

/-- A block whose transactions are found has one for each place, and no answer is at fault. -/
theorem settle_eq_ok_iff {txs : List Tx} :
    settle height hashes finished = .ok txs ↔
      (∀ p ∈ finished, fault? height hashes p = none) ∧
        (∀ place < hashes.length, (slot? finished place).isSome) ∧
        txs = (List.range hashes.length).filterMap (slot? finished) := by
  have hlength : ((List.range hashes.length).filterMap (slot? finished)).length = hashes.length ↔
      ∀ place < hashes.length, (slot? finished place).isSome := by
    have h := List.filterMap_length_eq_length (f := slot? finished) (l := List.range hashes.length)
    simpa only [List.length_range, List.mem_range] using h
  unfold settle
  cases hf : finished.findSome? (fault? height hashes) with
  | some e =>
    obtain ⟨p, hp, he⟩ := List.exists_of_findSome?_eq_some hf
    constructor
    · intro h
      cases h
    · intro h
      rw [h.1 p hp] at he
      cases he
  | none =>
    dsimp only
    rw [List.findSome?_eq_none_iff] at hf
    split
    · rename_i hl
      constructor
      · intro h
        exact ⟨hf, hlength.1 hl, (Except.ok.inj h).symm⟩
      · intro h
        rw [h.2.2]
    · rename_i hl
      constructor
      · intro h
        cases h
      · intro h
        exact absurd (hlength.2 h.2.1) hl

theorem slot?_eq_some_iff {place : Nat} {tx : Tx} :
    slot? finished place = some tx ↔
      ∃ t, finished.lookup place = some (.ok t) ∧ tx = { t with index := UInt64.ofNat place } := by
  unfold slot?
  split
  · rename_i t ht
    simp [ht, eq_comm]
  · rename_i hne
    simp only [reduceCtorEq, false_iff]
    rintro ⟨t, ht, -⟩
    exact hne t ht

theorem mem_of_lookup {place : Nat} {o : Except RpcError Tx} (h : finished.lookup place = some o) :
    (place, o) ∈ finished := by
  obtain ⟨before, after, rfl, -⟩ := List.lookup_eq_some_iff.1 h
  simp

theorem slot?_of_answers {l : Ledger} (ha : l.Answers hashes finished) {place : Nat}
    (h : (slot? finished place).isSome) :
    ∃ hash tx, hashes[place]? = some hash ∧ l.tx hash = some tx ∧ (place, .ok tx) ∈ finished ∧
      slot? finished place = some { tx with index := UInt64.ofNat place } := by
  obtain ⟨_, hslot⟩ := Option.isSome_iff_exists.1 h
  obtain ⟨tx, hlookup, rfl⟩ := slot?_eq_some_iff.1 hslot
  have hm := mem_of_lookup hlookup
  obtain ⟨hash, hhash, htx⟩ := ha place tx hm
  exact ⟨hash, tx, hhash, htx, hm, hslot⟩

theorem slot?_txs {l : Ledger} {place : Nat} {hash : String} {tx : Tx}
    (hhash : hashes[place]? = some hash) (htx : l.tx hash = some tx) :
    slot? (l.txs hashes) place = some { tx with index := UInt64.ofNat place } := by
  have hm : (place, Ledger.answer (l.tx hash)) ∈ l.txs hashes := Ledger.mem_txs.2 ⟨hash, hhash, rfl⟩
  have hsome : ((l.txs hashes).lookup place).isSome := by
    rw [List.lookup_isSome_iff]
    exact ⟨_, hm, by simp⟩
  obtain ⟨o, ho⟩ := Option.isSome_iff_exists.1 hsome
  obtain ⟨hash', hhash', rfl⟩ := Ledger.mem_txs.1 (mem_of_lookup ho)
  obtain rfl := Option.some.inj (hhash.symm.trans hhash')
  rw [htx] at ho
  exact slot?_eq_some_iff.2 ⟨tx, ho, rfl⟩

/-- The transactions of a block are what the ledger has for its hashes, whatever the order in which
the lookups are completed. -/
theorem settle_of_answers {l : Ledger} (ha : l.Answers hashes finished) {txs : List Tx}
    (h : settle height hashes finished = .ok txs) :
    settle height hashes (l.txs hashes) = .ok txs := by
  rw [settle_eq_ok_iff] at h ⊢
  obtain ⟨hfault, hsome, rfl⟩ := h
  have hslot : ∀ place < hashes.length, slot? (l.txs hashes) place = slot? finished place := by
    intro place hp
    obtain ⟨hash, tx, hhash, htx, -, heq⟩ := slot?_of_answers ha (hsome place hp)
    rw [slot?_txs hhash htx, heq]
  refine ⟨?_, fun place hp => hslot place hp ▸ hsome place hp, ?_⟩
  · -- each answer of the ledger was given before as well
    rintro ⟨place, o⟩ hm
    obtain ⟨hash, hhash, rfl⟩ := Ledger.mem_txs.1 hm
    obtain ⟨hp, -⟩ := List.getElem?_eq_some_iff.1 hhash
    obtain ⟨hash', tx, hhash', htx, hm', -⟩ := slot?_of_answers ha (hsome place hp)
    obtain rfl := Option.some.inj (hhash.symm.trans hhash')
    rw [htx]
    exact hfault _ hm'
  · exact List.filterMap_congr fun place hm => (hslot place (List.mem_range.1 hm)).symm

theorem height?_of_settle {e : SyncError} (h : settle height hashes finished = .error e) :
    e.height? = some height := by
  unfold settle at h
  split at h
  · rename_i f hf
    obtain rfl := Except.error.inj h
    obtain ⟨⟨place, o⟩, -, he⟩ := List.exists_of_findSome?_eq_some hf
    rcases o with e' | tx
    · obtain rfl := Option.some.inj he
      rfl
    · simp only [fault?] at he
      split at he
      · cases he
      · obtain rfl := Option.some.inj he
        rfl
  · dsimp only at h
    split at h
    · cases h
    · obtain rfl := Except.error.inj h
      rfl

end Lookup

/-! ## Heights -/

namespace Fetcher

variable {τ : Type} {source : Source (StateM τ)} {f : Fetcher} {height : Height} {s : τ}

theorem bind_run {α β : Type} (x : StateM τ α) (k : α → StateM τ β) (s : τ) :
    (x >>= k) s = k (x s).1 (x s).2 := rfl

theorem fetchGenesis_run : (f.fetchGenesis source s).1 =
    match (source.genesis s).1 with
    | .error e => .error (Lookup.failed 0 "genesis" e)
    | .ok genesis => (genesis.commands f.parser).mapError fun e => e.toSync 0 := by
  simp only [fetchGenesis, bind_run]
  cases (source.genesis s).1 <;> rfl

theorem fetchTxs_run {block : Block} : (fetchTxs source block s).1 =
    if block.txHashes.isEmpty then .ok []
    else Lookup.settle block.height block.txHashes (source.txs block.txHashes s).1 := by
  simp only [fetchTxs]
  split
  · rfl
  · simp only [bind_run]
    cases Lookup.settle block.height block.txHashes (source.txs block.txHashes s).1 <;> rfl

theorem fetchBlock_run : (f.fetchBlock source height s).1 =
    match source.block height s with
    | (.error e, _) => .error (Lookup.failed height "block" e)
    | (.ok block, t) =>
      if block.height ≠ height then
        .error (.fetch height ("node returned block " ++ SyncError.heightText block.height))
      else match source.results height t with
        | (.error e, _) => .error (Lookup.failed height "block_results" e)
        | (.ok results, u) => match (fetchTxs source block u).1 with
          | .error e => .error e
          | .ok txs =>
            (block.commands f.registry f.parser results txs).mapError fun e => e.toSync height := by
  simp only [fetchBlock, bind_run]
  rcases source.block height s with ⟨e | block, t⟩
  · rfl
  dsimp only
  split
  · rfl
  rw [bind_run]
  rcases source.results height t with ⟨e | results, u⟩
  · rfl
  dsimp only
  rw [bind_run]
  cases (fetchTxs source block u).1 <;> rfl

theorem height?_of_fetch {e : SyncError} (h : (f.fetch source height s).1 = .error e) :
    e.height? = some height := by
  unfold fetch at h
  split at h
  · rename_i h0
    rw [fetchGenesis_run] at h
    subst h0
    split at h
    · obtain rfl := Except.error.inj h
      rfl
    · obtain ⟨e, -, rfl⟩ := mapError_eq_error_iff.1 h
      rfl
  · rw [fetchBlock_run] at h
    split at h
    · obtain rfl := Except.error.inj h
      rfl
    split at h
    · obtain rfl := Except.error.inj h
      rfl
    rename_i block t hb hheight
    rw [not_not] at hheight
    split at h
    · obtain rfl := Except.error.inj h
      rfl
    split at h
    · rename_i e' htxs
      obtain rfl := Except.error.inj h
      rw [fetchTxs_run] at htxs
      split at htxs
      · cases htxs
      · rw [← hheight]
        exact Lookup.height?_of_settle htxs
    · obtain ⟨e, -, rfl⟩ := mapError_eq_error_iff.1 h
      rfl

theorem height_of_mem_fetch {commands : List Command}
    (h : (f.fetch source height s).1 = .ok commands) : ∀ c ∈ commands, c.height = height := by
  unfold fetch at h
  split at h
  · rename_i h0
    rw [fetchGenesis_run] at h
    split at h
    · cases h
    · rw [h0]
      exact Genesis.height_of_mem_commands (mapError_eq_ok_iff.1 h)
  · rw [fetchBlock_run] at h
    split at h
    · cases h
    split at h
    · cases h
    rename_i block t hb hheight
    rw [not_not] at hheight
    split at h
    · cases h
    split at h
    · cases h
    rw [← hheight]
    exact Block.height_of_mem_commands (mapError_eq_ok_iff.1 h)

end Fetcher

namespace Source.Faithful

variable {τ : Type} {source : Source (StateM τ)} {l : Ledger} {f : Fetcher} {height : Height}
  {s : τ}

theorem fetchTxs (hs : source.Faithful l) {block : Block} {txs : List Tx}
    (h : (Fetcher.fetchTxs source block s).1 = .ok txs) :
    Fetcher.fetchTxs l.source block = .ok txs := by
  rw [Fetcher.fetchTxs_run] at h
  simp only [Fetcher.fetchTxs]
  split at h
  · rename_i he
    rw [if_pos he]
    exact h
  · rename_i he
    rw [if_neg he]
    have hset : Lookup.settle block.height block.txHashes (l.source.txs block.txHashes)
        = .ok txs := by
      rw [Ledger.source_txs]
      exact Lookup.settle_of_answers (hs.txs _ _) h
    simp only [bind, hset]
    rfl

theorem fetchBlock (hs : source.Faithful l) {commands : List Command}
    (h : (f.fetchBlock source height s).1 = .ok commands) :
    f.fetchBlock l.source height = .ok commands := by
  rw [Fetcher.fetchBlock_run] at h
  rcases hb : source.block height s with ⟨e | block, t⟩
  · rw [hb] at h
    cases h
  rw [hb] at h
  dsimp only at h
  split at h
  · cases h
  rename_i hheight
  rcases hr : source.results height t with ⟨e | results, u⟩
  · rw [hr] at h
    cases h
  rw [hr] at h
  dsimp only at h
  split at h
  · cases h
  rename_i txs htxs
  simp only [Fetcher.fetchBlock, bind, Ledger.source_block (hs.block (congrArg Prod.fst hb)),
    if_neg hheight, Ledger.source_results (hs.results (congrArg Prod.fst hr)), hs.fetchTxs htxs]
  exact h

theorem fetch (hs : source.Faithful l) {commands : List Command}
    (h : (f.fetch source height s).1 = .ok commands) : f.fetch l.source height = .ok commands := by
  unfold Fetcher.fetch at h ⊢
  split at h
  · rename_i h0
    rw [if_pos h0]
    rw [Fetcher.fetchGenesis_run] at h
    split at h
    · cases h
    · rename_i g hg
      simp only [Fetcher.fetchGenesis, bind, Ledger.source_genesis (hs.genesis hg)]
      exact h
  · rename_i h0
    rw [if_neg h0]
    exact hs.fetchBlock h

end Source.Faithful

end ChainIndexer
