import ChainIndexer.Proofs.BlockCommands
import ChainIndexer.Proofs.Fetching
import ChainIndexer.Proofs.Lookups
import ChainIndexer.Proofs.Tasks

/-!
# Fetching from any node

A node may answer anything: the block of another height, a transaction that nobody asked for, an
error for one lookup and the right transaction for the next. `HeightAnswers` are its answers about a
height, and `HeightAnswers.Sound` says that they are answers about that height.

* `Source.Gives.txs`: each lookup that is spawned tells its own place with its answer.
* `Lookup.settle_of_perm`: lookups that are completed in whatever order put each transaction in its
  own place, or fail.
* `Fetcher.task_of_gives`: a height is fetched just where the answers are sound and the block is
  readable, and any other fetch blames the height or, with more permits than can be counted, crashes
  (`Sim.Script.overcrowded_crashes`).
* `Sim.Script.source_gives`: a scripted chain gives its answers with any number of permits.
-/

namespace ChainIndexer

/-- What a node answers about a height, right or wrong: a block, results, and for each place of the
block what comes of its lookup. -/
structure HeightAnswers where
  block : Except RpcError Block
  results : Except RpcError BlockResults
  tx : Nat → Except RpcError Tx

/-- A source gives these answers about a height from a state on. Lookups of the hashes of the block
are completed in whatever order, and each has its own answer. -/
structure Source.Gives {τ : Type} (source : Source (StateM τ)) (a : HeightAnswers)
    (height : Height) (s : τ) : Prop where
  block : (source.block height s).1 = a.block
  results : (source.results height (source.block height s).2).1 = a.results
  join : ∀ block, a.block = .ok block → ∀ {α : Type} (lookups : List (Lookup.Task α)),
    lookups.map Lookup.Task.hash = block.txHashes →
      (source.join lookups (source.results height (source.block height s).2).2).1.Perm
        (lookups.mapIdx fun place l => l.finish (a.tx place))

theorem Lookup.map_hash_spawn (hashes : List String) :
    (Lookup.spawn hashes).map Lookup.Task.hash = hashes := by
  apply List.ext_getElem?
  intro i
  rw [List.getElem?_map, getElem?_spawn, Option.map_map]
  exact Option.map_id'

/-- What spawned lookups tell of their answers are these answers with their places. -/
theorem Lookup.finish_spawn (hashes : List String) (answer : Nat → Except RpcError Tx) :
    ((Lookup.spawn hashes).mapIdx fun place l => l.finish (answer place))
      = (List.range hashes.length).map fun place => (place, answer place) := by
  apply List.ext_getElem?
  intro i
  rw [List.getElem?_mapIdx, getElem?_spawn, Option.map_map, List.getElem?_map]
  rcases Nat.lt_or_ge i hashes.length with h | h
  · rw [List.getElem?_eq_getElem h, List.getElem?_range h]
    rfl
  · rw [List.getElem?_eq_none h, List.getElem?_eq_none (by rwa [List.length_range])]
    rfl

theorem Source.Gives.txs {τ : Type} {source : Source (StateM τ)} {a : HeightAnswers}
    {height : Height} {s : τ} (h : source.Gives a height s) (block : Block)
    (hb : a.block = .ok block) :
    (source.txs block.txHashes (source.results height (source.block height s).2).2).1.Perm
      ((List.range block.txHashes.length).map fun place => (place, a.tx place)) := by
  have hjoin := h.join block hb (Lookup.spawn block.txHashes) (Lookup.map_hash_spawn _)
  rwa [Lookup.finish_spawn] at hjoin

def Tx.atPlace (tx : Tx) (place : Nat) : Tx := { tx with index := UInt64.ofNat place }

namespace HeightAnswers

/-- The lookups found the transactions, each reported at the height and now at its place. -/
structure Found (a : HeightAnswers) (height : Height) (count : Nat) (txs : List Tx) : Prop where
  length : txs.length = count
  each : ∀ place < count, ∃ tx, a.tx place = .ok tx ∧ tx.height = height ∧
    txs[place]? = some (tx.atPlace place)

end HeightAnswers

/-! ## Lookups in any order -/

theorem getElem?_filterMap {α β : Type} {f : α → Option β} {xs : List α}
    (h : ∀ x ∈ xs, (f x).isSome) (i : Nat) : (xs.filterMap f)[i]? = xs[i]?.bind f := by
  induction xs generalizing i with
  | nil => rfl
  | cons x xs ih =>
    rw [List.forall_mem_cons] at h
    obtain ⟨y, hy⟩ := Option.isSome_iff_exists.1 h.1
    rw [List.filterMap_cons_some hy]
    cases i with
    | zero => exact hy.symm
    | succ i => exact ih h.2 i

theorem filterMap_getElem?_range {α : Type} (xs : List α) :
    ((List.range xs.length).filterMap fun i => xs[i]?) = xs := by
  apply List.ext_getElem?
  intro i
  rw [getElem?_filterMap fun j hj => by rw [List.getElem?_eq_getElem (List.mem_range.1 hj)]; rfl]
  rcases Nat.lt_or_ge i xs.length with h | h
  · rw [List.getElem?_range h, Option.bind_some]
  · rw [List.getElem?_eq_none (by rwa [List.length_range]), List.getElem?_eq_none h]
    rfl

namespace Lookup

variable {a : HeightAnswers} {height : Height} {hashes : List String}
  {finished : List (Nat × Except RpcError Tx)}

theorem mem_of_perm
    (hp : finished.Perm ((List.range hashes.length).map fun place => (place, a.tx place)))
    {place : Nat} {o : Except RpcError Tx} :
    (place, o) ∈ finished ↔ place < hashes.length ∧ o = a.tx place := by
  rw [hp.mem_iff, List.mem_map]
  constructor
  · rintro ⟨i, hi, he⟩
    obtain ⟨rfl, rfl⟩ := Prod.mk.inj he
    exact ⟨List.mem_range.1 hi, rfl⟩
  · rintro ⟨hi, rfl⟩
    exact ⟨place, List.mem_range.2 hi, rfl⟩

theorem lookup_of_perm
    (hp : finished.Perm ((List.range hashes.length).map fun place => (place, a.tx place)))
    {place : Nat} (h : place < hashes.length) : finished.lookup place = some (a.tx place) := by
  have hsome : (finished.lookup place).isSome := by
    rw [List.lookup_isSome_iff]
    exact ⟨_, (mem_of_perm hp).2 ⟨h, rfl⟩, by simp⟩
  obtain ⟨o, ho⟩ := Option.isSome_iff_exists.1 hsome
  rw [ho, ((mem_of_perm hp).1 (mem_of_lookup ho)).2]

theorem fault?_eq_none_iff {place : Nat} {o : Except RpcError Tx} :
    fault? height hashes (place, o) = none ↔ ∃ tx, o = .ok tx ∧ tx.height = height := by
  cases o with
  | error e => simp [fault?]
  | ok tx => simp [fault?]

/-- Lookups that are completed in whatever order put each transaction in its own place. -/
theorem settle_of_perm
    (hp : finished.Perm ((List.range hashes.length).map fun place => (place, a.tx place)))
    {txs : List Tx} :
    settle height hashes finished = .ok txs ↔ a.Found height hashes.length txs := by
  rw [settle_eq_ok_iff]
  constructor
  · rintro ⟨hfault, hsome, rfl⟩
    refine ⟨?_, fun place h => ?_⟩
    · rw [List.filterMap_length_eq_length.2 fun i hi => hsome i (List.mem_range.1 hi),
        List.length_range]
    · obtain ⟨tx, htx, hheight⟩ := fault?_eq_none_iff.1 (hfault _ ((mem_of_perm hp).2 ⟨h, rfl⟩))
      refine ⟨tx, htx, hheight, ?_⟩
      rw [getElem?_filterMap (fun i hi => hsome i (List.mem_range.1 hi)), List.getElem?_range h,
        Option.bind_some, slot?_eq_some_iff]
      exact ⟨tx, htx ▸ lookup_of_perm hp h, rfl⟩
  · intro h
    have hslot : ∀ place < hashes.length, slot? finished place = txs[place]? := by
      intro place hplace
      obtain ⟨tx, htx, -, hat⟩ := h.each place hplace
      rw [hat, slot?_eq_some_iff]
      exact ⟨tx, htx ▸ lookup_of_perm hp hplace, rfl⟩
    have hsome : ∀ place < hashes.length, (slot? finished place).isSome := by
      intro place hplace
      obtain ⟨tx, -, -, hat⟩ := h.each place hplace
      rw [hslot place hplace, hat]
      rfl
    refine ⟨?_, hsome, ?_⟩
    · rintro ⟨place, o⟩ hm
      obtain ⟨hplace, rfl⟩ := (mem_of_perm hp).1 hm
      obtain ⟨tx, htx, hheight, -⟩ := h.each place hplace
      exact fault?_eq_none_iff.2 ⟨tx, htx, hheight⟩
    · apply List.ext_getElem?
      intro i
      rw [getElem?_filterMap (fun i hi => hsome i (List.mem_range.1 hi))]
      by_cases hi : i < hashes.length
      · rw [List.getElem?_range hi, Option.bind_some, hslot i hi]
      · rw [List.getElem?_eq_none (by rw [h.length]; omega),
          List.getElem?_eq_none (by rw [List.length_range]; omega)]
        rfl

end Lookup

/-! ## A height -/

/-- The answers are about the height: the block and the results are of the height, and each place
of the block has a transaction that is reported at the height and has the digest of the bytes
there. -/
structure HeightAnswers.Sound (a : HeightAnswers) (height : Height) (block : Block)
    (results : BlockResults) (txs : List Tx) : Prop where
  gotBlock : a.block = .ok block
  blockHeight : block.height = height
  gotResults : a.results = .ok results
  resultsHeight : results.height = height
  length : txs.length = block.txs.length
  each : ∀ (place : Nat) (raw : RawTx), block.txs[place]? = some raw → ∃ tx, a.tx place = .ok tx ∧
    tx.height = height ∧
    tx.hash.toList.map Char.toLower = (Sha256.hex raw.bytes).toList.map Char.toLower ∧
    txs[place]? = some (tx.atPlace place)

theorem Block.length_txHashes (block : Block) : block.txHashes.length = block.txs.length :=
  List.length_map _

namespace HeightAnswers

variable {a : HeightAnswers} {height : Height} {block : Block} {results : BlockResults}
  {txs : List Tx} {registry : Registry} {config : ParserConfig}

theorem Found.sound (hf : a.Found height block.txHashes.length txs) (hb : a.block = .ok block)
    (hheight : block.height = height) (hr : a.results = .ok results)
    (h : Block.Readable registry config block results txs) :
    a.Sound height block results txs where
  gotBlock := hb
  blockHeight := hheight
  gotResults := hr
  resultsHeight := h.height.trans hheight
  length := h.length
  each := by
    intro place raw hraw
    obtain ⟨hplace, -⟩ := List.getElem?_eq_some_iff.1 hraw
    obtain ⟨tx, htx, hat, hslot⟩ := hf.each place (by rwa [Block.length_txHashes])
    exact ⟨tx, htx, hat, (h.own place _ raw hslot hraw).2, hslot⟩

theorem Sound.found (h : a.Sound height block results txs) :
    a.Found height block.txHashes.length txs where
  length := by rw [h.length, Block.length_txHashes]
  each := by
    intro place hplace
    rw [Block.length_txHashes] at hplace
    obtain ⟨tx, htx, hat, -, hslot⟩ := h.each place _ (List.getElem?_eq_getElem hplace)
    exact ⟨tx, htx, hat, hslot⟩

end HeightAnswers

namespace Fetcher

variable {τ : Type} {source : Source (StateM τ)} {f : Fetcher} {a : HeightAnswers}
  {height : Height} {s : τ}

theorem fetchTxs_of_gives (hg : source.Gives a height s) {block : Block}
    (hb : a.block = .ok block) {txs : List Tx} :
    (fetchTxs source block (source.results height (source.block height s).2).2).1 = .ok txs ↔
      a.Found block.height block.txHashes.length txs := by
  rw [fetchTxs_run, ← Lookup.settle_of_perm (hg.txs block hb)]
  split
  · rename_i hnone
    have hp := hg.txs block hb
    rw [List.isEmpty_iff.1 hnone] at hp ⊢
    rw [List.perm_nil.1 hp]
    rfl
  · rfl

/-- A block is fetched just where the answers are about its height and it is readable. -/
theorem fetchBlock_of_gives (hg : source.Gives a height s) {commands : List Command} :
    (f.fetchBlock source height s).1 = .ok commands ↔
      ∃ block results txs, a.Sound height block results txs ∧
        block.commands f.registry f.parser results txs = .ok commands := by
  have hblock := hg.block
  have hresults := hg.results
  rw [fetchBlock_run]
  constructor
  · intro h
    split at h
    · cases h
    rename_i block t hb
    rw [hb] at hblock hresults
    split at h
    · cases h
    rename_i hheight
    split at h
    · cases h
    rename_i results u hr
    rw [hr] at hresults
    split at h
    · cases h
    rename_i txs htxs
    have hfound : a.Found block.height block.txHashes.length txs := by
      rw [← fetchTxs_of_gives hg hblock.symm, hb, hr]
      exact htxs
    have hcommands := mapError_eq_ok_iff.1 h
    rw [not_not] at hheight
    rw [hheight] at hfound
    exact ⟨block, results, txs, hfound.sound hblock.symm hheight hresults.symm
      (Block.commands_eq_ok_iff.1 hcommands).1, hcommands⟩
  · rintro ⟨block, results, txs, hsound, hcommands⟩
    have hfound := hsound.found
    rw [← hsound.blockHeight, ← fetchTxs_of_gives hg hsound.gotBlock] at hfound
    rw [hsound.gotBlock] at hblock
    rw [hsound.gotResults] at hresults
    rcases hb : source.block height s with ⟨o, t⟩
    rw [hb] at hblock hresults hfound
    obtain rfl : o = .ok block := hblock
    dsimp only at hresults hfound ⊢
    rw [if_neg (not_not.2 hsound.blockHeight)]
    rcases hr : source.results height t with ⟨o, u⟩
    rw [hr] at hresults hfound
    obtain rfl : o = .ok results := hresults
    dsimp only at hfound ⊢
    rw [hfound]
    exact mapError_eq_ok_iff.2 hcommands

theorem fetch_of_gives (hpos : 0 < height) (hg : source.Gives a height s)
    (commands : List Command) :
    (f.fetch source height s).1 = .ok commands ↔
      ∃ block results txs, a.Sound height block results txs ∧
        block.commands f.registry f.parser results txs = .ok commands := by
  rw [fetch, if_neg (UInt64.pos_iff_ne_zero.1 hpos)]
  exact fetchBlock_of_gives hg

theorem looksUp_iff (hpos : 0 < height) (hg : source.Gives a height s) :
    source.LooksUp height s ↔ ∃ block results, a.block = .ok block ∧ block.height = height ∧
      a.results = .ok results ∧ block.txs ≠ [] := by
  unfold Source.LooksUp
  rw [hg.block, hg.results, and_iff_right (UInt64.pos_iff_ne_zero.1 hpos)]
  simp only [Block.txHashes, ne_eq, List.map_eq_nil_iff]

theorem task_ok_iff (hpos : 0 < height) (hg : source.Gives a height s) (permits : Nat)
    (commands : List Command) :
    (f.task source permits height s).1 = .done (.ok commands) ↔
      ∃ block results txs, a.Sound height block results txs ∧
        block.commands f.registry f.parser results txs = .ok commands ∧
        (mostPermits < permits → block.txs = []) := by
  by_cases hcrash : mostPermits < permits ∧ source.LooksUp height s
  · rw [(f.task_crashed_iff source permits height s).2 hcrash]
    refine iff_of_false (fun h => by cases h) ?_
    rintro ⟨block, results, txs, hsound, -, hnone⟩
    obtain ⟨block', results', hb, -, -, hne⟩ := (looksUp_iff hpos hg).1 hcrash.2
    obtain rfl := Except.ok.inj (hsound.gotBlock.symm.trans hb)
    exact hne (hnone hcrash.1)
  · rw [task_done f hcrash, Outcome.done.injEq, fetch_of_gives hpos hg]
    constructor
    · rintro ⟨block, results, txs, hsound, hcommands⟩
      refine ⟨block, results, txs, hsound, hcommands, fun hmost => ?_⟩
      by_contra hne
      exact hcrash ⟨hmost, (looksUp_iff hpos hg).2
        ⟨block, results, hsound.gotBlock, hsound.blockHeight, hsound.gotResults, hne⟩⟩
    · rintro ⟨block, results, txs, hsound, hcommands, -⟩
      exact ⟨block, results, txs, hsound, hcommands⟩

/-- **What is fetched from any node.** Take any answers about a height above 0, any number of permits
and any order in which the lookups are completed. The height is fetched just where the answers are
about it, its block is readable, and the permits can be counted if there is anything to look up.
Then the commands tell of one transaction for each place of the block, in block order and with that
place as its index; they are the same for any other source with these answers and for any number of
permits that can be counted. Where the height is not fetched the error blames it, but with more
permits than can be counted the task crashes as soon as it comes to the lookups. -/
theorem task_of_gives (f : Fetcher) (permits : Nat) (hpos : 0 < height)
    (hg : source.Gives a height s) :
    (∀ commands, (f.task source permits height s).1 = .done (.ok commands) ↔
        ∃ block results txs, a.Sound height block results txs ∧
          block.commands f.registry f.parser results txs = .ok commands ∧
          (mostPermits < permits → block.txs = [])) ∧
      (∀ commands, (f.task source permits height s).1 = .done (.ok commands) →
        ∃ block results txs, a.Sound height block results txs ∧
          commands.filterMap Command.transaction? = txs ∧
          ∀ (place : Nat) (tx : Tx), txs[place]? = some tx → tx.index.toNat = place) ∧
      (∀ (τ' : Type) (source' : Source (StateM τ')) (s' : τ') (permits' : Nat),
        source'.Gives a height s' → permits ≤ mostPermits → permits' ≤ mostPermits →
          ∀ commands, (f.task source' permits' height s').1 = .done (.ok commands) ↔
            (f.task source permits height s).1 = .done (.ok commands)) ∧
      ((f.task source permits height s).1 = .crashed ↔ mostPermits < permits ∧
        ∃ block results, a.block = .ok block ∧ block.height = height ∧
          a.results = .ok results ∧ block.txs ≠ []) ∧
      ((∀ commands, (f.task source permits height s).1 ≠ .done (.ok commands)) →
        (f.task source permits height s).1 = .crashed ∨
          ∃ e, (f.task source permits height s).1 = .done (.error e) ∧
            e.height? = some height) := by
  refine ⟨task_ok_iff hpos hg permits, fun commands h => ?_,
    fun τ' source' s' permits' hg' hcount hcount' commands => ?_, ?_, fun h => ?_⟩
  · obtain ⟨block, results, txs, hsound, hcommands, -⟩ := (task_ok_iff hpos hg permits _).1 h
    obtain ⟨hreadable, rfl⟩ := Block.commands_eq_ok_iff.1 hcommands
    refine ⟨block, results, txs, hsound, Block.transactions_told .., fun place tx htx => ?_⟩
    obtain ⟨hplace, -⟩ := List.getElem?_eq_some_iff.1 htx
    rw [hsound.length] at hplace
    exact (hreadable.own place tx _ htx (List.getElem?_eq_getElem hplace)).1
  · rw [task_ok_iff hpos hg', task_ok_iff hpos hg]
    simp only [Nat.not_lt.2 hcount, Nat.not_lt.2 hcount', false_implies, and_true]
  · rw [task_crashed_iff, looksUp_iff hpos hg]
  · by_cases hcrash : mostPermits < permits ∧ source.LooksUp height s
    · exact .inl ((f.task_crashed_iff source permits height s).2 hcrash)
    · rw [task_done f hcrash] at h ⊢
      cases hr : (f.fetch source height s).1 with
      | ok commands => exact absurd (congrArg Outcome.done hr) (h commands)
      | error e => exact .inr ⟨e, rfl, height?_of_fetch hr⟩

end Fetcher

/-! ## Scripted chains -/

namespace Sim.Script

/-- What a script answers about a height at a time. -/
def answers (s : Script) (now : Nat) (height : Height) : HeightAnswers where
  block := s.block now height
  results := s.blockResults now height
  tx place :=
    match (s.block now height).toOption.bind fun block => block.txHashes[place]? with
    | some hash => (s.tx hash).1
    | none => .error (.notFound "")

/-- However many lookups are allowed at the same time and however long each takes, a scripted chain
gives its answers about a height. -/
theorem source_gives (s : Script) {permits : Nat} (h : 0 < permits) (now : Nat) (height : Height)
    (trace : Trace) : (s.source permits now).Gives (s.answers now height) height trace where
  block := rfl
  results := rfl
  join := by
    intro block hb α lookups hlookups
    have hb' : s.block now height = .ok block := hb
    have hrun : ((s.source permits now).join lookups trace).1 =
        ((Lookups.run permits (lookups.map fun l => (s.tx l.hash).2)).1.map Prod.fst).filterMap
          fun place => (lookups[place]?).map fun l => l.finish (s.tx l.hash).1 := by
      rw [List.filterMap_map]
      rfl
    -- every lookup ends once, and the one at a place asks for the hash there
    have hended := Lookups.run_perm h (lookups.map fun l => (s.tx l.hash).2)
    rw [List.length_map] at hended
    have hanswer : ∀ place ∈ List.range lookups.length,
        (lookups[place]?).map (fun l => l.finish (s.tx l.hash).1)
          = (lookups.mapIdx fun i l => l.finish ((s.answers now height).tx i))[place]? := by
      intro place hplace
      obtain ⟨l, hget⟩ : ∃ l, lookups[place]? = some l :=
        ⟨_, List.getElem?_eq_getElem (List.mem_range.1 hplace)⟩
      have hhash : block.txHashes[place]? = some l.hash := by
        rw [← hlookups, List.getElem?_map, hget, Option.map_some]
      rw [List.getElem?_mapIdx, hget, Option.map_some, Option.map_some]
      simp only [answers, hb', Except.toOption, Option.bind_some, hhash]
    change ((s.source permits now).join lookups trace).1.Perm _
    rw [hrun]
    refine (hended.filterMap _).trans (.of_eq ?_)
    rw [List.filterMap_congr hanswer]
    have hlength : lookups.length
        = (lookups.mapIdx fun i l => l.finish ((s.answers now height).tx i)).length :=
      List.length_mapIdx.symm
    rw [hlength]
    exact filterMap_getElem?_range _

/-- A chain whose block of height 5 has two transactions, the lookup of the second of which is the
faster one; each transaction comes with a wrong index. -/
def overtaking (second : Tx) : Script where
  genesis := emptyGenesis
  blocks := [(5, plainBlock 5 [⟨[1]⟩, ⟨[2]⟩])]
  txs := [⟨RawTx.hash ⟨[1]⟩, .ok (Block.mixedTx ⟨[1]⟩ 7 0 []), 9⟩,
    ⟨RawTx.hash ⟨[2]⟩, .ok second, 3⟩]

/-- The lookup that is completed first goes to the second place, and a transaction that nobody asked
for is found out. -/
theorem overtaking_fetched :
    let f : Fetcher := {}
    let right := (overtaking (Block.mixedTx ⟨[2]⟩ 7 11 [])).source 2 0
    let wrong := (overtaking (Block.mixedTx ⟨[1]⟩ 7 11 [])).source 2 0
    (f.fetch right 5 {}).2.completed = [RawTx.hash ⟨[2]⟩, RawTx.hash ⟨[1]⟩] ∧
      (∃ commands, (f.task right 2 5 {}).1 = .done (.ok commands) ∧
        (commands.filterMap Command.transaction?).map (fun tx => tx.index.toNat) = [0, 1]) ∧
      ∃ e, (f.task wrong 2 5 {}).1 = .done (.error e) ∧ e.height? = some 5 := by
  intro f right wrong
  have hright := Fetcher.task_of_gives f 2 (by decide : (0 : Height) < 5)
    (source_gives (overtaking (Block.mixedTx ⟨[2]⟩ 7 11 [])) (by decide : 0 < 2) 0 5 {})
  have hwrong := Fetcher.task_of_gives f 2 (by decide : (0 : Height) < 5)
    (source_gives (overtaking (Block.mixedTx ⟨[1]⟩ 7 11 [])) (by decide : 0 < 2) 0 5 {})
  have hcount : ¬mostPermits < 2 := by decide
  obtain ⟨commands, hfetched⟩ := isOk_eq_true_iff.1
    (by decide +kernel : (f.fetch right 5 {}).1.isOk = true)
  obtain ⟨e, hfail⟩ := isOk_eq_false_iff.1
    (by decide +kernel : (f.fetch wrong 5 {}).1.isOk = false)
  have hok : (f.task right 2 5 {}).1 = .done (.ok commands) := by
    rw [Fetcher.task_done f fun h => hcount h.1, hfetched]
  obtain ⟨block, results, txs, hsound, rfl, hindex⟩ := hright.2.1 commands hok
  obtain rfl : plainBlock 5 [⟨[1]⟩, ⟨[2]⟩] = block := Except.ok.inj hsound.gotBlock
  obtain ⟨first, second, htxs⟩ := List.length_eq_two.1 hsound.length
  rw [htxs] at hindex
  refine ⟨by decide +kernel, ⟨commands, hok, ?_⟩, ?_⟩
  · rw [htxs, List.map_cons, List.map_singleton, hindex 0 first rfl, hindex 1 second rfl]
  · have hfails : ∀ commands, (f.task wrong 2 5 {}).1 ≠ .done (.ok commands) := by
      intro commands h
      rw [Fetcher.task_done f fun h => hcount h.1, hfail] at h
      cases h
    rcases hwrong.2.2.2.2 hfails with hcrash | hfailed
    · exact absurd (hwrong.2.2.2.1.1 hcrash).1 hcount
    · exact hfailed

/-- With more permits than can be counted a height crashes for which the answers are sound. -/
theorem overcrowded_crashes :
    let chain := overtaking (Block.mixedTx ⟨[2]⟩ 7 11 [])
    let source := chain.source 0x2000000000000000 0
    let f : Fetcher := {}
    source.Gives (chain.answers 0 5) 5 {} ∧
      (∃ block results txs commands, (chain.answers 0 5).Sound 5 block results txs ∧
        block.commands f.registry f.parser results txs = .ok commands) ∧
      (f.task source 0x2000000000000000 5 {}).1 = .crashed := by
  intro chain source f
  have hgives : source.Gives (chain.answers 0 5) 5 {} := source_gives chain (by decide) 0 5 {}
  obtain ⟨commands, hok⟩ := isOk_eq_true_iff.1
    (by decide +kernel : (f.fetch source 5 {}).1.isOk = true)
  obtain ⟨block, results, txs, hsound, hcommands⟩ :=
    (Fetcher.fetch_of_gives (by decide) hgives commands).1 hok
  refine ⟨hgives, ⟨block, results, txs, commands, hsound, hcommands⟩, ?_⟩
  exact (f.task_crashed_iff _ _ _ _).2 ⟨by decide, by decide, plainBlock 5 [⟨[1]⟩, ⟨[2]⟩],
    emptyResults 5, rfl, rfl, rfl, List.cons_ne_nil _ _⟩

end Sim.Script

end ChainIndexer
