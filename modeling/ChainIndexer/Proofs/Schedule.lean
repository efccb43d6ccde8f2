import ChainIndexer.Proofs.Fetching
import ChainIndexer.Proofs.InOrder
import ChainIndexer.Sim.Script

/-!
# Independence of the schedule

Surroundings read a chain (`Surroundings.Reads`) when every result that they give for a height was
fetched from a source that is faithful to the chain's ledger, with whatever failures and whatever
order of completion.

* `records_of_handed`: what an attempt hands over for a height is what the ledger records there.
* `Script.source_faithful`: a scripted chain is faithful to its ledger at any time and with any
  number of lookups at the same time.
* `runs_agree`: two runs from the same handler that leave the same cursor have accepted the same
  events at every height.
-/

namespace ChainIndexer

/-! ## What a ledger records -/

/-- Every result that the surroundings give was fetched from the chain of the ledger. -/
def Surroundings.Reads {σ : Type} (env : Surroundings σ) (f : Fetcher) (l : Ledger) : Prop :=
  ∀ status first last s txs finished, (env.fetch status first last s).1 = (txs, some finished) →
    ∀ height commands, (height, .done (.ok commands)) ∈ finished →
      ∃ (τ : Type) (source : Source (StateM τ)) (t : τ),
        source.Faithful l ∧ (f.fetch source height t).1 = .ok commands

/-- The events are those of the commands that the ledger has for the height, in order, and all of
that height. -/
def Ledger.Records (l : Ledger) (f : Fetcher) (height : Height) (events : List Event) : Prop :=
  ∃ commands, f.fetch l.source height = .ok commands ∧
    List.Forall₂ (fun c e => c.execute = .ok e) commands events ∧ ∀ e ∈ events, e.height = height

theorem Ledger.Records.unique {l : Ledger} {f : Fetcher} {height : Height}
    {events events' : List Event} (h : l.Records f height events)
    (h' : l.Records f height events') : events = events' := by
  obtain ⟨commands, hc, hx, -⟩ := h
  obtain ⟨commands', hc', hx', -⟩ := h'
  obtain rfl := Except.ok.inj (hc.symm.trans hc')
  have hok := (Command.executeAll_eq_ok_iff height).2 hx
  have hok' := (Command.executeAll_eq_ok_iff height).2 hx'
  exact Except.ok.inj (hok.symm.trans hok')

theorem Ledger.eq_of_records {l : Ledger} {f : Fetcher} {done done' : List (Height × List Event)}
    (h : ∀ q ∈ done, l.Records f q.1 q.2) (h' : ∀ q ∈ done', l.Records f q.1 q.2)
    (hheights : done.map Prod.fst = done'.map Prod.fst) : done = done' := by
  induction done generalizing done' with
  | nil =>
    obtain rfl := List.map_eq_nil_iff.1 hheights.symm
    rfl
  | cons q done ih =>
    obtain ⟨q', done', rfl⟩ : ∃ q' rest, done' = q' :: rest := by
      cases done' with
      | nil => cases hheights
      | cons q' rest => exact ⟨q', rest, rfl⟩
    obtain ⟨hq, hrest⟩ := List.cons.inj hheights
    rw [List.forall_mem_cons] at h h'
    have hevents : q.2 = q'.2 := h.1.unique (hq ▸ h'.1)
    rw [ih h.2 h'.2 hrest, Prod.ext hq hevents]

/-! ## A scripted chain -/

namespace Sim.Script

variable {s : Script}

/-- What a scripted chain answers whenever it does. -/
def ledger (s : Script) : Ledger where
  genesis := some s.genesis
  block height := some ((s.blocks.lookup height).getD (plainBlock height []))
  results height := some ((s.results.lookup height).getD (emptyResults height))
  tx hash := (s.tx hash).1.toOption

theorem eq_of_answer {α : Type} {inResults : Bool} {height : Height} {now : Nat} {a b : α}
    (h : s.answer inResults height now a = .ok b) : a = b := by
  unfold answer at h
  split at h
  · cases h
  · exact Except.ok.inj h

/-- A scripted chain is faithful to its ledger, at any time and with any number of lookups at the
same time. -/
theorem source_faithful (s : Script) (permits now : Nat) :
    (s.source permits now).Faithful s.ledger where
  genesis h := congrArg some (eq_of_answer h)
  block h := congrArg some (eq_of_answer h)
  results h := congrArg some (eq_of_answer h)
  txs := by
    intro hashes t place tx hm
    obtain ⟨⟨i, ended⟩, -, he⟩ := List.mem_filterMap.1 hm
    obtain ⟨l, hl, he⟩ := Option.map_eq_some_iff.1 he
    rw [Lookup.getElem?_spawn] at hl
    obtain ⟨hash, hhash, rfl⟩ := Option.map_eq_some_iff.1 hl
    obtain ⟨rfl, ho⟩ := Prod.mk.inj he
    have htx : (s.tx hash).1.toOption = some tx := congrArg Except.toOption ho
    exact ⟨hash, hhash, htx⟩

/-- Surroundings that fetch every height from a scripted chain at a time. -/
def surroundings (s : Script) (f : Fetcher) (permits now : Nat) (latest : Height)
    (refused : Height → Option SyncError) : Surroundings History :=
  History.surroundings latest (fun h => (f.fetch (s.source permits now) h {}).1) refused

theorem surroundings_reads (s : Script) (f : Fetcher) (permits now : Nat) (latest : Height)
    (refused : Height → Option SyncError) :
    (s.surroundings f permits now latest refused).Reads f s.ledger := by
  intro status first last h txs finished hg height commands hm
  cases hg
  obtain ⟨g, -, hg⟩ := List.mem_map.1 hm
  obtain ⟨rfl, ho⟩ := Prod.mk.inj hg
  exact ⟨_, _, _, s.source_faithful permits now, Outcome.done.inj ho⟩

end Sim.Script

/-! ## Two runs -/

namespace Manager.Turn

variable {σ σ' : Type} {history : σ → History} {history' : σ' → History} {starting : Height}
  {f : Fetcher} {l : Ledger}

theorem records_of_handed {t : Turn σ} (ht : t.env.Reads f l) {q : Height × List Event}
    (hq : t.Handed q) : l.Records f q.1 q.2 := by
  obtain ⟨commands, first, last, finished, ⟨status, s, txs, hg⟩, hm, hx⟩ := hq
  obtain ⟨τ, source, u, hs, hf⟩ := ht status first last s txs finished hg q.1 commands hm
  have hexecute := (Command.executeAll_eq_ok_iff q.1).1 hx
  refine ⟨commands, hs.fetch hf, hexecute, fun e he => ?_⟩
  obtain ⟨c, hc, hce⟩ := exists_of_mem_right hexecute he
  rw [Command.height_of_execute hce, Fetcher.height_of_mem_fetch hf c hc]

/-- What a run accepts is a part of the agenda that its last cursor determines, with the events that
the ledger records. -/
theorem runAll_records {turns : List (Turn σ)} (hturns : ∀ t ∈ turns, t.Obeys history starting)
    (hreads : ∀ t ∈ turns, t.env.Reads f l) (s : σ) :
    ∃ done : List (Height × List Event),
      (history (runAll turns s)).accepted = (history s).accepted ++ done ∧
      (done.map Prod.fst = (agenda starting (history s).cursor).filter fun h =>
        (history (runAll turns s)).cursor.any (h ≤ ·)) ∧
      ∀ q ∈ done, l.Records f q.1 q.2 := by
  obtain ⟨done, hdone, hf, hcursor, hhanded⟩ := runAll_accepts hturns s
  refine ⟨done, hdone, ?_, fun q hq => ?_⟩
  · rw [hcursor, ← List.getLast?_map]
    exact eq_filter_any (follows_iff_starts.1 hf)
  · obtain ⟨t, ht, hq⟩ := hhanded q hq
    exact records_of_handed (hreads t ht) hq

/-- **Independence of the schedule.** Two runs over one chain, with whatever attempts, from handlers
that hold the same and with the same last cursor, have accepted the same events at every height:
those of the commands that the chain's ledger has for it, in order and all of that height. -/
theorem runs_agree {turns : List (Turn σ)} {turns' : List (Turn σ')} {s : σ} {s' : σ'}
    (hturns : ∀ t ∈ turns, t.Obeys history starting ∧ t.env.Reads f l)
    (hturns' : ∀ t ∈ turns', t.Obeys history' starting ∧ t.env.Reads f l)
    (hcursor : (history s).cursor = (history' s').cursor)
    (haccepted : (history s).accepted = (history' s').accepted)
    (hend : (history (runAll turns s)).cursor = (history' (runAll turns' s')).cursor) :
    (history (runAll turns s)).accepted = (history' (runAll turns' s')).accepted ∧
      ∃ done : List (Height × List Event),
        (history (runAll turns s)).accepted = (history s).accepted ++ done ∧
        ∀ q ∈ done, ∃ commands, f.fetch l.source q.1 = .ok commands ∧
          List.Forall₂ (fun c e => c.execute = .ok e) commands q.2 ∧ ∀ e ∈ q.2, e.height = q.1 := by
  obtain ⟨done, hdone, hheights, hrecords⟩ :=
    runAll_records (fun t ht => (hturns t ht).1) (fun t ht => (hturns t ht).2) s
  obtain ⟨done', hdone', hheights', hrecords'⟩ :=
    runAll_records (fun t ht => (hturns' t ht).1) (fun t ht => (hturns' t ht).2) s'
  have hsame : done = done' := by
    apply Ledger.eq_of_records hrecords hrecords'
    rw [hheights, hheights', hcursor, hend]
  refine ⟨?_, done, hdone, hrecords⟩
  rw [hdone, hdone', haccepted, hsame]

/-- A chain with a block of two transactions, of which the first is looked up more slowly; asking
for height 1 fails at first. -/
def pairChain : Sim.Script :=
  let tx (hash : String) : Tx :=
    { height := 2, index := 0, hash, signatures := []
      body := { messages := [], memo := "", timeoutHeight := 0 }
      authInfo := { fee := { amount := [], gasLimit := 0, payer := "", granter := "" }
                    signerInfos := [] }
      result := { code := 0, codespace := "", rawLog := "", gasWanted := 0, gasUsed := 0
                  timestamp := Time.epoch, logs := [], events := [] } }
  let first : RawTx := ⟨[1]⟩
  let second : RawTx := ⟨[2]⟩
  { genesis := Sim.Script.emptyGenesis
    blocks := [(2, Sim.Script.plainBlock 2 [first, second])]
    txs := [⟨first.hash, .ok (tx first.hash), 9⟩, ⟨second.hash, .ok (tx second.hash), 3⟩]
    failing := [{ height := 1, error := .timeout 5, ends := some 1 }] }

/-- An attempt on that chain at a time, with so many lookups at the same time. -/
def onPair (permits now : Nat) (size : UInt64) (isRetry : Bool) : Turn History where
  env := pairChain.surroundings {} permits now 2 fun _ => none
  config := { window := .ofSize size }
  isRetry

theorem onPair_reads (permits now : Nat) (size : UInt64) (isRetry : Bool) :
    (onPair permits now size isRetry).Obeys id 0 ∧
      (onPair permits now size isRetry).env.Reads {} pairChain.ledger :=
  ⟨⟨History.surroundings_keeps _ _ _, rfl⟩, pairChain.surroundings_reads _ _ _ _ _⟩

/-- One lookup at a time, with an attempt that fails. -/
def slowTurns : List (Turn History) := [onPair 1 0 1 false, onPair 1 1 1 true, onPair 1 2 1 false]

/-- Two lookups that overtake each other. -/
def fastTurns : List (Turn History) := [onPair 2 1 9 false]

theorem pair_runs_agree :
    (runAll slowTurns {}).accepted = (runAll fastTurns {}).accepted ∧
      (runAll slowTurns {}).accepted.map (fun q => (q.1, q.2.length)) = [(0, 1), (1, 1), (2, 3)] ∧
      (runAll slowTurns {}).cursor = some 2 ∧ (runAll fastTurns {}).cursor = some 2 := by
  have hslow : ∀ t ∈ slowTurns, t.Obeys id 0 ∧ t.env.Reads {} pairChain.ledger := by
    simp [slowTurns, onPair_reads]
  have hfast : ∀ t ∈ fastTurns, t.Obeys id 0 ∧ t.env.Reads {} pairChain.ledger := by
    simp [fastTurns, onPair_reads]
  have hcursor : (runAll slowTurns {}).cursor = some 2 := by decide +kernel
  have hcursor' : (runAll fastTurns {}).cursor = some 2 := by decide +kernel
  have hend : (id (runAll slowTurns {})).cursor = (id (runAll fastTurns {})).cursor := by
    rw [id_eq, id_eq, hcursor, hcursor']
  have htold : (runAll slowTurns {}).accepted.map (fun q => (q.1, q.2.length))
      = [(0, 1), (1, 1), (2, 3)] := by decide +kernel
  obtain ⟨hagree, -⟩ := runs_agree hslow hfast rfl rfl hend
  rw [id_eq, id_eq] at hagree
  exact ⟨hagree, htold, hcursor, hcursor'⟩

end Manager.Turn

end ChainIndexer
