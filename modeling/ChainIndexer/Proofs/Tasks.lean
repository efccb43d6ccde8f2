import ChainIndexer.Config.Basic
import ChainIndexer.Proofs.Fetching
import ChainIndexer.Sim.Script

/-!
# What crashes

* `Fetcher.task_eq`: with permits that can be counted, the task that fetches a height is the fetch.
* `Fetcher.task_crashed_iff`: with more than that it crashes where it comes to look up a transaction,
  and is the fetch anywhere else (`Fetcher.task_done`).
* `SyncConfig.crashes_of_valid`: what this means for settings that were accepted. `accepted_crashes`
  has settings that are accepted and crash the poller or a fetch.
-/

namespace ChainIndexer

theorem Timer.every?_eq_none_iff {ms : Nat} : Timer.every? ms = none ↔ ms = 0 := by
  unfold every?
  split
  · exact iff_of_false (fun h => by cases h) (by omega)
  · exact iff_of_true rfl (by omega)

/-! ## Fetching with permits -/

namespace Fetcher

section Lift

variable {m : Type → Type} [Monad m] [LawfulMonad m] {source : Source m} {permits : Nat}

theorem fetchGenesis_guarded (f : Fetcher) :
    f.fetchGenesis (source.guarded permits) = OptionT.lift (f.fetchGenesis source) := by
  unfold fetchGenesis
  rw [OptionT.lift_bind]
  refine bind_congr fun answer => ?_
  split
  · rw [OptionT.lift_pure]
  · rw [OptionT.lift_pure]

theorem fetchTxs_guarded (h : permits ≤ mostPermits) (block : Block) :
    fetchTxs (source.guarded permits) block = OptionT.lift (fetchTxs source block) := by
  have htxs : (source.guarded permits).txs block.txHashes
      = OptionT.lift (source.txs block.txHashes) := if_pos h
  unfold fetchTxs
  dsimp only
  split
  · rw [OptionT.lift_pure]
  · rw [OptionT.lift_bind, htxs]
    refine bind_congr fun finished => ?_
    split
    · rw [OptionT.lift_pure]
    · rw [OptionT.lift_bind]
      refine bind_congr fun _ => ?_
      rw [OptionT.lift_pure]

theorem fetchBlock_guarded (f : Fetcher) (h : permits ≤ mostPermits) (height : Height) :
    f.fetchBlock (source.guarded permits) height = OptionT.lift (f.fetchBlock source height) := by
  unfold fetchBlock
  rw [OptionT.lift_bind]
  refine bind_congr fun answer => ?_
  split
  · rw [OptionT.lift_pure]
  · split
    · rw [OptionT.lift_pure]
    · rw [OptionT.lift_bind]
      refine bind_congr fun results => ?_
      split
      · rw [OptionT.lift_pure]
      · rw [OptionT.lift_bind, fetchTxs_guarded h]
        refine bind_congr fun txs => ?_
        split
        · rw [OptionT.lift_pure]
        · rw [OptionT.lift_pure]

/-- With permits that can be counted, the task that fetches a height is the fetch. -/
theorem task_eq (f : Fetcher) (h : permits ≤ mostPermits) (height : Height) :
    f.task source permits height = Outcome.done <$> f.fetch source height := by
  have hfetch : f.fetch (source.guarded permits) height = OptionT.lift (f.fetch source height) := by
    unfold fetch
    split
    · exact fetchGenesis_guarded f
    · exact fetchBlock_guarded f h height
  rw [task, hfetch, OptionT.run_lift, bind_assoc, map_eq_pure_bind]
  refine bind_congr fun result => ?_
  rw [pure_bind]

end Lift

end Fetcher

/-! ## Crashes -/

variable {τ : Type}

/-- Fetching the height comes to lookups: the chain gives a block of that height, with transactions,
and its results. -/
def Source.LooksUp (source : Source (StateM τ)) (height : Height) (s : τ) : Prop :=
  height ≠ 0 ∧ ∃ block results, (source.block height s).1 = .ok block ∧ block.height = height ∧
    (source.results height (source.block height s).2).1 = .ok results ∧ block.txHashes ≠ []

namespace Fetcher

variable {source : Source (StateM τ)} {permits : Nat} {height : Height} {s : τ}

theorem lift_bind_run {α β : Type} (x : StateM τ α) (k : α → OptionT (StateM τ) β) (s : τ) :
    (OptionT.lift x >>= k).run s = (k (x s).1).run (x s).2 := rfl

theorem bind_run_eq_none {α β : Type} {x : OptionT (StateM τ) α} {k : α → OptionT (StateM τ) β}
    (hk : ∀ a t, ((k a).run t).1 ≠ none) (s : τ) :
    ((x >>= k).run s).1 = none ↔ (x.run s).1 = none := by
  have hrun : (x >>= k).run s = Option.elimM x.run (pure none) (fun a => (k a).run) s := by
    rw [OptionT.run_bind]
  have hbind : Option.elimM x.run (pure none) (fun a => (k a).run) s
      = ((x.run s).1.elim (pure none) fun a => (k a).run) (x.run s).2 := rfl
  rw [hrun, hbind]
  cases (x.run s).1 with
  | none => exact iff_of_true rfl rfl
  | some a => exact iff_of_false (hk a (x.run s).2) fun hnone => by cases hnone

theorem fetchTxs_crash (h : mostPermits < permits) (block : Block) (s : τ) :
    ((fetchTxs (source.guarded permits) block).run s).1 = none ↔ block.txHashes ≠ [] := by
  have htxs : (source.guarded permits).txs block.txHashes = OptionT.fail :=
    if_neg (Nat.not_le.2 h)
  unfold fetchTxs
  dsimp only
  split
  · rename_i hempty
    refine iff_of_false (fun he => by cases he) fun hne => hne (List.isEmpty_iff.1 hempty)
  · rename_i hne
    rw [htxs]
    exact iff_of_true rfl fun he => hne (List.isEmpty_iff.2 he)

theorem fetchBlock_crash (f : Fetcher) (h : mostPermits < permits) (hpos : height ≠ 0) :
    ((f.fetchBlock (source.guarded permits) height).run s).1 = none ↔ source.LooksUp height s := by
  have hblock : (source.guarded permits).block height = .lift (source.block height) := rfl
  have hresults : (source.guarded permits).results height = .lift (source.results height) := rfl
  unfold fetchBlock Source.LooksUp
  -- an answer that ends the fetch before the lookups is a result, so neither side holds
  rw [hblock, lift_bind_run]
  rcases source.block height s with ⟨e | block, t⟩
  · refine iff_of_false (fun hnone => by cases hnone) ?_
    rintro ⟨-, block, results, hb, -⟩
    cases hb
  dsimp only
  split
  · rename_i hother
    refine iff_of_false (fun hnone => by cases hnone) ?_
    rintro ⟨-, block', results, hb, hheight, -⟩
    obtain rfl := Except.ok.inj hb
    exact hother hheight
  rename_i hheight
  rw [hresults, lift_bind_run]
  rcases source.results height t with ⟨e | results, u⟩
  · refine iff_of_false (fun hnone => by cases hnone) ?_
    rintro ⟨-, block', results, -, -, hr, -⟩
    cases hr
  refine (bind_run_eq_none ?_ u).trans ((fetchTxs_crash h block u).trans ?_)
  · rintro (e | txs) t hnone
    · cases hnone
    · cases hnone
  constructor
  · intro hne
    exact ⟨hpos, block, results, rfl, not_not.1 hheight, rfl, hne⟩
  · rintro ⟨-, block', results', hb, -, -, hne⟩
    obtain rfl := Except.ok.inj hb
    exact hne

theorem fetchTxs_unguarded {block : Block} (h : block.txHashes = []) :
    fetchTxs (source.guarded permits) block = OptionT.lift (fetchTxs source block) := by
  unfold fetchTxs
  dsimp only
  rw [h]
  rfl

theorem fetchBlock_unguarded (f : Fetcher) (hpos : height ≠ 0) (h : ¬source.LooksUp height s) :
    ((f.fetchBlock (source.guarded permits) height).run s).1
      = some (f.fetchBlock source height s).1 := by
  have hblock : (source.guarded permits).block height = .lift (source.block height) := rfl
  have hresults : (source.guarded permits).results height = .lift (source.results height) := rfl
  unfold fetchBlock
  rw [hblock, lift_bind_run, bind_run]
  rcases hb : source.block height s with ⟨e | block, t⟩
  · rfl
  dsimp only
  split
  · rfl
  rename_i hheight
  rw [hresults, lift_bind_run, bind_run]
  rcases hr : source.results height t with ⟨e | results, u⟩
  · rfl
  have hnone : block.txHashes = [] := by
    by_contra hne
    exact h ⟨hpos, block, results, by rw [hb], not_not.1 hheight, by rw [hb, hr], hne⟩
  dsimp only
  rw [fetchTxs_unguarded hnone, lift_bind_run, bind_run]
  cases (fetchTxs source block u).1 with
  | error e => rfl
  | ok txs => rfl

/-- With more permits than can be counted, the task crashes where it comes to a lookup. -/
theorem task_crashed_iff (f : Fetcher) (source : Source (StateM τ)) (permits : Nat)
    (height : Height) (s : τ) :
    (f.task source permits height s).1 = .crashed ↔
      mostPermits < permits ∧ source.LooksUp height s := by
  rcases Nat.lt_or_ge mostPermits permits with h | h
  · have htask : (f.task source permits height s).1 = .crashed ↔
        ((f.fetch (source.guarded permits) height).run s).1 = none := by
      rw [task, bind_run]
      cases ((f.fetch (source.guarded permits) height).run s).1 with
      | none => exact iff_of_true rfl rfl
      | some result =>
        exact iff_of_false (fun hcrash => by cases hcrash) fun hnone => by cases hnone
    rw [htask, and_iff_right h, fetch]
    split
    · rename_i hzero
      rw [fetchGenesis_guarded]
      exact iff_of_false (fun hnone => by cases hnone) fun hl => hl.1 hzero
    · rename_i hpos
      exact fetchBlock_crash f h hpos
  · -- the task is the fetch, which has a result whatever the chain answers
    rw [task_eq f h]
    exact iff_of_false (fun hcrash => by cases hcrash) fun hl => absurd hl.1 (Nat.not_lt.2 h)

theorem task_done (f : Fetcher) (h : ¬(mostPermits < permits ∧ source.LooksUp height s)) :
    (f.task source permits height s).1 = .done (f.fetch source height s).1 := by
  rcases Nat.lt_or_ge mostPermits permits with hmost | hmost
  · have hrun : ((f.fetch (source.guarded permits) height).run s).1
        = some (f.fetch source height s).1 := by
      unfold fetch
      split
      · rw [fetchGenesis_guarded]
        rfl
      · rename_i hpos
        exact fetchBlock_unguarded f hpos fun hl => h ⟨hmost, hl⟩
    rw [task, bind_run, hrun]
    rfl
  · rw [task_eq f hmost]
    rfl

end Fetcher

/-! ## Accepted settings -/

namespace SyncConfig

variable {c : SyncConfig}

theorem validate_eq_ok_iff :
    c.validate = .ok () ↔ isBlankText c.chainRpcUrl = false ∧ isBlankText c.appRpcUrl = false ∧
      c.windowSize ≠ 0 ∧ c.txConcurrency ≠ 0 ∧ c.accountPrefixText.isEmpty = false ∧
      c.initialRetryIntervalMs ≤ c.maxRetryIntervalMs ∧ ∃ target, c.target = .ok target := by
  unfold validate
  dsimp only
  refine refuse_eq_ok_iff.trans (and_congr Bool.eq_false_iff.symm ?_)
  refine refuse_eq_ok_iff.trans (and_congr Bool.eq_false_iff.symm ?_)
  refine refuse_eq_ok_iff.trans (and_congr Iff.rfl ?_)
  refine refuse_eq_ok_iff.trans (and_congr Iff.rfl ?_)
  refine refuse_eq_ok_iff.trans (and_congr Bool.eq_false_iff.symm ?_)
  refine refuse_eq_ok_iff.trans (and_congr UInt64.not_lt ?_)
  rw [bind_eq_ok_iff]
  exact exists_congr fun target => and_iff_left rfl

/-- **What accepted settings may crash.** The poller has no timer where the polling interval is
zero, and a fetch crashes where it comes to a lookup with more permits than can be counted.
Acceptance depends on the interval in no way, and on the number of lookups only in that it is not
zero. The windows are as wide as the settings say, and not empty. -/
theorem crashes_of_valid (hv : c.validate = .ok ()) :
    (∀ interval lookups, lookups ≠ 0 →
      { c with pollingIntervalMs := interval, txConcurrency := lookups }.validate = .ok ()) ∧
    (c.timer? = none ↔ c.pollingIntervalMs = 0) ∧
    (∀ {τ : Type} (f : Fetcher) (source : Source (StateM τ)) (height : Height) (s : τ),
      (f.task source c.permits height s).1 = .crashed ↔
        mostPermits < c.txConcurrency.toNat ∧ source.LooksUp height s) ∧
    c.managerConfig.window.size = c.windowSize ∧ 1 ≤ c.windowSize := by
  obtain ⟨hchain, happ, hwindow, hlookups, haccount, hretry, target, htarget⟩ :=
    validate_eq_ok_iff.1 hv
  have hpermits : c.permits = c.txConcurrency.toNat := by
    have hne : c.txConcurrency.toNat ≠ 0 := fun h => hlookups (UInt64.toNat_inj.1 h)
    rw [permits]
    omega
  have hpos : 0 < c.windowSize := UInt64.pos_iff_ne_zero.2 hwindow
  refine ⟨?_, ?_, ?_, ?_, ?_⟩
  · intro interval lookups hne
    exact validate_eq_ok_iff.2 ⟨hchain, happ, hwindow, hne, haccount, hretry, target, htarget⟩
  · rw [timer?, Timer.every?_eq_none_iff]
    exact UInt64.toNat_inj (b := 0)
  · intro τ f source height s
    rw [hpermits]
    exact f.task_crashed_iff source _ height s
  · rw [managerConfig, Window.ofSize, dif_pos hpos]
  · exact UInt64.le_iff_toNat_le.2 (UInt64.lt_iff_toNat_lt.1 hpos)

/-- A chain with a transaction in its first block. -/
def oneTx : Sim.Script where
  genesis := Sim.Script.emptyGenesis
  blocks := [(1, Sim.Script.plainBlock 1 [⟨[1]⟩])]

theorem crashes_of_default :
    ({} : SyncConfig).validate = .ok () ∧ ({} : SyncConfig).timer? ≠ none ∧
      (Fetcher.task {} (oneTx.source 10 0) 10 1 {}).1 ≠ .crashed := by
  have hv : ({} : SyncConfig).validate = .ok () := by decide +kernel
  obtain ⟨-, htimer, hfetch, -⟩ := crashes_of_valid hv
  refine ⟨hv, fun h => absurd (htimer.1 h) (by decide), fun h => ?_⟩
  exact absurd ((hfetch {} (oneTx.source 10 0) 1 {}).1 h).1 (by decide)

/-- Settings with no polling interval. -/
def restless : SyncConfig := { pollingIntervalMs := 0 }

/-- Settings with more lookups at the same time than there can be. -/
def crowded : SyncConfig := { txConcurrency := 0x2000000000000000 }

theorem accepted_crashes :
    restless.validate = .ok () ∧ restless.timer? = none ∧ crowded.validate = .ok () ∧
      (Fetcher.task {} (oneTx.source crowded.permits 0) crowded.permits 1 {}).1 = .crashed := by
  have hpermits : mostPermits < crowded.permits := by decide
  have hlooks : (oneTx.source crowded.permits 0).LooksUp 1 {} :=
    ⟨by decide, Sim.Script.plainBlock 1 [⟨[1]⟩], Sim.Script.emptyResults 1, rfl, rfl, rfl,
      List.cons_ne_nil _ _⟩
  have hcrash := Fetcher.task_crashed_iff {} (oneTx.source crowded.permits 0) crowded.permits 1 {}
  exact ⟨by decide +kernel, rfl, by decide +kernel, hcrash.2 ⟨hpermits, hlooks⟩⟩

end SyncConfig

end ChainIndexer
