import ChainIndexer.Proofs.Failure
import ChainIndexer.Proofs.Ranges
import ChainIndexer.Proofs.StateMachine

/-!
# How a range is cut

A range is cut in two places: into the batches that a window fetches together, and into the windows
that an attempt walks. The two cuts agree, so that each window of an attempt is a single batch.

* `mem_batches`: a batch is known by its first height. From this come its size and the place of
  genesis in a batch of its own; `length_of_mem_dropLast` says that no batch but the last is short.
* `walk_fetched`: a walk fetches the windows of its range in order, all of them where it succeeds.
* `windows_eq_batches`: from the starting height on, these windows are the batches of the range.
-/

namespace ChainIndexer

namespace Height

theorem eq_zero_of_le {h : Height} (hle : h ≤ 0) : h = 0 := le_antisymm hle (zero_le h)

end Height

/-! ## Batches -/

namespace Window

variable {w : Window} {first stop : Height} {b : Height × Height}

theorem toNat_ofSize (n : UInt64) : (ofSize n).size.toNat = max 1 n.toNat := by
  unfold ofSize
  split
  · rename_i hpos
    have h1 := Height.lt_iff.1 hpos
    change n.toNat = _
    simp only [UInt64.reduceToNat] at h1
    omega
  · rename_i hpos
    rw [Height.lt_iff] at hpos
    change 1 = _
    simp only [UInt64.reduceToNat] at hpos
    omega

theorem toNat_size_pos (w : Window) : 0 < w.size.toNat := Height.lt_iff.1 w.pos

theorem toNat_lastOf (w : Window) (h0 : first ≠ 0) :
    (w.lastOf first stop).toNat = min (first.toNat + (w.size.toNat - 1)) stop.toNat := by
  have hsize : (w.size - 1).toNat = w.size.toNat - 1 := by
    have hpos := w.toNat_size_pos
    have hle : (1 : UInt64) ≤ w.size := UInt64.le_iff_toNat_le.2 hpos
    rw [UInt64.toNat_sub_of_le _ _ hle]
    rfl
  have hstop := stop.toNat_lt
  have hplus : (first.plus (w.size - 1)).toNat
      = min (first.toNat + (w.size.toNat - 1)) 0xFFFFFFFFFFFFFFFF := by
    unfold Height.plus
    rw [hsize]
    split
    · rw [UInt64.toNat_add, hsize, Nat.mod_eq_of_lt (by omega)]
      omega
    · rw [Height.toNat_max]
      omega
  unfold lastOf
  rw [if_neg h0]
  by_cases hle : first.plus (w.size - 1) ≤ stop
  · have hmin : min (first.plus (w.size - 1)) stop = first.plus (w.size - 1) := if_pos hle
    rw [Height.le_iff] at hle
    rw [hmin, hplus]
    omega
  · have hmin : min (first.plus (w.size - 1)) stop = stop := if_neg hle
    rw [Height.le_iff] at hle
    rw [hmin]
    omega

theorem batches_cons (h : first ≤ stop) : w.batches first stop =
    (first, w.lastOf first stop) ::
      (w.lastOf first stop).next?.elim [] fun next => w.batches next stop := by
  rw [batches, dif_pos h]
  congr 1
  split
  · rename_i next hnext
    rw [hnext, Option.elim_some]
  · rename_i hnext
    rw [hnext, Option.elim_none]

theorem batches_of_lt (h : stop < first) : w.batches first stop = [] := by
  rw [batches, dif_neg (Height.not_le_of_lt h)]

theorem mem_batches (hb : b ∈ w.batches first stop) :
    first ≤ b.1 ∧ b.1 ≤ stop ∧ b.2 = w.lastOf b.1 stop := by
  induction first using Window.batches.induct w stop with
  | case1 first h ih =>
    rw [batches_cons h] at hb
    rcases List.mem_cons.1 hb with rfl | hb
    · exact ⟨Height.le_refl _, h, rfl⟩
    · cases hnext : (w.lastOf first stop).next? with
      | none =>
        rw [hnext] at hb
        cases hb
      | some next =>
        rw [hnext] at hb
        obtain ⟨hle, hrest⟩ := ih next hnext hb
        have h1 := w.le_lastOf h
        have h2 := Height.toNat_of_next? hnext
        exact ⟨Height.le_trans (Height.le_iff.2 (by omega)) hle, hrest⟩
  | case2 first h =>
    rw [batches_of_lt (UInt64.not_le.1 h)] at hb
    cases hb

theorem eq_genesis_of_mem (hb : b ∈ w.batches first stop) (h0 : 0 ∈ Batch.heights b) :
    b = (0, 0) := by
  obtain ⟨-, -, hlast⟩ := mem_batches hb
  have hfirst := Height.eq_zero_of_le (Height.mem_range.1 h0).1
  rw [hfirst, lastOf, if_pos rfl] at hlast
  exact Prod.ext hfirst hlast

theorem length_le_of_mem (hb : b ∈ w.batches first stop) :
    (Batch.heights b).length ≤ w.size.toNat := by
  obtain ⟨-, -, hlast⟩ := mem_batches hb
  have hpos := w.toNat_size_pos
  rw [Batch.heights, Height.length_range, hlast]
  by_cases h0 : b.1 = 0
  · rw [lastOf, if_pos h0, h0]
    simp only [UInt64.reduceToNat]
    omega
  · rw [w.toNat_lastOf h0]
    omega

/-- A batch that another one follows is full, and genesis is the only one of another size. -/
theorem length_of_mem_dropLast (hb : b ∈ (w.batches first stop).dropLast) (h0 : b.1 ≠ 0) :
    (Batch.heights b).length = w.size.toNat := by
  induction first using Window.batches.induct w stop with
  | case1 first h ih =>
    rw [batches_cons h] at hb
    cases hnext : (w.lastOf first stop).next? with
    | none =>
      rw [hnext] at hb
      cases hb
    | some next =>
      rw [hnext, Option.elim_some] at hb
      by_cases hle : next ≤ stop
      · have hrest : w.batches next stop ≠ [] := by
          rw [batches_cons hle]
          exact List.cons_ne_nil _ _
        rw [List.dropLast_cons_of_ne_nil hrest] at hb
        rcases List.mem_cons.1 hb with rfl | hb
        · -- the range goes on after this batch, so that it was the size that ended it
          have h1 := Height.le_iff.1 hle
          have h2 := Height.toNat_of_next? hnext
          have h3 := w.toNat_size_pos
          rw [w.toNat_lastOf h0] at h2
          rw [Batch.heights, Height.length_range, w.toNat_lastOf h0]
          omega
        · exact ih next hnext hb
      · rw [batches_of_lt (UInt64.not_le.1 hle)] at hb
        cases hb
  | case2 first h =>
    rw [batches_of_lt (UInt64.not_le.1 h)] at hb
    cases hb

end Window

/-! ## Windows -/

variable {σ : Type}

/-- The batch that is fetched, by its first and last height. -/
def Deed.fetched? : Deed → Option (Height × Height)
  | fetch first last => some (first, last)
  | _ => none

/-- The batches that were fetched, the oldest first. -/
def fetched (journal : List (Entry σ)) : List (Height × Height) :=
  (journal.filterMap fun e => e.deed.fetched?).reverse

theorem fetched_fetch (status : Status) (state : σ) (first last : Height)
    (journal : List (Entry σ)) :
    fetched (⟨status, state, .fetch first last⟩ :: journal) = fetched journal ++ [(first, last)] := by
  simp [fetched, Deed.fetched?]

theorem fetched_other (e : Entry σ) (journal : List (Entry σ)) (h : e.deed.fetched? = none) :
    fetched (e :: journal) = fetched journal := by
  simp [fetched, h]

namespace Manager

variable {env : Surroundings σ} {config : ManagerConfig} {first stop : Height}

theorem windows_cons (h : first ≤ stop) : windows config first stop =
    (first, config.window.lastOf first stop) ::
      (resumeHeight (some (config.window.lastOf first stop)) config.starting).elim []
        fun next => windows config next stop := by
  rw [windows, dif_pos h]
  congr 1
  split
  · rename_i next hnext
    rw [hnext, Option.elim_some]
  · rename_i hnext
    rw [hnext, Option.elim_none]

theorem windows_of_lt (h : stop < first) : windows config first stop = [] := by
  rw [windows, dif_neg (Height.not_le_of_lt h)]

theorem mem_windows {b : Height × Height} (hb : b ∈ windows config first stop) :
    b.1 ≤ stop ∧ b.2 = config.window.lastOf b.1 stop := by
  induction first using windows.induct config stop with
  | case1 first h ih =>
    rw [windows_cons h] at hb
    rcases List.mem_cons.1 hb with rfl | hb
    · exact ⟨h, rfl⟩
    · cases hnext : resumeHeight (some (config.window.lastOf first stop)) config.starting with
      | none =>
        rw [hnext] at hb
        cases hb
      | some next =>
        rw [hnext] at hb
        exact ih next hnext hb
  | case2 first h =>
    rw [windows_of_lt (UInt64.not_le.1 h)] at hb
    cases hb

theorem batches_of_mem_windows {b : Height × Height} (hb : b ∈ windows config first stop) :
    config.window.batches b.1 b.2 = [b] := by
  obtain ⟨hle, hlast⟩ := mem_windows hb
  rw [hlast, config.window.batches_lastOf hle, ← hlast]

/-- After a height that is not below the starting height the next one is just that. -/
theorem resumeHeight_of_le {c starting : Height} (h : starting ≤ c) :
    resumeHeight (some c) starting = c.next? := by
  rw [resumeHeight]
  cases hn : c.next? with
  | none => rfl
  | some next =>
    have h1 := Height.toNat_of_next? hn
    have h2 := Height.le_iff.1 h
    rw [Option.map_some, Height.sup_of_le (Height.le_iff.2 (by omega))]

theorem windows_eq_batches (config : ManagerConfig) (stop : Height)
    (hstart : config.starting ≤ first) :
    windows config first stop = config.window.batches first stop := by
  induction first using windows.induct config stop with
  | case1 first h ih =>
    have hlast := Height.le_iff.2 (config.window.le_lastOf h)
    have hresume := resumeHeight_of_le (Height.le_trans hstart hlast)
    rw [windows_cons h, Window.batches_cons h, hresume]
    cases hnext : (config.window.lastOf first stop).next? with
    | none => rfl
    | some next =>
      have h1 := Height.toNat_of_next? hnext
      have h2 := Height.le_iff.1 (Height.le_trans hstart hlast)
      have hnextle : config.starting ≤ next := Height.le_iff.2 (by omega)
      rw [Option.elim_some, Option.elim_some, ih next (hresume.trans hnext) hnextle]
  | case2 first h =>
    rw [windows_of_lt (UInt64.not_le.1 h), Window.batches_of_lt (UInt64.not_le.1 h)]

theorem windows_zero (config : ManagerConfig) (stop : Height) :
    windows config 0 stop = (0, 0) :: config.window.batches (max 1 config.starting) stop := by
  have hlast : config.window.lastOf 0 stop = 0 := if_pos rfl
  have hresume : resumeHeight (some 0) config.starting = some (max 1 config.starting) := rfl
  have hstart : config.starting ≤ max 1 config.starting := by
    rw [Height.le_iff, Height.toNat_sup]
    omega
  rw [windows_cons (Height.zero_le stop), hlast, hresume, Option.elim_some,
    windows_eq_batches config stop hstart]

/-! ## What a walk fetches -/

theorem commit_fetched (env : Surroundings σ) (height : Height) (commands : List Command)
    (status : Status) (j : Journaled σ) :
    fetched (commit env.journaled height commands (status, j)).2.2.journal = fetched j.journal := by
  unfold commit
  cases Command.executeAll height commands with
  | error e => rfl
  | ok events =>
    simp only [Act.bind_run, Act.demand, Surroundings.journaled]
    rcases (env.handle status height events j.rest).1 with _ | e | ⟨⟩ <;>
      exact fetched_other _ _ rfl

theorem commitAll_fetched (env : Surroundings σ)
    (heights : List (Height × List Command)) (last : Option Height)
    (status : Status) (j : Journaled σ) :
    fetched (commitAll env.journaled heights last (status, j)).2.2.journal = fetched j.journal := by
  induction heights generalizing last status j with
  | nil => rfl
  | cons p heights ih =>
    have hcommit := commit_fetched env p.1 p.2 status j
    rw [commitAll, Act.bind_run]
    rcases hc : commit env.journaled p.1 p.2 (status, j) with ⟨e | u, status', j'⟩
    · rw [hc] at hcommit
      exact hcommit
    · rw [hc] at hcommit
      exact (ih _ status' j').trans hcommit

theorem window_fetched (env : Surroundings σ) (first last : Height) (committed : Option Height)
    (status : Status) (j : Journaled σ) :
    fetched (window env.journaled first last committed (status, j)).2.2.journal
      = fetched j.journal ++ [(first, last)] := by
  have hnote : ∀ rest, fetched (j.note status (.fetch first last) rest).journal
      = fetched j.journal ++ [(first, last)] := fun _ => fetched_fetch _ _ _ _ _
  simp only [window, Act.bind_run, fetch, Surroundings.journaled]
  rcases (env.fetch status first last j.rest).1 with ⟨txs, _ | finished⟩
  · exact hnote _
  · dsimp only
    cases Batch.settle first last finished with
    | error e => exact hnote _
    | ok heights => exact (commitAll_fetched env heights committed _ _).trans (hnote _)

theorem walk_fetched (env : Surroundings σ) (config : ManagerConfig) (first stop : Height)
    (committed : Option Height) (status : Status) (j : Journaled σ) :
    let after := walk env.journaled config first stop committed (status, j)
    ∃ done, fetched after.2.2.journal = fetched j.journal ++ done ∧
      done <+: windows config first stop ∧
      ∀ last, after.1 = .ok last → done = windows config first stop := by
  induction first using windows.induct config stop generalizing committed status j with
  | case1 first h ih =>
    have hwindow := window_fetched env first (config.window.lastOf first stop) committed
      status j
    rw [walk_eq env.journaled config h, windows_cons h]
    rcases hw : window env.journaled first (config.window.lastOf first stop) committed (status, j)
      with ⟨e | committed', status', j'⟩
    · rw [hw] at hwindow
      refine ⟨_, hwindow, ?_, fun last hlast => by cases hlast⟩
      exact List.cons_prefix_cons.2 ⟨rfl, List.nil_prefix⟩
    · rw [hw] at hwindow
      dsimp only at hwindow ⊢
      cases hnext : resumeHeight (some (config.window.lastOf first stop)) config.starting with
      | none => exact ⟨_, hwindow, List.prefix_refl _, fun _ _ => rfl⟩
      | some next =>
        obtain ⟨done, hdone, hstarts, hall⟩ := ih next hnext committed' status' j'
        refine ⟨(first, config.window.lastOf first stop) :: done, ?_,
          List.cons_prefix_cons.2 ⟨rfl, hstarts⟩, fun last hlast => ?_⟩
        · rw [hdone, hwindow, List.append_assoc, List.singleton_append]
        · rw [hall last hlast, Option.elim_some]
  | case2 first h =>
    rw [walk, dif_neg h, windows_of_lt (UInt64.not_le.1 h)]
    exact ⟨[], (List.append_nil _).symm, List.prefix_refl _, fun _ _ => rfl⟩

theorem walk_journaled (env : Surroundings σ) (config : ManagerConfig) (first stop : Height)
    (committed : Option Height) (status : Status) (j : Journaled σ) :
    (walk env.journaled config first stop committed (status, j)).1
      = (walk env config first stop committed (status, j.rest)).1 := by
  obtain ⟨r, status', j', s', hj, hs, -⟩ :=
    walk_simulates (journaled_annotates env).simulates config first stop committed status j j.rest
      rfl
  rw [hj, hs]

/-- **A range is cut in one way.** The batches of a range hold its heights, in order and each of
them once. Genesis is a batch of its own; no batch is larger than the window, and none is smaller
but genesis and the last. The windows that a walk fetches, all of them where nothing fails, are
single batches, and from the starting height on they are the batches of the range; from genesis on
they are genesis and the batches from the starting height. -/
theorem windows_partition (env : Surroundings σ) (config : ManagerConfig) (n : UInt64)
    (hw : config.window = .ofSize n) (first stop : Height) (committed : Option Height)
    (status : Status) (s : σ) :
    let w := Window.ofSize n
    let bs := w.batches first stop
    let ws := windows config first stop
    let after := walk env.journaled config first stop committed (status, ⟨s, []⟩)
    (w.size.toNat = max 1 n.toNat ∧
      (bs.flatMap Batch.heights).map UInt64.toNat
        = List.range' first.toNat (stop.toNat + 1 - first.toNat) ∧
      (∀ b ∈ bs, b.1 ≤ b.2 ∧ (0 ∈ Batch.heights b → b = (0, 0)) ∧
        (Batch.heights b).length ≤ w.size.toNat) ∧
      (∀ b ∈ bs.dropLast, b ≠ (0, 0) → (Batch.heights b).length = w.size.toNat) ∧
      (stop < first → bs = [])) ∧
    after.1 = (walk env config first stop committed (status, s)).1 ∧
    fetched after.2.2.journal <+: ws ∧
    (∀ last, after.1 = .ok last → fetched after.2.2.journal = ws) ∧
    (∀ b ∈ ws, w.batches b.1 b.2 = [b]) ∧
    (config.starting ≤ first → ws = bs) ∧
    (first = 0 → ws = (0, 0) :: w.batches (max 1 config.starting) stop) := by
  intro w bs ws after
  have hheights : bs.flatMap Batch.heights = Height.range first stop := w.batches_flatMap first stop
  obtain ⟨done, hdone, hstarts, hall⟩ := walk_fetched env config first stop committed status ⟨s, []⟩
  have hlog : fetched after.2.2.journal = done := hdone
  refine ⟨⟨Window.toNat_ofSize n, ?_, fun b hb => ⟨Window.le_of_mem_batches hb,
    Window.eq_genesis_of_mem hb, Window.length_le_of_mem hb⟩, fun b hb hne => ?_,
    Window.batches_of_lt⟩, walk_journaled env config first stop committed status ⟨s, []⟩, ?_,
    fun last hlast => ?_, fun b hb => ?_, fun hstart => ?_, ?_⟩
  · rw [hheights, Height.map_toNat_range]
  · refine Window.length_of_mem_dropLast hb fun h0 => hne ?_
    have hmem := List.dropLast_subset _ hb
    have hle := Window.le_of_mem_batches hmem
    have h0mem : 0 ∈ Batch.heights b := by
      rw [Batch.heights, h0, Height.mem_range]
      exact ⟨Height.le_refl 0, h0 ▸ hle⟩
    exact Window.eq_genesis_of_mem hmem h0mem
  · rw [hlog]
    exact hstarts
  · rw [hlog]
    exact hall last hlast
  · have hsingle := batches_of_mem_windows hb
    rwa [hw] at hsingle
  · have heq := windows_eq_batches config stop hstart
    rwa [hw] at heq
  · rintro rfl
    have heq := windows_zero config stop
    rwa [hw] at heq

/-- Walks by windows of three heights up to height 107, where the starting height is 100. -/
def walkTo107 (first : Height) : Except Halt (Option Height) × Status × Journaled History :=
  walk (History.surroundings 107 (fun _ => .ok []) fun _ => none).journaled
    { starting := 100, window := .ofSize 3 } first 107 none ({}, ⟨{}, []⟩)

theorem walkTo107_partition :
    (walkTo107 0).1 = .ok (some 107) ∧
      fetched (walkTo107 0).2.2.journal = (0, 0) :: (Window.ofSize 3).batches 100 107 ∧
      (walkTo107 100).1 = .ok (some 107) ∧
      fetched (walkTo107 100).2.2.journal = (Window.ofSize 3).batches 100 107 ∧
      (Window.ofSize 3).batches 100 107 = [(100, 102), (103, 105), (106, 107)] := by
  have hfresh : (walkTo107 0).1 = .ok (some 107) := by decide +kernel
  have hresumed : (walkTo107 100).1 = .ok (some 107) := by decide +kernel
  obtain ⟨-, -, -, hall, -, -, hzero⟩ := windows_partition
    (History.surroundings 107 (fun _ => .ok []) fun _ => none)
    { starting := 100, window := .ofSize 3 } 3 rfl 0 107 none {} {}
  obtain ⟨-, -, -, hall', -, hsame, -⟩ := windows_partition
    (History.surroundings 107 (fun _ => .ok []) fun _ => none)
    { starting := 100, window := .ofSize 3 } 3 rfl 100 107 none {} {}
  exact ⟨hfresh, (hall _ hfresh).trans (hzero rfl), hresumed,
    (hall' _ hresumed).trans (hsame (Height.le_refl 100)), by decide +kernel⟩

end Manager

end ChainIndexer
