import ChainIndexer.Proofs.Batches

/-!
# Fetching a range

What comes of a range is a matter of the outcomes of its heights alone, and not of the order in
which the tasks of a batch are completed.

* `batches_flatMap`: the batches of a range hold its heights, in order and each of them once.
* `Batch.settle_eq`: a batch gives the results of all its heights, or the failure of the lowest of
  them that fails.
* `sync_settles`: a range gives the results of the batches before the first that fails. Every
  height of these and of the failing batch is fetched once, and no other height.
-/

namespace ChainIndexer

namespace Batch

variable {α : Type} {finished : List (Height × Outcome α)} {outcome : Height → Except SyncError α}

/-- The heights of a batch, which is given by the first and the last of them. -/
def heights (b : Height × Height) : List Height := Height.range b.1 b.2

/-- The failure of the lowest height of a batch that fails. -/
def failure? (outcome : Height → Except SyncError α) (b : Height × Height) : Option SyncError :=
  (heights b).findSome? fun h => match outcome h with
    | .ok _ => none
    | .error e => some e

/-- What the heights of a batch give, each with its height. -/
def results (outcome : Height → Except SyncError α) (b : Height × Height) : List (Height × α) :=
  (heights b).filterMap fun h => (outcome h).toOption.map fun a => (h, a)

theorem ok_of_failure?_eq_none {b : Height × Height} (h : failure? outcome b = none) :
    ∀ g ∈ heights b, ∃ a, outcome g = .ok a := by
  intro g hg
  have hnone := List.findSome?_eq_none_iff.1 h g hg
  cases ho : outcome g with
  | ok a => exact ⟨a, rfl⟩
  | error e =>
    rw [ho] at hnone
    cases hnone

/-- The failure of a batch is that of a height before which no height of the batch fails. -/
theorem lowest_of_failure?_eq_some {b : Height × Height} {e : SyncError}
    (h : failure? outcome b = some e) :
    ∃ g ∈ heights b, outcome g = .error e ∧ ∀ g' ∈ heights b, g' < g → ∃ a, outcome g' = .ok a := by
  obtain ⟨before, g, after, hs, hg, hbefore⟩ := List.findSome?_eq_some_iff.1 h
  refine ⟨g, hs ▸ by simp, ?_, fun g' hg' hlt => ?_⟩
  · cases ho : outcome g with
    | ok a =>
      rw [ho] at hg
      cases hg
    | error f =>
      rw [ho] at hg
      rw [Option.some.inj hg]
  · have hpw : (heights b).Pairwise (· < ·) := Height.range_pairwise b.1 b.2
    rw [hs, List.pairwise_append] at hpw
    rw [hs] at hg'
    have hmem : g' ∈ before := by
      rcases List.mem_append.1 hg' with hm | hm
      · exact hm
      · rcases List.mem_cons.1 hm with rfl | hm
        · exact absurd hlt (Height.not_lt.2 (Height.le_refl _))
        · have hgt := (List.pairwise_cons.1 hpw.2.1).1 g' hm
          exact absurd hlt (Height.not_lt.2 (Height.le_of_lt hgt))
    cases ho : outcome g' with
    | ok a => exact ⟨a, rfl⟩
    | error f =>
      have hnone := hbefore g' hmem
      rw [ho] at hnone
      cases hnone

theorem map_fst_results {b : Height × Height} (h : failure? outcome b = none) :
    (results outcome b).map Prod.fst = heights b := by
  have hok := ok_of_failure?_eq_none h
  unfold results
  generalize heights b = hs at hok
  induction hs with
  | nil => rfl
  | cons g hs ih =>
    rw [List.forall_mem_cons] at hok
    obtain ⟨a, ha⟩ := hok.1
    rw [List.filterMap_cons_some (by rw [ha]; rfl), List.map_cons, ih hok.2]

theorem of_mem_results {b : Height × Height} {p : Height × α} (hp : p ∈ results outcome b) :
    outcome p.1 = .ok p.2 := by
  obtain ⟨h, -, hh⟩ := List.mem_filterMap.1 hp
  obtain ⟨a, ha, rfl⟩ := Option.map_eq_some_iff.1 hh
  cases ho : outcome h with
  | ok a' =>
    rw [ho] at ha
    rw [Option.some.inj ha]
  | error e =>
    rw [ho] at ha
    cases ha

/-- A batch gives the results of all its heights or the failure of the lowest that fails, whatever
the order in which they are completed. -/
theorem settle_eq {b : Height × Height} (hc : Completes finished b.1 b.2 outcome) :
    settle b.1 b.2 finished = (failure? outcome b).elim (.ok (results outcome b)) .error := by
  rw [settle_eq_mapM hc]
  change (heights b).mapM _ = _
  unfold failure? results
  generalize heights b = hs
  induction hs with
  | nil => rfl
  | cons h hs ih =>
    rw [List.mapM_cons, ih, List.findSome?_cons, List.filterMap_cons]
    cases outcome h with
    | error e => rfl
    | ok a =>
      simp only [Except.toOption, Option.map_some]
      cases List.findSome? _ hs <;> rfl

end Batch

/-! ## The batches of a range -/

namespace Height

theorem range_append {first last next stop : Height} (h : first ≤ last) (hs : last ≤ stop)
    (hn : last.next? = some next) : range first stop = range first last ++ range next stop := by
  have h1 := le_iff.1 h
  have h2 := le_iff.1 hs
  have h3 := toNat_of_next? hn
  have hnext : next.toNat = first.toNat + (last.toNat + 1 - first.toNat) := by omega
  apply eq_of_map_toNat
  rw [List.map_append, map_toNat_range, map_toNat_range, map_toNat_range, hnext,
    List.range'_append_1]
  congr 1
  omega

theorem eq_max_of_next? {h : Height} (hn : h.next? = none) : h = Height.max := by
  unfold next? at hn
  split at hn
  · assumption
  · cases hn

theorem range_of_lt {first stop : Height} (h : ¬ first ≤ stop) : range first stop = [] := by
  have hlt : stop.toNat < first.toNat := by
    rw [le_iff] at h
    omega
  rw [range, show stop.toNat + 1 - first.toNat = 0 by omega]
  rfl

end Height

namespace Window

variable {τ α : Type} {w : Window} {first stop : Height}

theorem batches_flatMap (w : Window) (first stop : Height) :
    (w.batches first stop).flatMap Batch.heights = Height.range first stop := by
  induction first using Window.batches.induct w stop with
  | case1 first h ih =>
    have hfirst := Height.le_iff.2 (w.le_lastOf h)
    have hlast := w.lastOf_le h
    rw [batches, dif_pos h, List.flatMap_cons]
    split
    · rename_i next hnext
      rw [ih next hnext, Height.range_append hfirst hlast hnext]
      rfl
    · rename_i hnext
      have hmax := Height.eq_max_of_next? hnext
      have hstop : w.lastOf first stop = stop := by
        have h1 := Height.le_iff.1 hlast
        have h2 := Height.le_iff.1 (Height.le_max stop)
        rw [hmax] at h1 ⊢
        exact UInt64.toNat_inj.1 (by omega)
      rw [hstop, List.flatMap_nil, List.append_nil]
      rfl
  | case2 first h => rw [batches, dif_neg h, Height.range_of_lt h, List.flatMap_nil]

theorem le_of_mem_batches {b : Height × Height} (hb : b ∈ w.batches first stop) : b.1 ≤ b.2 := by
  induction first using Window.batches.induct w stop with
  | case1 first h ih =>
    rw [batches, dif_pos h] at hb
    rcases List.mem_cons.1 hb with rfl | hb
    · exact Height.le_iff.2 (w.le_lastOf h)
    · split at hb
      · rename_i next hnext
        exact ih next hnext hb
      · cases hb
  | case2 first h =>
    rw [batches, dif_neg h] at hb
    cases hb

/-! ## Fetching batch after batch -/

/-- What the fetch of a batch owes: each height of the batch has its outcome, in whatever order they
are completed, and is asked for once. -/
structure Fetching (fetch : Height → Height → StateM τ (List (Height × Outcome α)))
    (outcome : Height → Except SyncError α) (asked : τ → List Height) : Prop where
  completes : ∀ first last s, Batch.Completes (fetch first last s).1 first last outcome
  asked : ∀ first last s,
    asked (fetch first last s).2 = asked s ++ (fetch first last s).1.map Prod.fst

/-- Carries out the tasks of a batch, which are completed in the order given. -/
def complete (task : Height → StateM τ (Except SyncError α)) (order : List Height) :
    StateM τ (List (Height × Outcome α)) :=
  order.mapM fun h => do return (h, .done (← task h))

theorem complete_run {task : Height → StateM τ (Except SyncError α)}
    {outcome : Height → Except SyncError α} {asked : τ → List Height}
    (ho : ∀ h s, (task h s).1 = outcome h) (ha : ∀ h s, asked (task h s).2 = asked s ++ [h])
    (order : List Height) (s : τ) :
    (complete task order s).1 = order.map (fun h => (h, .done (outcome h))) ∧
      asked (complete task order s).2 = asked s ++ order := by
  induction order generalizing s with
  | nil => exact ⟨rfl, (List.append_nil _).symm⟩
  | cons h order ih =>
    obtain ⟨h1, h2⟩ := ih (task h s).2
    have hrun : complete task (h :: order) s =
        ((h, .done (task h s).1) :: (complete task order (task h s).2).1,
          (complete task order (task h s).2).2) := by
      rw [complete, List.mapM_cons]
      rfl
    rw [hrun, h1, h2, ho, ha, List.append_assoc]
    exact ⟨rfl, rfl⟩

/-- A batch whose tasks are carried out, each of them once and in whatever order, is fetched. -/
theorem fetching_of_tasks {task : Height → StateM τ (Except SyncError α)}
    {outcome : Height → Except SyncError α} {asked : τ → List Height}
    {order : Height → Height → List Height} (ho : ∀ h s, (task h s).1 = outcome h)
    (ha : ∀ h s, asked (task h s).2 = asked s ++ [h])
    (hp : ∀ first last, (order first last).Perm (Height.range first last)) :
    Fetching (fun first last => complete task (order first last)) outcome asked where
  completes first last s := by
    rw [Batch.Completes, (complete_run ho ha _ s).1]
    exact (hp first last).map _
  asked first last s := by
    obtain ⟨h1, h2⟩ := complete_run ho ha (order first last) s
    rw [h1, h2, List.map_map]
    exact congrArg _ (List.map_id _).symm

/-- The batches that succeed before any that fails. -/
def leading (outcome : Height → Except SyncError α) (bs : List (Height × Height)) :
    List (Height × Height) :=
  bs.takeWhile fun b => (Batch.failure? outcome b).isNone

def failing? (outcome : Height → Except SyncError α) (bs : List (Height × Height)) :
    Option (Height × Height) :=
  bs.find? fun b => (Batch.failure? outcome b).isSome

def resultOf (outcome : Height → Except SyncError α) (bs : List (Height × Height)) :
    RangeResult α where
  heights := (leading outcome bs).flatMap (Batch.results outcome)
  synced := ((leading outcome bs).flatMap Batch.heights).getLast?
  error := (failing? outcome bs).bind (Batch.failure? outcome)

def started (outcome : Height → Except SyncError α) (bs : List (Height × Height)) : List Height :=
  (leading outcome bs ++ (failing? outcome bs).toList).flatMap Batch.heights

variable {fetch : Height → Height → StateM τ (List (Height × Outcome α))}
  {outcome : Height → Except SyncError α} {asked : τ → List Height}

theorem resultOf_cons {b : Height × Height} (bs : List (Height × Height)) (hb : b.1 ≤ b.2)
    (h : Batch.failure? outcome b = none) :
    resultOf outcome (b :: bs) =
      { heights := Batch.results outcome b ++ (resultOf outcome bs).heights
        synced := (resultOf outcome bs).synced.or (some b.2)
        error := (resultOf outcome bs).error } := by
  simp only [resultOf, leading, failing?, h, List.takeWhile_cons, List.find?_cons,
    Option.isNone_none, Option.isSome_none, if_true, List.flatMap_cons, List.getLast?_append,
    Batch.heights, Height.getLast?_range hb]

/-- A batch that fails is the last that is started, and gives nothing but its failure. -/
theorem resultOf_failed {b : Height × Height} (bs : List (Height × Height)) {e : SyncError}
    (h : Batch.failure? outcome b = some e) : resultOf outcome (b :: bs) = { error := some e } := by
  simp [resultOf, leading, failing?, h]

theorem started_cons {b : Height × Height} (bs : List (Height × Height))
    (h : Batch.failure? outcome b = none) :
    started outcome (b :: bs) = Batch.heights b ++ started outcome bs := by
  simp [started, leading, failing?, h]

theorem started_failed {b : Height × Height} (bs : List (Height × Height)) {e : SyncError}
    (h : Batch.failure? outcome b = some e) : started outcome (b :: bs) = Batch.heights b := by
  simp [started, leading, failing?, h]

theorem syncBatches_cons (hf : Fetching fetch outcome asked) {b : Height × Height}
    (bs : List (Height × Height)) (acc : RangeResult α) (s : τ)
    (h : Batch.failure? outcome b = none) :
    syncBatches fetch (b :: bs) acc s =
      syncBatches fetch bs
        { acc with heights := acc.heights ++ Batch.results outcome b, synced := some b.2 }
        (fetch b.1 b.2 s).2 := by
  have hs := Batch.settle_eq (hf.completes b.1 b.2 s)
  rcases hb : fetch b.1 b.2 s with ⟨finished, s'⟩
  rw [h, hb, Option.elim_none] at hs
  simp only [syncBatches, bind, StateT.bind, hb, hs]

theorem syncBatches_failed (hf : Fetching fetch outcome asked) {b : Height × Height}
    (bs : List (Height × Height)) (acc : RangeResult α) (s : τ) {e : SyncError}
    (h : Batch.failure? outcome b = some e) :
    syncBatches fetch (b :: bs) acc s = ({ acc with error := some e }, (fetch b.1 b.2 s).2) := by
  have hs := Batch.settle_eq (hf.completes b.1 b.2 s)
  rcases hb : fetch b.1 b.2 s with ⟨finished, s'⟩
  rw [h, hb, Option.elim_some] at hs
  simp only [syncBatches, bind, StateT.bind, hb, hs]
  rfl

theorem Fetching.asked_perm (hf : Fetching fetch outcome asked) (b : Height × Height) (s : τ) :
    ((fetch b.1 b.2 s).1.map Prod.fst).Perm (Batch.heights b) := by
  have hp := (hf.completes b.1 b.2 s).map Prod.fst
  rw [List.map_map] at hp
  exact hp.trans (.of_eq (List.map_id _))

theorem syncBatches_result (hf : Fetching fetch outcome asked) {bs : List (Height × Height)}
    (hbs : ∀ b ∈ bs, b.1 ≤ b.2) (acc : RangeResult α) (s : τ) :
    (syncBatches fetch bs acc s).1 =
      { heights := acc.heights ++ (resultOf outcome bs).heights
        synced := (resultOf outcome bs).synced.or acc.synced
        error := (resultOf outcome bs).error.or acc.error } := by
  induction bs generalizing acc s with
  | nil =>
    change acc = _
    simp [resultOf, leading, failing?]
  | cons b bs ih =>
    rw [List.forall_mem_cons] at hbs
    cases h : Batch.failure? outcome b with
    | none =>
      rw [syncBatches_cons hf bs acc s h, ih hbs.2, resultOf_cons bs hbs.1 h]
      simp
    | some e =>
      rw [syncBatches_failed hf bs acc s h, resultOf_failed bs h]
      simp

theorem syncBatches_asked (hf : Fetching fetch outcome asked) (bs : List (Height × Height))
    (acc : RangeResult α) (s : τ) :
    ∃ log, asked (syncBatches fetch bs acc s).2 = asked s ++ log ∧
      log.Perm (started outcome bs) := by
  induction bs generalizing acc s with
  | nil => exact ⟨[], (List.append_nil _).symm, .nil⟩
  | cons b bs ih =>
    have hp := hf.asked_perm b s
    cases h : Batch.failure? outcome b with
    | none =>
      rw [syncBatches_cons hf bs acc s h, started_cons bs h]
      obtain ⟨log, hlog, hperm⟩ := ih _ _
      exact ⟨_ ++ log, by rw [hlog, hf.asked, List.append_assoc], hp.append hperm⟩
    | some e =>
      rw [syncBatches_failed hf bs acc s h, started_failed bs h]
      exact ⟨_, hf.asked _ _ _, hp⟩

/-! ## The range -/

theorem leading_append_failing? (bs : List (Height × Height)) :
    leading outcome bs ++ (failing? outcome bs).toList <+: bs := by
  induction bs with
  | nil => simp [leading, failing?]
  | cons b bs ih =>
    cases h : Batch.failure? outcome b with
    | none => simpa [leading, failing?, h] using ih
    | some e => simp [leading, failing?, h]

/-- The heights of the first batches of a range are the first heights of the range. -/
theorem flatMap_starts {bs : List (Height × Height)} (h : bs <+: w.batches first stop) :
    bs.flatMap Batch.heights <+: Height.range first stop := by
  obtain ⟨rest, hrest⟩ := h
  rw [← batches_flatMap w, ← hrest, List.flatMap_append]
  exact List.prefix_append _ _

theorem ok_of_mem_leading {bs : List (Height × Height)} {b : Height × Height}
    (hb : b ∈ leading outcome bs) : Batch.failure? outcome b = none :=
  Option.isNone_iff_eq_none.1 (List.all_eq_true.1 List.all_takeWhile b hb)

theorem map_fst_resultOf (bs : List (Height × Height)) :
    (resultOf outcome bs).heights.map Prod.fst = (leading outcome bs).flatMap Batch.heights := by
  change ((leading outcome bs).flatMap (Batch.results outcome)).map Prod.fst = _
  rw [List.map_flatMap, List.flatMap_congr]
  exact fun b hb => Batch.map_fst_results (ok_of_mem_leading hb)

theorem of_mem_resultOf {bs : List (Height × Height)} {p : Height × α}
    (hp : p ∈ (resultOf outcome bs).heights) : outcome p.1 = .ok p.2 := by
  obtain ⟨b, -, hp⟩ := List.mem_flatMap.1 hp
  exact Batch.of_mem_results hp

/-- A range whose heights all succeed has no failure, and no other range has none. -/
theorem error_resultOf_eq_none_iff {bs : List (Height × Height)} :
    (resultOf outcome bs).error = none ↔
      ∀ h ∈ bs.flatMap Batch.heights, ∃ a, outcome h = .ok a := by
  change (failing? outcome bs).bind (Batch.failure? outcome) = none ↔ _
  constructor
  · intro h g hg
    obtain ⟨b, hb, hg⟩ := List.mem_flatMap.1 hg
    cases hf : failing? outcome bs with
    | none =>
      have hnone := List.find?_eq_none.1 hf b hb
      exact Batch.ok_of_failure?_eq_none (Option.not_isSome_iff_eq_none.1 hnone) g hg
    | some b' =>
      have hsome := List.find?_some hf
      rw [hf, Option.bind_some] at h
      rw [h] at hsome
      cases hsome
  · intro h
    rw [Option.bind_eq_none_iff]
    intro b hb
    have hmem := List.mem_of_find?_eq_some hb
    cases he : Batch.failure? outcome b with
    | none => rfl
    | some e =>
      obtain ⟨g, hg, hout, -⟩ := Batch.lowest_of_failure?_eq_some he
      obtain ⟨a, ha⟩ := h g (List.mem_flatMap.2 ⟨b, hmem, hg⟩)
      rw [ha] at hout
      cases hout

theorem started_starts (outcome : Height → Except SyncError α) (w : Window) (first stop : Height) :
    started outcome (w.batches first stop) <+: Height.range first stop := by
  exact flatMap_starts (leading_append_failing? (w.batches first stop))

/-- **A range settles the same in every order of completion.** What comes of it is a matter of the
outcomes of its heights: those of the batches before the first that fails, in order and each with
its own result, and the failure of the lowest height of that batch which fails. The heights of these
batches and of the failing one are asked for once each, and no other height is. -/
theorem sync_settles (hf : Fetching fetch outcome asked) (w : Window) (first stop : Height)
    (s : τ) :
    let bs := w.batches first stop
    let whole := (leading outcome bs).flatMap Batch.heights
    let result := (w.sync fetch first stop s).1
    result = resultOf outcome bs ∧
      result.heights.map Prod.fst = whole ∧ (∀ p ∈ result.heights, outcome p.1 = .ok p.2) ∧
      whole <+: Height.range first stop ∧ result.synced = whole.getLast? ∧
      (result.error = none ↔ ∀ h ∈ Height.range first stop, ∃ a, outcome h = .ok a) ∧
      (∀ e, result.error = some e → ∃ b, failing? outcome bs = some b ∧
        ∃ g ∈ Batch.heights b, outcome g = .error e ∧
          ∀ g' ∈ Batch.heights b, g' < g → ∃ a, outcome g' = .ok a) ∧
      ∃ log, asked (w.sync fetch first stop s).2 = asked s ++ log ∧
        log.Perm (started outcome bs) ∧ log.Nodup := by
  intro bs whole result
  have hresult : result = resultOf outcome bs := by
    refine (syncBatches_result hf (fun b => le_of_mem_batches) {} s).trans ?_
    simp [bs]
  obtain ⟨log, hlog, hperm⟩ := syncBatches_asked hf bs {} s
  have hnodup : log.Nodup := by
    rw [hperm.nodup_iff]
    have hstarts := started_starts outcome w first stop
    exact ((Height.range_pairwise first stop).sublist hstarts.sublist).imp UInt64.ne_of_lt
  rw [hresult]
  refine ⟨rfl, map_fst_resultOf bs, fun p => of_mem_resultOf, ?_, rfl, ?_, ?_, log, hlog, hperm,
    hnodup⟩
  · exact flatMap_starts (List.takeWhile_prefix _)
  · rw [← batches_flatMap w]
    exact error_resultOf_eq_none_iff
  · intro e he
    obtain ⟨b, hb, he⟩ := Option.bind_eq_some_iff.1 he
    exact ⟨b, hb, Batch.lowest_of_failure?_eq_some he⟩

/-- The heights of each batch are completed from the last to the first, and two of the third batch
fail, of which the higher is completed first. -/
theorem backwards_settles :
    let task : Height → StateM (List Height) (Except SyncError Height) := fun h asked =>
      (if h = 5 ∨ h = 6 then .error (.fetch h "gone") else .ok (100 * h), asked ++ [h])
    let fetch := fun first last => complete task (Height.range first last).reverse
    let after := (Window.ofSize 3).sync fetch 0 9 []
    after.1.heights = [(0, 0), (1, 100), (2, 200), (3, 300)] ∧ after.1.synced = some 3 ∧
      after.1.error = some (.fetch 5 "gone") ∧ after.2 = [0, 3, 2, 1, 6, 5, 4] := by
  intro task fetch after
  have hf : Fetching fetch (fun h => (task h []).1) id :=
    fetching_of_tasks (fun _ _ => rfl) (fun _ _ => rfl) fun _ _ => List.reverse_perm _
  obtain ⟨hresult, -⟩ := sync_settles hf (.ofSize 3) 0 9 []
  refine ⟨?_, ?_, ?_, by decide +kernel⟩ <;> dsimp only [after] <;> rw [hresult] <;> decide +kernel

end Window

end ChainIndexer
