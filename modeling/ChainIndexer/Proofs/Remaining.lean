import Mathlib.Data.List.Sort
import ChainIndexer.Cli.Basic
import ChainIndexer.Proofs.Failure
import ChainIndexer.Proofs.Reach

/-!
# The work that is left

The status counts the heights from the cursor to the latest one. The work that is left is what an
attempt commits in which nothing fails.

* `agenda_filter_le`: up to a height, an attempt plans the heights ahead of the cursor that the
  starting height does not skip.
* `Course.succeeded`: an attempt that succeeds has committed what it planned.
* `attempt_succeeds`: in `Smooth` surroundings, where nothing fails, an attempt succeeds.
* `behind_eq_ahead`: the status counts the heights ahead of the cursor, in 64 bits.

So the status is right exactly where the starting height skips nothing and the count fits.
-/

namespace ChainIndexer

/-! ## The heights ahead -/

def heightsAhead (cursor : Option Height) (latest : Height) : List Height :=
  (Height.range 0 latest).filter (Store.advances cursor)

/-- The starting height skips what is below it, but not genesis. -/
def skips (starting h : Height) : Bool := h ≠ 0 ∧ h < starting

section Ahead

variable {starting latest h : Height} {cursor : Option Height}

theorem mem_heightsAhead :
    h ∈ heightsAhead cursor latest ↔ Store.advances cursor h = true ∧ h ≤ latest := by
  simp [heightsAhead, Height.mem_range, and_comm]

theorem heightsAhead_pairwise (cursor : Option Height) (latest : Height) :
    (heightsAhead cursor latest).Pairwise (· < ·) :=
  (Height.range_pairwise 0 latest).filter _

theorem heightsAhead_some {c : Height} (h : c < latest) :
    heightsAhead (some c) latest = Height.range (c + 1) latest := by
  refine (heightsAhead_pairwise _ _).eq_of_mem_iff (Height.range_pairwise _ _) fun g => ?_
  rw [mem_heightsAhead, Height.mem_range, @Height.le_iff (c + 1), Height.toNat_succ h]
  exact and_congr_left fun _ => decide_eq_true_iff.trans Height.lt_iff

theorem length_heightsAhead_some (c latest : Height) :
    (heightsAhead (some c) latest).length = latest.toNat - c.toNat := by
  by_cases h : c < latest
  · rw [heightsAhead_some h, Height.length_range, Height.toNat_succ h]
    omega
  · have hnone : heightsAhead (some c) latest = [] := by
      refine List.eq_nil_iff_forall_not_mem.2 fun g hg => ?_
      obtain ⟨hc, hl⟩ := mem_heightsAhead.1 hg
      simp only [Store.advances, decide_eq_true_eq, Height.lt_iff] at hc
      rw [Height.le_iff] at hl
      rw [Height.lt_iff] at h
      omega
    rw [Height.lt_iff] at h
    rw [hnone, List.length_nil]
    omega

theorem heightsAhead_none (latest : Height) : heightsAhead none latest = Height.range 0 latest :=
  List.filter_eq_self.2 fun _ _ => rfl

theorem length_heightsAhead_le (cursor : Option Height) (latest : Height) :
    (heightsAhead cursor latest).length ≤ 0x10000000000000000 := by
  have hbound := latest.toNat_lt
  cases cursor with
  | none =>
    rw [heightsAhead_none, Height.length_range]
    simp only [UInt64.reduceToNat]
    omega
  | some c =>
    rw [length_heightsAhead_some]
    omega

/-- Only without a cursor, so with genesis, there are more heights than fit in 64 bits. -/
theorem zero_mem_heightsAhead (h : 0x10000000000000000 ≤ (heightsAhead cursor latest).length) :
    0 ∈ heightsAhead cursor latest := by
  have hbound := latest.toNat_lt
  cases cursor with
  | none => exact mem_heightsAhead.2 ⟨rfl, Height.zero_le latest⟩
  | some c =>
    rw [length_heightsAhead_some] at h
    omega

theorem mem_agenda :
    h ∈ agenda starting cursor ↔ Store.advances cursor h = true ∧ (h = 0 ∨ starting ≤ h) := by
  constructor
  · intro hh
    refine ⟨?_, starting_le_of_mem_agenda hh⟩
    cases cursor with
    | none => rfl
    | some c => exact decide_eq_true (lt_of_mem_agenda hh)
  · rintro ⟨hadv, hstart⟩
    cases cursor with
    | none =>
      rw [agenda, List.mem_cons]
      by_cases h0 : h = 0
      · exact .inl h0
      · have hpos : h.toNat ≠ 0 := fun e => h0 (UInt64.toNat_inj.1 e)
        have hle := Height.le_iff.1 (hstart.resolve_left h0)
        refine .inr (Height.mem_range.2 ⟨?_, Height.le_max h⟩)
        rw [Height.le_iff, Height.toNat_sup]
        simp only [UInt64.reduceToNat]
        omega
    | some c =>
      have hlt : c < h := of_decide_eq_true hadv
      have hmax : c < Height.max := UInt64.lt_of_lt_of_le hlt (Height.le_max h)
      have hsucc := Height.toNat_succ hlt
      rw [Height.lt_iff] at hlt
      have hle : starting ≤ h := by
        refine hstart.resolve_left ?_
        rintro rfl
        exact absurd hlt (Nat.not_lt_zero _)
      rw [Height.le_iff] at hle
      rw [agenda, if_neg (UInt64.ne_of_lt hmax)]
      refine Height.mem_range.2 ⟨?_, Height.le_max h⟩
      rw [Height.le_iff, Height.toNat_sup, hsucc]
      omega

/-- Up to a height an attempt plans the heights ahead, but for those below the starting height.
Genesis stays. -/
theorem agenda_filter_le (starting : Height) (cursor : Option Height) (latest : Height) :
    (agenda starting cursor).filter (· ≤ latest)
      = (heightsAhead cursor latest).filter fun h => !skips starting h := by
  refine ((agenda_pairwise _ _).filter _).eq_of_mem_iff ((heightsAhead_pairwise _ _).filter _) ?_
  intro h
  have hkept : (!skips starting h) = true ↔ h = 0 ∨ starting ≤ h := by
    rw [skips, Bool.not_eq_true', decide_eq_false_iff_not, not_and_or, not_not, Height.not_lt]
  simp only [List.mem_filter, mem_agenda, mem_heightsAhead, decide_eq_true_eq, hkept]
  rw [and_right_comm]

end Ahead

/-! ## Attempts in which nothing fails -/

namespace Manager

variable {σ : Type} {env : Surroundings σ} {history : σ → History} {config : ManagerConfig}
  {current target : Height}

theorem Course.succeeded {committed last : Option Height} {H H' : History}
    (hc : Course env history config target current committed H (.ok last) H')
    (hcur : resumeHeight H.cursor config.starting = some current) :
    ∃ d, H' = H.followedBy d ∧
      d.accepted.map Prod.fst = heights (windows config current target) := by
  generalize hr : (.ok last : Except Halt (Option Height)) = r at hc
  induction hc with
  | passed h =>
    rw [windows, dif_neg (Height.not_le_of_lt h)]
    exact ⟨{}, (History.followedBy_nothing _).symm, rfl⟩
  | halt => cases hr
  | top h hw hn =>
    obtain ⟨d, rfl, -, hwhole⟩ := hw.whole (follows_window config target hcur)
      (Height.le_iff.2 (config.window.le_lastOf h)) (config.window.lastOf_le h)
    refine ⟨d, rfl, ?_⟩
    rw [windows_top h hn, hwhole.accepted, hwhole.asked]
    simp [heights]
  | @next current next committed committed' H H' H'' r h hw hn hc ih =>
    obtain ⟨d, rfl, -, hwhole⟩ := hw.whole (follows_window config target hcur)
      (Height.le_iff.2 (config.window.le_lastOf h)) (config.window.lastOf_le h)
    have hcur' : resumeHeight (H.followedBy d).cursor config.starting = some next := by
      simpa [History.followedBy, hwhole.cursor] using hn
    obtain ⟨d', rfl, hd'⟩ := ih hcur' hr
    refine ⟨d.followedBy d', History.followedBy_assoc _ _ _, ?_⟩
    rw [windows_next h hn]
    simp [History.followedBy, heights, hwhole.accepted, hwhole.asked, hd']

end Manager

/-- Nothing fails. The cursor is read, the latest height is known, every height up to it is fetched
and its commands can be carried out, and the handler accepts every height above its cursor. -/
structure Surroundings.Smooth {σ : Type} (env : Surroundings σ) (history : σ → History)
    (latest : Height) : Prop where
  reads : ∀ status s, (env.cursor status s).1 = some (.ok (history s).cursor)
  knows : ∀ status s, (env.latest status s).1 = some latest
  fetches : ∀ status s {first last}, last ≤ latest → ∃ txs finished outcome,
    (env.fetch status first last s).1 = (txs, some finished) ∧
      Batch.Completes finished first last outcome ∧
      ∀ h ∈ Height.range first last, ∃ commands events, outcome h = .ok commands ∧
        Command.executeAll h commands = .ok events
  accepts : ∀ status s {height} events, Store.advances (history s).cursor height = true →
    (env.handle status height events s).1 = some (.ok ())

/-- Plain surroundings are smooth where every height can be fetched and carried out, and the handler
refuses nothing that is above its cursor. -/
theorem History.surroundings_smooth (latest : Height)
    {outcome : Height → Except SyncError (List Command)}
    (h : ∀ height, ∃ commands events, outcome height = .ok commands ∧
      Command.executeAll height commands = .ok events) :
    (surroundings latest outcome fun _ => none).Smooth id latest where
  reads _ _ := rfl
  knows _ _ := rfl
  fetches _ _ _ _ _ := ⟨0, _, outcome, rfl, .refl _, fun height _ => h height⟩
  accepts := by
    intro status s height events hadv
    have hpass := (Store.ensureAdvances_eq_ok_iff "" s.cursor height).2 hadv
    simp [surroundings, hpass]

namespace Manager

variable {σ : Type} {env : Surroundings σ} {history : σ → History} {config : ManagerConfig}
  {latest first last current : Height} {s : σ}

theorem advances_of_resumeHeight {cursor : Option Height} {starting h : Height}
    (e : resumeHeight cursor starting = some h) : Store.advances cursor h = true := by
  cases cursor with
  | none => rfl
  | some c => exact decide_eq_true (Height.lt_iff.2 (lt_of_resumeHeight e))

theorem commit_succeeds (hk : env.Keeps history) (hs : env.Smooth history latest) {height : Height}
    {commands : List Command} {events : List Event} (status : Status)
    (hx : Command.executeAll height commands = .ok events)
    (hadv : Store.advances (history s).cursor height = true) :
    ∃ status' s', commit env height commands (status, s) = (.ok (), status', s') ∧
      (history s').cursor = some height := by
  have hok := hs.accepts status s events hadv
  have hh : env.handle status height events s
      = (some (.ok ()), (env.handle status height events s).2) := Prod.ext hok rfl
  refine ⟨{ status with metrics := status.metrics.countHeight height events.length },
    (env.handle status height events s).2, ?_, ?_⟩
  · unfold commit
    rw [hx]
    simp only [Act.bind_run, Act.demand]
    rw [hh]
    rfl
  · rw [(hk.accepts hok).2]
    rfl

theorem commitAll_succeeds (hk : env.Keeps history) (hs : env.Smooth history latest)
    {starting : Height} {heights : List (Height × List Command)} (committed : Option Height)
    (status : Status) (hf : Follows starting (history s).cursor (heights.map Prod.fst))
    (hx : ∀ p ∈ heights, ∃ events, Command.executeAll p.1 p.2 = .ok events) :
    ∃ committed' state, commitAll env heights committed (status, s) = (.ok committed', state) := by
  induction heights generalizing committed status s with
  | nil => exact ⟨committed, (status, s), rfl⟩
  | cons p heights ih =>
    obtain ⟨height, commands⟩ := p
    obtain ⟨hnext, hrest⟩ := hf
    obtain ⟨events, hevents⟩ := hx _ List.mem_cons_self
    obtain ⟨status', s', hc, hcursor⟩ :=
      commit_succeeds hk hs status hevents (advances_of_resumeHeight hnext)
    rw [← hcursor] at hrest
    simp only [commitAll, Act.bind_run, hc]
    exact ih _ _ hrest fun q hq => hx q (List.mem_cons_of_mem _ hq)

theorem window_succeeds (hk : env.Keeps history) (hs : env.Smooth history latest)
    {starting : Height} (committed : Option Height) (status : Status)
    (hf : Follows starting (history s).cursor (Height.range first last)) (hlast : last ≤ latest) :
    ∃ committed' status' s',
      window env first last committed (status, s) = (.ok committed', status', s') := by
  obtain ⟨txs, finished, outcome, hg, hc, hok⟩ := hs.fetches status s hlast
  have hfetch : env.fetch status first last s
      = ((txs, some finished), (env.fetch status first last s).2) := Prod.ext hg rfl
  have hcursor : (history (env.fetch status first last s).2).cursor = (history s).cursor := by
    rw [hk.answers hg]
    rfl
  simp only [window, Act.bind_run, fetch]
  rw [hfetch]
  dsimp only
  cases hset : Batch.settle first last finished with
  | error e =>
    -- the failure would be that of a height of the window
    obtain ⟨g, hmem, hfail, -⟩ := hc.lowest_of_settle hset
    obtain ⟨commands, events, hcommands, -⟩ := hok g hmem
    rw [hfail] at hcommands
    cases hcommands
  | ok heights =>
    obtain ⟨hheights, hmem⟩ := Batch.settle_eq_ok hset
    rw [← hcursor, ← hheights] at hf
    obtain ⟨committed', ⟨status', s'⟩, h⟩ := commitAll_succeeds hk hs committed _ hf fun p hp => by
      obtain ⟨hrange, hout⟩ := hc.mem_iff.1 (hmem p hp)
      obtain ⟨commands, events, hcommands, hevents⟩ := hok p.1 hrange
      rw [hcommands] at hout
      cases hout
      exact ⟨events, hevents⟩
    exact ⟨committed', status', s', h⟩

theorem walk_succeeds (hk : env.Keeps history) (hs : env.Smooth history latest)
    (committed : Option Height) (status : Status)
    (hcur : resumeHeight (history s).cursor config.starting = some current) :
    ∃ committed' state,
      walk env config current latest committed (status, s) = (.ok committed', state) := by
  -- as in `walk_course`, the distance to the target becomes smaller with every window
  induction hn : latest.toNat + 1 - current.toNat using Nat.strongRecOn
    generalizing current committed status s with
  | ind n ih =>
    by_cases hle : current ≤ latest
    · have hfollows := follows_window config latest hcur
      have hlast := config.window.lastOf_le hle
      obtain ⟨committed', status', s', hw⟩ :=
        window_succeeds hk hs committed status hfollows hlast
      rw [walk_eq env config hle, hw]
      cases hnext : resumeHeight (some (config.window.lastOf current latest)) config.starting with
      | none => exact ⟨committed', (status', s'), rfl⟩
      | some next =>
        obtain ⟨d, hd, -, hwhole⟩ := (window_cases hk hw).whole hfollows
          (Height.le_iff.2 (config.window.le_lastOf hle)) hlast
        have hcur' : resumeHeight (history s').cursor config.starting = some next := by
          simpa [hd, History.followedBy, hwhole.cursor] using hnext
        have h1 := lt_of_resumeHeight hnext
        have h2 := config.window.le_lastOf hle
        have h3 := Height.le_iff.1 hle
        exact ih _ (by omega) committed' status' hcur' rfl
    · rw [walk, dif_neg hle]
      exact ⟨committed, (status, s), rfl⟩

theorem attempt_succeeds (hk : env.Keeps history) (hs : env.Smooth history latest)
    (config : ManagerConfig) (status : Status) (s : σ) :
    ∃ committed, (attempt env config false (status, s)).1 = .ok committed := by
  have hread := hs.reads status s
  cases hcur : resumeHeight (history s).cursor config.starting with
  | none =>
    have hr : env.cursor status s = (some (.ok (history s).cursor), (env.cursor status s).2) :=
      Prod.ext hread rfl
    unfold attempt
    simp only [Act.bind_run, Act.demand]
    rw [hr]
    simp only [hcur]
    exact ⟨none, rfl⟩
  | some current =>
    rw [attempt_eq config false hread hcur (hs.knows status _)]
    split
    · exact ⟨none, rfl⟩
    · rw [← hk.cursor status s, ← hk.latest status (env.cursor status s).2] at hcur
      obtain ⟨committed, state, hw⟩ := walk_succeeds hk hs none status hcur
      exact ⟨committed, congrArg Prod.fst hw⟩

theorem attempt_commits (hk : env.Keeps history) (hs : env.Smooth history latest)
    {config : ManagerConfig} {status : Status} {s : σ} {committed : Option Height}
    (hok : (attempt env config false (status, s)).1 = .ok committed) :
    ∃ d, history (attempt env config false (status, s)).2.2 = (history s).followedBy d ∧
      d.accepted.map Prod.fst
        = (agenda config.starting (history s).cursor).filter (· ≤ latest) := by
  rcases ha : attempt env config false (status, s) with ⟨r, status', s'⟩
  have hends := attempt_ends hk ha
  rw [ha] at hok
  obtain rfl : r = .ok committed := hok
  change ∃ d, history s' = _ ∧ _
  generalize history s' = H' at hends
  cases hends with
  | top h =>
    refine ⟨{}, (History.followedBy_nothing _).symm, ?_⟩
    rw [agenda_eq, h]
    rfl
  | @idle current latest' status' t hcur hl h =>
    obtain rfl : latest = latest' := Option.some.inj ((hs.knows _ _).symm.trans hl)
    change latest < current at h
    refine ⟨{}, (History.followedBy_nothing _).symm, ?_⟩
    rw [← windows_flatMap hcur, windows, dif_neg (Height.not_le_of_lt h)]
    rfl
  | @walked current latest' status' t r H' hcur hl h hc =>
    obtain rfl : latest = latest' := Option.some.inj ((hs.knows _ _).symm.trans hl)
    obtain ⟨d, hd, hd'⟩ := hc.succeeded hcur
    exact ⟨d, hd, hd'.trans (windows_flatMap hcur)⟩

end Manager

/-! ## The status -/

namespace Cli.StatusReport

theorem behind_eq_ahead (r : StatusReport) :
    r.behind.toNat = (heightsAhead r.cursor r.chain.latestBlockHeight).length
      % 0x10000000000000000 := by
  rw [behind]
  cases r.cursor with
  | none =>
    rw [heightsAhead_none, Height.length_range, UInt64.toNat_add]
    rfl
  | some c =>
    have hbound := r.chain.latestBlockHeight.toNat_lt
    dsimp only
    rw [length_heightsAhead_some, Nat.mod_eq_of_lt (by omega)]
    by_cases h : c < r.chain.latestBlockHeight
    · rw [Height.inf_of_lt h, UInt64.toNat_sub_of_le _ _ (Height.le_of_lt h)]
    · have hle := Height.not_lt.1 h
      rw [Height.inf_of_le hle, UInt64.sub_self]
      rw [Height.le_iff] at hle
      simp only [UInt64.reduceToNat]
      omega

theorem get?_behind (r : StatusReport) :
    r.toValue.get? "heights_behind" = some (.ofUInt64 r.behind) := by
  simp only [toValue, Json.Value.get?, Json.Value.ofList, Json.Members.ofList, Json.Members.insert,
    List.foldl_cons, List.foldl_nil, List.lookup_cons, String.reduceLT, String.reduceEq,
    String.reduceBEq, ↓reduceIte]

theorem last_line (r : StatusReport) :
    r.lines.getLast? = some ("Behind:         " ++ SyncError.heightText r.behind) := by
  simp [lines, List.getLast?_cons, List.getLast?_append]

/-- **What the status says is left.** Where nothing fails, an attempt of a manager with the
settings, the cursor and the latest height of a status succeeds and commits the heights ahead but
for those that the starting height skips. The number that the status gives, in JSON and in its last
line, counts the skipped ones too, and wraps where it does not fit in 64 bits. So it is the number
of heights that are committed exactly where none is skipped and it fits. -/
theorem behind_committed {σ : Type} {env : Surroundings σ} {history : σ → History}
    (r : StatusReport) (hk : env.Keeps history)
    (hs : env.Smooth history r.chain.latestBlockHeight) (status : Status) (s : σ)
    (hc : (history s).cursor = r.cursor) :
    let ahead := heightsAhead r.cursor r.chain.latestBlockHeight
    let skipped := ahead.filter (skips r.config.startingBlockHeight)
    ∃ last d, (Manager.attempt env r.config.managerConfig false (status, s)).1 = .ok last ∧
      history (Manager.attempt env r.config.managerConfig false (status, s)).2.2
        = (history s).followedBy d ∧
      d.accepted.map Prod.fst = ahead.filter (fun h => !skips r.config.startingBlockHeight h) ∧
      r.toValue.get? "heights_behind" = some (.ofUInt64 r.behind) ∧
      r.lines.getLast? = some ("Behind:         " ++ SyncError.heightText r.behind) ∧
      r.behind.toNat = (d.accepted.length + skipped.length) % 0x10000000000000000 ∧
      (r.behind.toNat = d.accepted.length ↔
        skipped = [] ∧ ahead.length < 0x10000000000000000) := by
  intro ahead skipped
  obtain ⟨last, hok⟩ := Manager.attempt_succeeds hk hs r.config.managerConfig status s
  obtain ⟨d, hd, hplan⟩ := Manager.attempt_commits hk hs hok
  rw [hc, agenda_filter_le] at hplan
  change d.accepted.map Prod.fst = ahead.filter (fun h => !skips r.config.startingBlockHeight h)
    at hplan
  have hcount : ahead.length = d.accepted.length + skipped.length := by
    have hparts := ahead.length_eq_length_filter_add (skips r.config.startingBlockHeight)
    rwa [← hplan, List.length_map, Nat.add_comm] at hparts
  have hbehind := r.behind_eq_ahead
  change r.behind.toNat = ahead.length % _ at hbehind
  refine ⟨last, d, hok, hd, hplan, r.get?_behind, r.last_line, hcount ▸ hbehind, ?_⟩
  rw [hbehind, ← List.length_eq_zero_iff]
  by_cases hfits : ahead.length < 0x10000000000000000
  · rw [Nat.mod_eq_of_lt hfits]
    omega
  · -- the number is zero, but genesis is ahead and is never skipped
    have hgenesis : 0 ∈ d.accepted.map Prod.fst := by
      rw [hplan]
      exact List.mem_filter.2 ⟨zero_mem_heightsAhead (Nat.not_lt.1 hfits), rfl⟩
    have hpos := List.length_pos_of_mem hgenesis
    rw [List.length_map] at hpos
    have hfull := length_heightsAhead_le r.cursor r.chain.latestBlockHeight
    change ahead.length ≤ _ at hfull
    rw [Nat.le_antisymm hfull (Nat.not_lt.1 hfits), Nat.mod_self]
    omega

/-- A status of a handler that has got to height 3 where the chain ends at 7. -/
def fourLeft : StatusReport where
  config := {}
  chain := {
    network := "hub"
    latestBlockHeight := 7
    latestBlockTime := .epoch
    catchingUp := false }
  cursor := some 3

/-- What a manager does with the settings of a status and a cursor, where blocks are empty and
nothing fails up to height 7. -/
def caughtUp (r : StatusReport) : Except Halt (Option Height) × Status × History :=
  Manager.attempt (History.surroundings 7 (fun _ => .ok []) fun _ => none) r.config.managerConfig
    false ({}, { cursor := r.cursor })

theorem fourLeft_committed :
    fourLeft.behind = 4 ∧ ∃ d, (caughtUp fourLeft).2.2
      = ({ cursor := some 3 } : History).followedBy d ∧ d.accepted.length = 4 := by
  obtain ⟨last, d, -, hd, -, -, -, -, hcount⟩ := behind_committed fourLeft
    (History.surroundings_keeps 7 _ _) (History.surroundings_smooth 7 fun _ => ⟨[], [], rfl, rfl⟩)
    {} { cursor := some 3 } rfl
  have hskipped : (heightsAhead (some 3) 7).filter (skips 0) = [] := by decide +kernel
  have hfits : (heightsAhead (some 3) 7).length < 0x10000000000000000 := by
    rw [length_heightsAhead_some]
    decide
  exact ⟨by decide, d, hd, (hcount.2 ⟨hskipped, hfits⟩).symm⟩

/-- A status of a fresh handler that is to start at height 5 where the chain ends at 7. -/
def lateStart : StatusReport where
  config := { startingBlockHeight := 5 }
  chain := fourLeft.chain
  cursor := none

/-- The status counts heights 1 to 4 too, which no attempt commits. -/
theorem lateStart_skips :
    lateStart.config.validate = .ok () ∧ lateStart.behind = 8 ∧
      (caughtUp lateStart).1 = .ok (some 7) ∧
      (caughtUp lateStart).2.2.accepted.map Prod.fst = [0, 5, 6, 7] := by
  decide +kernel

end Cli.StatusReport

end ChainIndexer
