import ChainIndexer.Proofs.Progress

/-!
# How far an attempt reaches

The target of an attempt bounds what it asks for.

* `attempt_eq`: an attempt that reads the cursor and the latest height walks from the resume point
  up to its target, or has nothing to do.
* `retry_narrows`: a retry asks for the resume point and nothing else; on a fresh handler for
  genesis and then for the starting height.
* `asked_le_latest`: nothing above the latest height is asked for, but that the target of a retry is
  no lower than the starting height. `retry_above_latest` is a retry that goes there.
-/

namespace ChainIndexer

/-! ## The target -/

variable {latest current starting : Height}

theorem targetHeight_retry_le (h : starting ≤ current) :
    targetHeight latest current starting true ≤ current := by
  rw [targetHeight, if_pos rfl]
  rcases Height.sup_eq (min latest current) starting with e | e
  · rw [e]
    exact Height.inf_le_right latest current
  · rw [e]
    exact h

theorem targetHeight_retry_eq (h : starting ≤ current) (hl : current ≤ latest) :
    targetHeight latest current starting true = current := by
  rw [targetHeight, if_pos rfl, Height.inf_of_le hl, Height.sup_of_le h]

theorem targetHeight_retry_zero (latest starting : Height) :
    targetHeight latest 0 starting true = starting := by
  rw [targetHeight, if_pos rfl, Height.inf_of_le (Height.zero_le latest)]
  exact if_pos (Height.zero_le starting)

theorem targetHeight_le_latest (latest current starting : Height) (isRetry : Bool) :
    targetHeight latest current starting isRetry ≤ latest ∨
      isRetry = true ∧ targetHeight latest current starting isRetry = starting := by
  cases isRetry with
  | false => exact .inl (Height.le_refl latest)
  | true =>
    rw [targetHeight, if_pos rfl]
    refine (Height.sup_eq (min latest current) starting).imp (fun e => ?_) fun e => ⟨rfl, e⟩
    rw [e]
    exact Height.inf_le_left latest current

/-- The target falls short of a resume point above the latest height, but not where a retry resumes
at the starting height. -/
theorem targetHeight_lt_iff {isRetry : Bool} (h : starting ≤ current) (hl : latest < current) :
    targetHeight latest current starting isRetry < current ↔
      ¬ (isRetry = true ∧ current = starting) := by
  cases isRetry with
  | false => simpa [targetHeight] using hl
  | true =>
    rw [targetHeight, if_pos rfl, Height.inf_of_lt hl]
    simp only [true_and]
    -- the clamp lifts the target to the resume point only where that is the starting height
    constructor
    · rintro hlt rfl
      rw [Height.lt_iff, Height.toNat_sup] at hlt
      omega
    · intro hne
      have hlt : starting < current := UInt64.lt_of_le_of_ne h (Ne.symm hne)
      rcases Height.sup_eq latest starting with e | e
      · rwa [e]
      · rwa [e]

/-! ## The agenda up to the target of a retry -/

/-- The heights that a retry may ask for: the resume point; on a fresh handler genesis, and then the
starting height. -/
def retryHeights (starting : Height) : Option Height → List Height
  | none => if starting = 0 then [0] else [0, starting]
  | some c => (resumeHeight (some c) starting).toList

theorem filter_agenda_resume {cursor : Option Height}
    (hcur : resumeHeight cursor starting = some current) :
    (agenda starting cursor).filter (· ≤ current) = [current] := by
  have hagenda : agenda starting cursor = [current] ++ agenda starting (some current) := by
    rw [agenda_eq, hcur]
    rfl
  exact (eq_filter_le (agenda_pairwise starting cursor) hagenda rfl).symm

theorem filter_agenda_fresh (starting : Height) :
    (agenda starting none).filter (· ≤ starting) = retryHeights starting none := by
  by_cases h0 : starting = 0
  · subst h0
    exact filter_agenda_resume rfl
  · have hone : max 1 starting = starting := by
      have hpos : starting.toNat ≠ 0 := fun h => h0 (UInt64.toNat_inj.1 h)
      apply UInt64.toNat_inj.1
      rw [Height.toNat_sup]
      simp only [UInt64.reduceToNat]
      omega
    have hagenda : agenda starting none = [0, starting] ++
        if starting < Height.max then Height.range (starting + 1) Height.max else [] := by
      rw [agenda, hone, Height.range_eq_cons (Height.le_max starting)]
      rfl
    rw [retryHeights, if_neg h0]
    exact (eq_filter_le (agenda_pairwise starting none) hagenda rfl).symm

/-! ## Attempts -/

theorem History.followedBy_cancel {h d d' : History} (e : h.followedBy d = h.followedBy d') :
    d.asked = d'.asked ∧ d.accepted = d'.accepted :=
  ⟨List.append_cancel_left (congrArg History.asked e),
    List.append_cancel_left (congrArg History.accepted e)⟩

namespace Manager

variable {σ : Type} {env : Surroundings σ} {history : σ → History} {config : ManagerConfig}
  {isRetry : Bool} {status : Status} {s : σ} {cursor : Option Height}

/-- An attempt that reads the cursor and the latest height walks up to its target, unless that falls
short of the resume point. -/
theorem attempt_eq (config : ManagerConfig) (isRetry : Bool)
    (hread : (env.cursor status s).1 = some (.ok cursor))
    (hcur : resumeHeight cursor config.starting = some current)
    (hl : (env.latest status (env.cursor status s).2).1 = some latest) :
    attempt env config isRetry (status, s) =
      if targetHeight latest current config.starting isRetry < current then
        (.ok none, status, (env.latest status (env.cursor status s).2).2)
      else walk env config current (targetHeight latest current config.starting isRetry) none
        (status, (env.latest status (env.cursor status s).2).2) := by
  have hr : env.cursor status s = (some (.ok cursor), (env.cursor status s).2) := Prod.ext hread rfl
  have hs : env.latest status (env.cursor status s).2
      = (some latest, (env.latest status (env.cursor status s).2).2) := Prod.ext hl rfl
  unfold attempt
  simp only [Act.bind_run, Act.demand]
  rw [hr]
  simp only [hcur, Act.bind_run, Act.ask]
  rw [hs]
  dsimp only
  split
  · rfl
  · rfl

theorem attempt_idle (hk : env.Keeps history) (hread : (env.cursor status s).1 = some (.ok cursor))
    (hcur : resumeHeight cursor config.starting = some current)
    (hl : (env.latest status (env.cursor status s).2).1 = some latest)
    (h : targetHeight latest current config.starting isRetry < current) :
    (attempt env config isRetry (status, s)).1 = .ok none ∧
      history (attempt env config isRetry (status, s)).2.2 = history s := by
  rw [attempt_eq config isRetry hread hcur hl, if_pos h]
  exact ⟨rfl, (hk.latest status _).trans (hk.cursor status s)⟩

/-- An attempt changes nothing, or makes progress from the resume point towards its target. -/
theorem attempt_adds (hk : env.Keeps history) (config : ManagerConfig) (isRetry : Bool)
    (status : Status) (s : σ) :
    ∃ d, history (attempt env config isRetry (status, s)).2.2 = (history s).followedBy d ∧
      (d.asked = [] ∨ ∃ current latest,
        resumeHeight (history s).cursor config.starting = some current ∧
        (env.latest status (env.cursor status s).2).1 = some latest ∧
        Progress env config.starting (targetHeight latest current config.starting isRetry)
          (history s).cursor d) := by
  rcases ha : attempt env config isRetry (status, s) with ⟨r, status', s'⟩
  have hends := attempt_ends hk ha
  change ∃ d, history s' = _ ∧ _
  generalize history s' = H' at hends
  cases hends with
  | @walked current latest status' t r H' hcur hl h hc hread =>
    obtain ⟨rfl, rfl⟩ := hread
    obtain ⟨d, hd, hp⟩ := hc.progress hcur
    exact ⟨d, hd, .inr ⟨current, latest, hcur, hl, hp⟩⟩
  -- without a walk the history is as it was
  | _ => exact ⟨{}, (History.followedBy_nothing _).symm, .inl rfl⟩

theorem Progress.asked_starts {target bound : Height} {d : History}
    (hp : Progress env starting target cursor d) (hb : target ≤ bound) :
    d.asked <+: (agenda starting cursor).filter (· ≤ bound) := by
  have hself : d.asked.filter (· ≤ bound) = d.asked :=
    List.filter_eq_self.2 fun h hh => decide_eq_true (Height.le_trans (hp.below h hh) hb)
  rw [← hself]
  exact (follows_iff_starts.1 hp.follows).filter _

/-! ## A walk of one height -/

theorem WindowEnds.asked {first last : Height} {committed : Option Height} {H H' : History}
    {r : Except Halt (Option Height)}
    (hw : WindowEnds env history first last committed H r H') :
    ∃ d, H' = H.followedBy d ∧
      (d.asked = Height.range first last ∨ d.asked = [] ∧ r = .error .dropped) := by
  cases hw with
  | unasked => exact ⟨{}, (H.followedBy_nothing).symm, .inr ⟨rfl, rfl⟩⟩
  | uncommitted hg hs hd he =>
    cases he with
    | command => exact ⟨_, rfl, .inl rfl⟩
    | handler => exact ⟨_, History.followedBy_ofRefused _ _ rfl _ _, .inl rfl⟩
  | _ => exact ⟨_, rfl, .inl rfl⟩

theorem WindowEnds.last {first last : Height} {committed committed' : Option Height}
    {H H' : History} (hle : first ≤ last)
    (hw : WindowEnds env history first last committed H (.ok committed') H') :
    committed' = some last := by
  cases hw with
  | committed hg hs hd =>
    rw [← List.getLast?_map, (Batch.settle_eq_ok hs).1, Height.getLast?_range hle]
    rfl

/-- A walk that starts at its target asks for that height only, and has committed it where it
succeeds. -/
theorem Course.single {committed : Option Height} {H H' : History}
    {r : Except Halt (Option Height)}
    (hc : Course env history config current current committed H r H')
    (hcur : resumeHeight H.cursor config.starting = some current) :
    ∃ d, H' = H.followedBy d ∧ (d.asked = [current] ∨ d.asked = [] ∧ r = .error .dropped) ∧
      ∀ last, r = .ok last → last = some current ∧ d.accepted.map Prod.fst = [current] := by
  have hlast : config.window.lastOf current current = current :=
    Height.le_antisymm (config.window.lastOf_le (Height.le_refl current))
      (Height.le_iff.2 (config.window.le_lastOf (Height.le_refl current)))
  have hfollows := follows_window config current hcur
  -- whatever comes after a window that succeeds lies above the target
  have hwindow : ∀ {committed' H''},
      WindowEnds env history current (config.window.lastOf current current) committed H
        (.ok committed') H'' →
      ∃ d, H'' = H.followedBy d ∧ d.asked = [current] ∧ committed' = some current ∧
        d.accepted.map Prod.fst = [current] := by
    intro committed' H'' hw
    rw [hlast] at hw hfollows
    obtain ⟨d, hd, -, hwhole⟩ := hw.whole hfollows (Height.le_refl current) (Height.le_refl current)
    have hasked : d.asked = [current] := hwhole.asked.trans (Height.range_self current)
    exact ⟨d, hd, hasked, hw.last (Height.le_refl current), hwhole.accepted.trans hasked⟩
  cases hc with
  | passed h => exact absurd (Height.le_refl current) (Height.not_le_of_lt h)
  | halt h hw =>
    obtain ⟨d, hd, hasked⟩ := hw.asked
    rw [hlast, Height.range_self] at hasked
    exact ⟨d, hd, hasked, fun last he => by cases he⟩
  | top h hw hn =>
    obtain ⟨d, hd, hasked, rfl, hacc⟩ := hwindow hw
    exact ⟨d, hd, .inl hasked, fun last he => ⟨(Except.ok.inj he).symm, hacc⟩⟩
  | next h hw hn hrest =>
    obtain ⟨d, rfl, hasked, rfl, hacc⟩ := hwindow hw
    have habove := lt_of_resumeHeight hn
    rw [hlast] at habove
    cases hrest with
    | passed => exact ⟨d, rfl, .inl hasked, fun last he => ⟨(Except.ok.inj he).symm, hacc⟩⟩
    | _ h => exact absurd (Height.le_iff.1 h) (by omega)

theorem attempt_single (hk : env.Keeps history)
    (hread : (env.cursor status s).1 = some (.ok cursor))
    (hcur : resumeHeight cursor config.starting = some current)
    (hl : (env.latest status (env.cursor status s).2).1 = some latest)
    (htarget : targetHeight latest current config.starting isRetry = current) :
    ∃ d, history (attempt env config isRetry (status, s)).2.2 = (history s).followedBy d ∧
      (d.asked = [current] ∨
        d.asked = [] ∧ (attempt env config isRetry (status, s)).1 = .error .dropped) ∧
      ∀ last, (attempt env config isRetry (status, s)).1 = .ok last →
        last = some current ∧ d.accepted.map Prod.fst = [current] := by
  have hself : ¬ current < current := Height.not_lt.2 (Height.le_refl current)
  rw [attempt_eq config isRetry hread hcur hl, htarget, if_neg hself]
  rcases hw : walk env config current current none
    (status, (env.latest status (env.cursor status s).2).2) with ⟨r, status', s'⟩
  have hcourse := walk_course hk hw
  rw [hk.latest, hk.cursor] at hcourse
  obtain rfl := hk.reads hread
  exact hcourse.single hcur

theorem reads_of_attempt (hk : env.Keeps history) {last : Option Height}
    (hok : (attempt env config isRetry (status, s)).1 = .ok last) :
    (env.cursor status s).1 = some (.ok (history s).cursor) := by
  rcases hr : env.cursor status s with ⟨_ | e | c, t⟩
  · simp only [attempt, Act.bind_run, Act.demand, hr] at hok
    cases hok
  · simp only [attempt, Act.bind_run, Act.demand, hr] at hok
    cases hok
  · rw [hk.reads (congrArg Prod.fst hr)]

/-! ## The heights that are asked for -/

/-- **A retry goes on one height at a time.** It asks for the resume point at most, on a fresh
handler for genesis and then the starting height. Where the handler has a cursor and the chain has
got as far as the resume point, a retry that succeeds has committed the resume point, nothing else,
and returns it. -/
theorem retry_narrows (hk : env.Keeps history) (config : ManagerConfig) (status : Status) (s : σ) :
    ∃ d, history (attempt env config true (status, s)).2.2 = (history s).followedBy d ∧
      d.asked <+: retryHeights config.starting (history s).cursor ∧
      ∀ c current latest last, (history s).cursor = some c →
        resumeHeight (some c) config.starting = some current →
        (env.latest status (env.cursor status s).2).1 = some latest → current ≤ latest →
        (attempt env config true (status, s)).1 = .ok last →
          last = some current ∧ d.accepted.map Prod.fst = [current] := by
  obtain ⟨d, hd, hasks⟩ := attempt_adds hk config true status s
  refine ⟨d, hd, ?_, ?_⟩
  · rcases hasks with hasked | ⟨current, latest, hcur, -, hp⟩
    · rw [hasked]
      exact List.nil_prefix
    · cases hc : (history s).cursor with
      | none =>
        rw [hc] at hcur hp
        obtain rfl := Option.some.inj hcur
        rw [targetHeight_retry_zero] at hp
        rw [← filter_agenda_fresh]
        exact hp.asked_starts (Height.le_refl config.starting)
      | some c =>
        rw [hc] at hcur hp
        obtain ⟨-, -, -, hstart⟩ := resumeHeight_some hcur
        have hstarts := hp.asked_starts (targetHeight_retry_le hstart)
        rwa [filter_agenda_resume hcur, ← Option.toList_some, ← hcur] at hstarts
  · intro c current latest last hc hcur hl hle hok
    obtain ⟨-, -, -, hstart⟩ := resumeHeight_some hcur
    have hread := reads_of_attempt hk hok
    rw [← hc] at hcur
    obtain ⟨d', hd', -, hcommits⟩ := attempt_single hk hread hcur hl
      (targetHeight_retry_eq hstart hle)
    rw [(History.followedBy_cancel (hd.symm.trans hd')).2]
    exact hcommits last hok

/-- A retry that goes on at height 150 where the chain ends at 500. -/
def flaky : Except Halt (Option Height) × Status × History :=
  attempt (History.surroundings 500 (fun _ => .ok []) fun _ => none) { starting := 100 } true
    ({}, { cursor := some 149 })

theorem flaky_narrows :
    flaky.1 = .ok (some 150) ∧ ∃ d, flaky.2.2 = ({ cursor := some 149 } : History).followedBy d ∧
      d.asked <+: [150] ∧ d.accepted.map Prod.fst = [150] := by
  have hok : flaky.1 = .ok (some 150) := by decide +kernel
  obtain ⟨d, hd, hasked, hcommits⟩ :=
    retry_narrows (History.surroundings_keeps _ _ _) { starting := 100 } {} { cursor := some 149 }
  have hle : (150 : Height) ≤ 500 := by decide
  exact ⟨hok, d, hd, hasked, (hcommits 149 150 500 (some 150) rfl rfl rfl hle hok).2⟩

/-- **Above the latest height an attempt asks for the starting height alone, and only as a retry.**
Whatever else it asks for is not above the latest height. Where the resume point is above, it asks
for nothing and succeeds, but a retry that resumes at the starting height asks for that, unless the
run ends before. -/
theorem asked_le_latest (hk : env.Keeps history) (config : ManagerConfig) (isRetry : Bool)
    (status : Status) (s : σ) {latest : Height}
    (hl : (env.latest status (env.cursor status s).2).1 = some latest) :
    ∃ d, history (attempt env config isRetry (status, s)).2.2 = (history s).followedBy d ∧
      (∀ h ∈ d.asked, h ≤ latest ∨ isRetry = true ∧ h = config.starting) ∧
      ∀ cursor current, (env.cursor status s).1 = some (.ok cursor) →
        resumeHeight cursor config.starting = some current → latest < current →
          if isRetry = true ∧ current = config.starting then
            d.asked = [current] ∨
              d.asked = [] ∧ (attempt env config isRetry (status, s)).1 = .error .dropped
          else d.asked = [] ∧ (attempt env config isRetry (status, s)).1 = .ok none := by
  obtain ⟨d, hd, hasks⟩ := attempt_adds hk config isRetry status s
  refine ⟨d, hd, ?_, ?_⟩
  · intro h hh
    rcases hasks with hasked | ⟨current, latest', hcur, hl', hp⟩
    · rw [hasked] at hh
      cases hh
    · obtain rfl := Option.some.inj (hl.symm.trans hl')
      have hle := hp.below h hh
      rcases targetHeight_le_latest latest current config.starting isRetry with ht | ⟨hr, ht⟩
      · exact .inl (Height.le_trans hle ht)
      · rw [ht] at hle
        have hagenda := (follows_iff_starts.1 hp.follows).subset hh
        rcases starting_le_of_mem_agenda hagenda with rfl | hstart
        · exact .inl (Height.zero_le latest)
        · exact .inr ⟨hr, Height.le_antisymm hle hstart⟩
  · intro cursor current hread hcur hlt
    have hstart : config.starting ≤ current := by
      cases cursor with
      | none =>
        obtain rfl := Option.some.inj hcur
        exact absurd (Height.zero_le latest) (Height.not_le_of_lt hlt)
      | some c => exact (resumeHeight_some hcur).2.2.2
    split
    · rename_i hr
      obtain ⟨rfl, rfl⟩ := hr
      have htarget : targetHeight latest config.starting config.starting true = config.starting := by
        refine Height.le_antisymm (targetHeight_retry_le (Height.le_refl _)) (Height.not_lt.1 ?_)
        exact fun h => (targetHeight_lt_iff (Height.le_refl _) hlt).1 h ⟨rfl, rfl⟩
      obtain ⟨d', hd', hasked, -⟩ := attempt_single hk hread hcur hl htarget
      rwa [(History.followedBy_cancel (hd.symm.trans hd')).1]
    · rename_i hr
      obtain ⟨hok, hsame⟩ := attempt_idle hk hread hcur hl ((targetHeight_lt_iff hstart hlt).2 hr)
      have hnone : (history s).followedBy d = (history s).followedBy {} :=
        (hd.symm.trans hsame).trans (History.followedBy_nothing _).symm
      exact ⟨(History.followedBy_cancel hnone).1, hok⟩

/-- An attempt of a handler at height 50 that is to go on at height 100, where the chain ends at
40. -/
def behind (isRetry : Bool) : Except Halt (Option Height) × Status × History :=
  attempt (History.surroundings 40 (fun _ => .ok []) fun _ => none) { starting := 100 } isRetry
    ({}, { cursor := some 50 })

theorem behind_idle :
    ∃ d, (behind false).2.2 = ({ cursor := some 50 } : History).followedBy d ∧
      d.asked = [] ∧ (behind false).1 = .ok none := by
  obtain ⟨d, hd, -, habove⟩ := asked_le_latest
    (History.surroundings_keeps 40 (fun _ => .ok []) fun _ => none) { starting := 100 } false {}
    { cursor := some 50 } rfl
  have hlt : (40 : Height) < 100 := by decide
  exact ⟨d, hd, habove (some 50) 100 rfl rfl hlt⟩

/-- The retry asks for height 100, and commits it; the first attempt has nothing to do. -/
theorem retry_above_latest :
    (40 : Height) < 100 ∧ (behind true).1 = .ok (some 100) ∧ (behind true).2.2.asked = [100] ∧
      (behind false).1 = .ok none ∧ (behind false).2.2.asked = [] := by
  decide +kernel

end Manager

end ChainIndexer
