import ChainIndexer.Proofs.Schedule

/-!
# What a failed attempt leaves behind

* `windows_flatMap`: the windows of an attempt hold the planned heights, which are those of the
  agenda up to the target, in order.
* `Course.failed`: an attempt that fails has whole windows, and then one that fails.
* `failed_leaves`: what the handler has accepted after an attempt that fails are the planned heights
  below one height, and the failure is that of a height of the window in which it lies.
-/

namespace ChainIndexer

namespace Manager

variable {σ : Type} {env : Surroundings σ} {history : σ → History} {config : ManagerConfig}
  {f : Fetcher}

/-! ## The windows of an attempt -/

/-- The windows from a height up to the target, each by its first and last height. -/
def windows (config : ManagerConfig) (current target : Height) : List (Height × Height) :=
  if _h : current ≤ target then
    (current, config.window.lastOf current target) ::
      match _e : resumeHeight (some (config.window.lastOf current target)) config.starting with
      | some next => windows config next target
      | none => []
  else []
termination_by target.toNat + 1 - current.toNat
decreasing_by
  have h1 := lt_of_resumeHeight _e
  have h2 := config.window.le_lastOf _h
  have h3 := Height.le_iff.1 _h
  omega

theorem windows_next {current target next : Height} (h : current ≤ target)
    (hn : resumeHeight (some (config.window.lastOf current target)) config.starting = some next) :
    windows config current target
      = (current, config.window.lastOf current target) :: windows config next target := by
  rw [windows, dif_pos h]
  split
  · rename_i next' hn'
    obtain rfl := Option.some.inj (hn.symm.trans hn')
    rfl
  · rename_i hn'
    rw [hn] at hn'
    cases hn'

theorem windows_top {current target : Height} (h : current ≤ target)
    (hn : resumeHeight (some (config.window.lastOf current target)) config.starting = none) :
    windows config current target = [(current, config.window.lastOf current target)] := by
  rw [windows, dif_pos h]
  split
  · rename_i next' hn'
    rw [hn] at hn'
    cases hn'
  · rfl

def heights (ws : List (Height × Height)) : List Height := ws.flatMap fun w => Height.range w.1 w.2

/-- The windows of an attempt hold the heights of the agenda up to the target, in order. -/
theorem windows_flatMap {current target : Height} {cursor : Option Height}
    (hcur : resumeHeight cursor config.starting = some current) :
    heights (windows config current target)
      = (agenda config.starting cursor).filter (· ≤ target) := by
  induction current using windows.induct config target generalizing cursor with
  | case1 current h ih =>
    have hle := Height.le_iff.2 (config.window.le_lastOf h)
    have hlast := config.window.lastOf_le h
    have hagenda := agenda_of_follows (follows_window config target hcur)
    have hwindow : (Height.range current (config.window.lastOf current target)).filter
        (· ≤ target) = Height.range current (config.window.lastOf current target) :=
      List.filter_eq_self.2 fun g hg =>
        decide_eq_true (Height.le_trans (Height.mem_range.1 hg).2 hlast)
    rw [Height.getLast?_range hle, Option.some_or] at hagenda
    rw [windows, dif_pos h, hagenda, List.filter_append, hwindow, heights, List.flatMap_cons]
    congr 1
    split
    · rename_i next hnext
      exact ih next hnext hnext
    · rename_i hnext
      rw [agenda_eq, hnext]
      rfl
  | case2 current h =>
    rw [windows, dif_neg h, eq_comm]
    refine List.filter_eq_nil_iff.2 fun g hg => ?_
    -- the agenda starts above the target
    have hpw := agenda_pairwise config.starting cursor
    rw [agenda_eq, hcur] at hg hpw
    have hlt := Height.lt_iff.1 (UInt64.not_le.1 h)
    rw [decide_eq_true_eq, Height.le_iff]
    rcases List.mem_cons.1 hg with rfl | hg
    · omega
    · have hgt := Height.lt_iff.1 ((List.pairwise_cons.1 hpw).1 g hg)
      omega

/-! ## The window that fails -/

/-- Every batch that is answered holds what fetching each of its heights came to, in whichever order
they were completed. -/
def Fetches (env : Surroundings σ) (f : Fetcher) : Prop :=
  ∀ status first last s txs finished, (env.fetch status first last s).1 = (txs, some finished) →
    ∃ outcome, Batch.Completes finished first last outcome ∧
      ∀ h ∈ Height.range first last, ∃ (τ : Type) (source : Source (StateM τ)) (t : τ),
        outcome h = (f.fetch source h t).1

theorem Fetches.of_gave (hf : Fetches env f) {first last : Height}
    {finished : List (Height × Outcome (List Command))} (hg : Gave env first last finished) :
    ∃ outcome, Batch.Completes finished first last outcome ∧
      ∀ h ∈ Height.range first last, ∃ (τ : Type) (source : Source (StateM τ)) (t : τ),
        outcome h = (f.fetch source h t).1 := by
  obtain ⟨status, s, txs, hg⟩ := hg
  exact hf _ _ _ _ _ _ hg

theorem fetches_of_script (chain : Sim.Script) (f : Fetcher) (permits now : Nat) (latest : Height)
    (refused : Height → Option SyncError) :
    Fetches (chain.surroundings f permits now latest refused) f := by
  intro status first last s txs finished hg
  cases hg
  exact ⟨_, .refl _, fun h _ => ⟨_, chain.source permits now, {}, rfl⟩⟩

/-- Every height asked for was fetched and accepted, and none was refused. -/
structure Clean (d : History) : Prop where
  accepted : d.accepted.map Prod.fst = d.asked
  refused : d.refused = []
  fetched : ∀ h ∈ d.asked, ∃ commands, (h, .done (.ok commands)) ∈ d.answers
  answers : ∀ p ∈ d.answers, ∃ commands, p.2 = .done (.ok commands)

theorem Clean.nothing : Clean {} := ⟨rfl, rfl, by simp, by simp⟩

theorem fetched_followedBy {d d' : History}
    (hd : ∀ h ∈ d.asked, ∃ commands, (h, .done (.ok commands)) ∈ d.answers)
    (hd' : ∀ h ∈ d'.asked, ∃ commands, (h, .done (.ok commands)) ∈ d'.answers) :
    ∀ h ∈ (d.followedBy d').asked,
      ∃ commands, (h, .done (.ok commands)) ∈ (d.followedBy d').answers := by
  intro h hh
  rcases List.mem_append.1 hh with hh | hh
  · obtain ⟨commands, hm⟩ := hd h hh
    exact ⟨commands, List.mem_append_left _ hm⟩
  · obtain ⟨commands, hm⟩ := hd' h hh
    exact ⟨commands, List.mem_append_right _ hm⟩

theorem Clean.followedBy {d d' : History} (hd : Clean d) (hd' : Clean d') :
    Clean (d.followedBy d') where
  accepted := by simp [History.followedBy, hd.accepted, hd'.accepted]
  refused := by simp [History.followedBy, hd.refused, hd'.refused]
  fetched := fetched_followedBy hd.fetched hd'.fetched
  answers := fun p hp => (List.mem_append.1 hp).elim (hd.answers p) (hd'.answers p)

theorem Whole.clean (hf : Fetches env f) {first last : Height} {d : History}
    (hd : Whole env first last d) : Clean d := by
  obtain ⟨outcome, hc, -⟩ := hf.of_gave hd.gave
  obtain ⟨done, hs⟩ := hd.settled
  obtain ⟨hheights, hmem⟩ := Batch.settle_eq_ok hs
  refine ⟨hd.accepted, hd.refused, fun h hh => ?_, hc.ok_of_settle hs⟩
  rw [hd.asked, ← hheights] at hh
  obtain ⟨p, hp, rfl⟩ := List.mem_map.1 hh
  exact ⟨p.2, hmem p hp⟩

theorem Course.failed (hf : Fetches env f) {target current : Height} {committed : Option Height}
    {H H' : History} {e : SyncError}
    (hc : Course env history config target current committed H (.error (.failed e)) H')
    (hcur : resumeHeight H.cursor config.starting = some current) :
    ∃ before first last after committed' d,
      windows config current target = before ++ (first, last) :: after ∧
      first ≤ last ∧ last ≤ target ∧
      Progress env config.starting target H.cursor d ∧ Clean d ∧ d.asked = heights before ∧
      Follows config.starting (H.followedBy d).cursor (Height.range first last) ∧
      WindowEnds env history first last committed' (H.followedBy d) (.error (.failed e)) H' := by
  generalize hr : (.error (.failed e) : Except Halt (Option Height)) = r at hc
  induction hc with
  | passed => cases hr
  | top => cases hr
  | @halt current committed H H' halt h hw =>
    obtain rfl := Except.error.inj hr
    rw [windows, dif_pos h]
    have hfollows := follows_window config target hcur
    rw [← H.followedBy_nothing] at hfollows hw
    exact ⟨[], _, _, _, committed, {}, rfl, Height.le_iff.2 (config.window.le_lastOf h),
      config.window.lastOf_le h, .nothing, .nothing, rfl, hfollows, hw⟩
  | @next current next committed committed' H H' H'' r h hw hn hc ih =>
    have hle := Height.le_iff.2 (config.window.le_lastOf h)
    obtain ⟨d, rfl, hp, hwhole⟩ :=
      hw.whole (follows_window config target hcur) hle (config.window.lastOf_le h)
    have hcur' : resumeHeight (H.followedBy d).cursor config.starting = some next := by
      simpa [History.followedBy, hwhole.cursor] using hn
    obtain ⟨before, first, last, after, committed', d', hws, hle', hlast', hp', hclean, hasked,
      hfollows, hw'⟩ := ih hcur' hr
    rw [History.followedBy_assoc] at hfollows hw'
    refine ⟨(current, config.window.lastOf current target) :: before, first, last, after,
      committed', d.followedBy d', ?_, hle', hlast', hp.followedBy hwhole.accepted hp',
      (hwhole.clean hf).followedBy hclean, ?_, hfollows, hw'⟩
    · rw [windows_next h hn, hws, List.cons_append]
    · simp [History.followedBy, heights, hwhole.asked, hasked]

/-! ## The failure -/

/-- The attempt failed in fetching: of the window the lowest height that failed is to blame, and
nothing of the window was handed over. -/
structure FetchFails (first last : Height) (d : History) (height : Height) (e : SyncError) : Prop where
  start : height = first
  refused : d.refused = []
  lowest : ∃ g, first ≤ g ∧ g ≤ last ∧ e.height? = some g ∧ (g, .done (.error e)) ∈ d.answers ∧
    ∀ g' e', (g', .done (.error e')) ∈ d.answers → g ≤ g'

/-- The attempt failed in committing a height. Everything that was asked for was fetched, but a
command of the height yields no event and nothing of it was handed over, or the handler refused its
events, having accepted what is below. -/
structure CommitFails (env : Surroundings σ) (history : σ → History) (H d : History)
    (height : Height) (e : SyncError) : Prop where
  fetched : ∀ h ∈ d.asked, ∃ commands, (h, .done (.ok commands)) ∈ d.answers
  answers : ∀ p ∈ d.answers, ∃ commands, p.2 = .done (.ok commands)
  cause : ∃ commands, (height, .done (.ok commands)) ∈ d.answers ∧
    ((d.refused = [] ∧ ∃ before c after fault, commands = before ++ c :: after ∧
        (∀ b ∈ before, ∃ event, b.execute = .ok event) ∧ c.payload = .error fault ∧
        e = .command height c.name c.version fault.message) ∨
      ∃ events status t, List.Forall₂ (fun c e => c.execute = .ok e) commands events ∧
        d.refused = [(height, events)] ∧ history t = H.followedBy { d with refused := [] } ∧
        (env.handle status height events t).1 = some (.error e))

theorem FetchFails.after {d d' : History} (hd : Clean d) {first last height : Height} {e : SyncError}
    (h : FetchFails first last d' height e) : FetchFails first last (d.followedBy d') height e := by
  obtain ⟨g, hfirst, hlast, hblame, hm, hlow⟩ := h.lowest
  refine ⟨h.start, ?_, g, hfirst, hlast, hblame, List.mem_append_right _ hm, ?_⟩
  · simp [History.followedBy, hd.refused, h.refused]
  · intro g' e' hg'
    rcases List.mem_append.1 hg' with hg' | hg'
    · obtain ⟨commands, hok⟩ := hd.answers _ hg'
      cases hok
    · exact hlow g' e' hg'

theorem CommitFails.after {d d' H : History} (hd : Clean d) {height : Height} {e : SyncError}
    (h : CommitFails env history (H.followedBy d) d' height e) :
    CommitFails env history H (d.followedBy d') height e := by
  obtain ⟨commands, hm, hcause⟩ := h.cause
  refine ⟨fetched_followedBy hd.fetched h.fetched, ?_, commands, List.mem_append_right _ hm, ?_⟩
  · exact fun p hp => (List.mem_append.1 hp).elim (hd.answers p) (h.answers p)
  · have hrefused : (d.followedBy d').refused = d'.refused := by
      simp [History.followedBy, hd.refused]
    rw [hrefused]
    rcases hcause with hcommand | ⟨events, status, t, hx, hr, ht, he⟩
    · exact .inl hcommand
    · refine .inr ⟨events, status, t, hx, hr, ?_, he⟩
      rw [ht]
      simp [History.followedBy, hd.refused, Option.or_assoc]

/-- How a window fails: its heights below one are accepted, in fetching or in committing which it
failed. -/
theorem WindowEnds.failed (hf : Fetches env f) {starting target first last : Height}
    {committed : Option Height} {H H' : History} {e : SyncError}
    (hfollows : Follows starting H.cursor (Height.range first last)) (hle : first ≤ last)
    (hlast : last ≤ target)
    (hw : WindowEnds env history first last committed H (.error (.failed e)) H') :
    ∃ height d rest, H' = H.followedBy d ∧ Progress env starting target H.cursor d ∧
      d.asked = Height.range first last ∧
      Height.range first last = d.accepted.map Prod.fst ++ height :: rest ∧
      (FetchFails first last d height e ∨ CommitFails env history H d height e) := by
  cases hw with
  | @unfetched finished _ hg hs =>
    obtain ⟨outcome, hc, hfetched⟩ := hf.of_gave hg
    obtain ⟨g, hmem, hout, hg₁, hlow⟩ := hc.lowest_of_settle hs
    obtain ⟨τ, source, t, ht⟩ := hfetched g hmem
    have hblame := Fetcher.height?_of_fetch (ht.symm.trans hout)
    obtain ⟨h1, h2⟩ := Height.mem_range.1 hmem
    refine ⟨first, .ofAnswers first last finished, _, rfl, progress_of_answers hfollows hlast hg,
      rfl, Height.range_eq_cons hle, .inl ⟨rfl, rfl, g, h1, h2, hblame, hg₁, hlow⟩⟩
  | @uncommitted finished done rest events height commands _ _ hg hs hd he =>
    obtain ⟨outcome, hc, -⟩ := hf.of_gave hg
    have hp := progress_of_settle hfollows hlast hg hs hd
    obtain ⟨hheights, hmem⟩ := Batch.settle_eq_ok hs
    have hok := hc.ok_of_settle hs
    have hfetched : ∀ h ∈ Height.range first last, ∃ commands, (h, .done (.ok commands)) ∈ finished := by
      intro h hh
      rw [← hheights] at hh
      obtain ⟨p, hp, rfl⟩ := List.mem_map.1 hh
      exact ⟨p.2, hmem p hp⟩
    have hthis : (height, .done (.ok commands)) ∈ finished := hmem (height, commands) (by simp)
    have hsplit : Height.range first last = events.map Prod.fst ++ height :: rest.map Prod.fst := by
      rw [← hheights, List.map_append, map_fst_of_carried hd, List.map_cons]
    cases he with
    | command hx =>
      exact ⟨height, _, rest.map Prod.fst, rfl, hp, rfl, hsplit, .inr ⟨hfetched, hok, commands,
        hthis, .inl ⟨rfl, Command.executeAll_eq_error_iff.1 hx⟩⟩⟩
    | @handler given status t hx ht hr =>
      have hexecute := (Command.executeAll_eq_ok_iff height).1 hx
      exact ⟨height, _, rest.map Prod.fst, History.followedBy_ofRefused _ _ rfl _ _, hp.refused _,
        rfl, hsplit, .inr ⟨hfetched, hok, commands, hthis,
          .inr ⟨given, status, t, hexecute, rfl, ht, hr⟩⟩⟩

/-- **What a failed attempt leaves behind.** An attempt that reads the cursor and fails has a
window and a height in it such that the handler has accepted the planned heights below that height,
each with the events of its commands, and no other, and that no height above the window was asked
for. Either the height is the first of the window, and of the heights of the window that could not be
fetched the lowest is to blame; or everything up to the end of the window was fetched, and the height
itself could not be committed. The target is that of the latest height this attempt was told. -/
theorem failed_leaves (hk : env.Keeps history) (hf : Fetches env f) {isRetry : Bool}
    {status : Status} {s : σ} {c : Option Height} {e : SyncError}
    (hread : (env.cursor status s).1 = some (.ok c))
    (hfails : (attempt env config isRetry (status, s)).1 = .error (.failed e)) :
    ∃ current latest first last height d,
      resumeHeight (history s).cursor config.starting = some current ∧
      (env.latest status (env.cursor status s).2).1 = some latest ∧
      let target := targetHeight latest current config.starting isRetry
      let planned := (agenda config.starting (history s).cursor).filter (· ≤ target)
      (first, last) ∈ windows config current target ∧ first ≤ height ∧ height ≤ last ∧
      history (attempt env config isRetry (status, s)).2.2 = (history s).followedBy d ∧
      d.accepted.map Prod.fst = planned.filter (· < height) ∧
      (∀ q ∈ d.accepted, ∃ commands, (q.1, .done (.ok commands)) ∈ d.answers ∧
        List.Forall₂ (fun c e => c.execute = .ok e) commands q.2) ∧
      d.asked = planned.filter (· ≤ last) ∧
      (FetchFails first last d height e ∨ CommitFails env history (history s) d height e) := by
  rcases ha : attempt env config isRetry (status, s) with ⟨r, status', s'⟩
  have hends := attempt_ends hk ha
  rw [ha] at hfails
  obtain rfl : r = .error (.failed e) := hfails
  change ∃ current latest first last height d, _ ∧ _ ∧ _ ∧ _ ∧ _ ∧ history s' = _ ∧ _
  generalize history s' = H' at hends
  cases hends with
  | unread hunread =>
    rw [hread] at hunread
    cases hunread
  | @walked current latest status' t r H' hcur hl hle hc hanswer =>
    obtain ⟨rfl, rfl⟩ := hanswer
    generalize htarget : targetHeight latest current config.starting isRetry = target at hc
    obtain ⟨before, first, last, after, committed, d, hws, hfirst, hlast, hp, hclean, hasked,
      hfollows, hw⟩ := hc.failed hf hcur
    obtain ⟨height, d', rest, rfl, hp', hasked', hsplit, hcause⟩ :=
      hw.failed hf hfollows hfirst hlast
    have hplan : heights (windows config current target) = _ := windows_flatMap hcur
    have hpw := (agenda_pairwise config.starting (history s).cursor).filter (· ≤ target)
    rw [← hplan, hws] at hpw
    -- the plan is what was accepted, the height, and what comes after it
    have hbelow : heights (before ++ (first, last) :: after) =
        (d.followedBy d').accepted.map Prod.fst ++ height :: (rest ++ heights after) := by
      simp [History.followedBy, heights, hclean.accepted, hasked, hsplit]
    have hupto : heights (before ++ (first, last) :: after) =
        (d.followedBy d').asked ++ heights after := by
      simp [History.followedBy, heights, hasked, hasked']
    have hlastAsked : (d.followedBy d').asked.getLast? = some last := by
      simp [History.followedBy, hasked', Height.getLast?_range hfirst]
    obtain ⟨h1, h2⟩ : first ≤ height ∧ height ≤ last :=
      Height.mem_range.1 (hsplit ▸ by simp)
    refine ⟨current, latest, first, last, height, d.followedBy d', hcur, hl, ?_⟩
    rw [htarget, ← hplan, hws]
    refine ⟨by simp, h1, h2, History.followedBy_assoc _ _ _, eq_filter_lt hpw hbelow, ?_,
      eq_filter_le hpw hupto hlastAsked, hcause.imp (·.after hclean) (·.after hclean)⟩
    intro q hq
    obtain ⟨commands, hm, hx⟩ := (hp.followedBy hclean.accepted hp').events q hq
    exact ⟨commands, hm, (Command.executeAll_eq_ok_iff q.1).1 hx⟩

def gapChain : Sim.Script where
  genesis := Sim.Script.emptyGenesis
  failing := [{ height := 4, error := .timeout 5, inResults := true }]

/-- An attempt on that chain by windows of two heights. -/
def gapAttempt : Except Halt (Option Height) × Status × History :=
  attempt (gapChain.surroundings {} 1 0 6 fun _ => none) { window := .ofSize 2 } false ({}, {})

theorem gap_leaves :
    gapAttempt.1 = .error (.failed (.fetch 4 "block_results: Request timed out after 5ms")) ∧
      gapAttempt.2.2.accepted.map Prod.fst = [0, 1, 2] ∧
      ∃ height d, gapAttempt.2.2 = ({} : History).followedBy d ∧
        d.accepted.map Prod.fst = ((agenda 0 none).filter (· ≤ 6)).filter (· < height) := by
  have hfails : gapAttempt.1
      = .error (.failed (.fetch 4 "block_results: Request timed out after 5ms")) := by
    decide +kernel
  obtain ⟨current, latest, first, last, height, d, hcur, hl, -, -, -, hd, ha, -⟩ :=
    failed_leaves (History.surroundings_keeps _ _ _) (fetches_of_script gapChain {} 1 0 6 _) rfl
      hfails
  obtain rfl : 6 = latest := Option.some.inj hl
  exact ⟨hfails, by decide +kernel, height, d, hd, ha⟩

end Manager

end ChainIndexer
