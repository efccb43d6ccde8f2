import ChainIndexer.Proofs.Backoff
import ChainIndexer.Proofs.Simulation

/-!
# The loop of the manager as a state machine

Between two rounds the manager is in a state of `Loop`, which is indexed by the outcomes of the
attempts so far, the newest first: an attempt is a retry exactly after a failure, and the pause
after a failure is that for the number of failures in a row. A run that ended did so during an
attempt or during a wait (`LoopEnds`).

The journal of a run (`Surroundings.journaled`) holds the status that the surroundings were told
with every call. What the manager is doing, what it has counted and how long it pauses is right at
every entry (`Entry.Right`). Where the handler keeps its promises, what the journal tells as
accepted is what the handler has accepted (`Kept`); only a write that the end of the run cuts off may
be in the store without being counted. All of this holds of every run (`follows_state_machine`).
-/

namespace ChainIndexer

variable {σ : Type}

/-! ## The journal -/

/-- What the manager asks of its surroundings. Of a height that is handed over it is told the answer,
if there was one. -/
inductive Deed
  | cursor
  | latest
  | fetch (first last : Height)
  | handle (height : Height) (events : List Event) (answer : Option (Except SyncError Unit))
  | news
  | pause (ms : UInt64)

/-- The status, the state in which the surroundings were asked, and for what. -/
structure Entry (σ : Type) where
  status : Status
  state : σ
  deed : Deed

namespace Deed

/-- What the manager is doing when it asks for this. -/
def activity : Deed → SyncState
  | news => .idle
  | pause _ => .backoff
  | _ => .syncing

def accepted? : Deed → Option (Height × List Event)
  | handle height events (some (.ok _)) => some (height, events)
  | _ => none

/-- Whether the attempt failed that is over when the manager asks for this. -/
def failed? : Deed → Option Bool
  | news => some false
  | pause _ => some true
  | _ => none

end Deed

/-- What was accepted, the newest first. -/
def accepted (journal : List (Entry σ)) : List (Height × List Event) :=
  journal.filterMap fun e => e.deed.accepted?

/-- Whether the attempts failed that are over, the newest first. -/
def outcomes (journal : List (Entry σ)) : List Bool := journal.filterMap fun e => e.deed.failed?

theorem accepted_cons (e : Entry σ) (journal : List (Entry σ)) :
    accepted (e :: journal) = e.deed.accepted?.toList ++ accepted journal := by
  unfold accepted
  rw [List.filterMap_cons]
  cases e.deed.accepted? with
  | none => rfl
  | some p => rfl

theorem outcomes_cons (e : Entry σ) (journal : List (Entry σ)) :
    outcomes (e :: journal) = e.deed.failed?.toList ++ outcomes journal := by
  unfold outcomes
  rw [List.filterMap_cons]
  cases e.deed.failed? with
  | none => rfl
  | some failed => rfl

/-- A state with a journal, the newest entry first. -/
structure Journaled (σ : Type) where
  rest : σ
  journal : List (Entry σ) := []

def Journaled.note (j : Journaled σ) (status : Status) (deed : Deed) (rest : σ) : Journaled σ :=
  ⟨rest, ⟨status, j.rest, deed⟩ :: j.journal⟩

def Surroundings.journaled (env : Surroundings σ) : Surroundings (Journaled σ) where
  cursor status j :=
    ((env.cursor status j.rest).1, j.note status .cursor (env.cursor status j.rest).2)
  latest status j :=
    ((env.latest status j.rest).1, j.note status .latest (env.latest status j.rest).2)
  fetch status first last j :=
    ((env.fetch status first last j.rest).1,
      j.note status (.fetch first last) (env.fetch status first last j.rest).2)
  handle status height events j :=
    ((env.handle status height events j.rest).1,
      j.note status (.handle height events (env.handle status height events j.rest).1)
        (env.handle status height events j.rest).2)
  markSeen j := { j with rest := env.markSeen j.rest }
  news status j := ((env.news status j.rest).1, j.note status .news (env.news status j.rest).2)
  pause status ms j :=
    ((env.pause status ms j.rest).1, j.note status (.pause ms) (env.pause status ms j.rest).2)

theorem journaled_annotates (env : Surroundings σ) :
    env.journaled.Annotates env Journaled.rest where
  cursor _ _ := rfl
  latest _ _ := rfl
  fetch _ _ _ _ := rfl
  handle _ _ _ _ := rfl
  markSeen _ := rfl
  news _ _ := rfl
  pause _ _ _ := rfl

/-! ## Counters -/

/-- The counters count so many failed attempts and these accepted heights. -/
structure Metrics.Counts (m : Metrics) (failed : Nat) (done : List (Height × List Event)) :
    Prop where
  syncFailures : m.syncFailures = UInt64.ofNat failed
  heightsSynced : m.heightsSynced = UInt64.ofNat done.length
  eventsHandled : m.eventsHandled = UInt64.ofNat (done.flatMap Prod.snd).length
  lastSynced_eq_none : m.lastSynced = none ↔ done = []
  greatest : ∀ {height}, m.lastSynced = some height →
    height ∈ done.map Prod.fst ∧ ∀ p ∈ done, p.1 ≤ height

namespace Metrics.Counts

variable {m : Metrics} {failed : Nat} {done : List (Height × List Event)}

theorem start : ({} : Metrics).Counts 0 [] where
  syncFailures := rfl
  heightsSynced := rfl
  eventsHandled := rfl
  lastSynced_eq_none := ⟨fun _ => rfl, fun _ => rfl⟩
  greatest := nofun

theorem countTxs (h : m.Counts failed done) (txs : Nat) : (m.countTxs txs).Counts failed done :=
  ⟨h.syncFailures, h.heightsSynced, h.eventsHandled, h.lastSynced_eq_none, h.greatest⟩

theorem countFailure (h : m.Counts failed done) : m.countFailure.Counts (failed + 1) done := by
  refine ⟨?_, h.heightsSynced, h.eventsHandled, h.lastSynced_eq_none, h.greatest⟩
  rw [UInt64.ofNat_add, ← h.syncFailures]
  rfl

theorem countHeight (h : m.Counts failed done) (height : Height) (events : List Event) :
    (m.countHeight height events.length).Counts failed ((height, events) :: done) := by
  refine ⟨h.syncFailures, ?_, ?_, ⟨nofun, nofun⟩, ?_⟩
  · rw [List.length_cons, UInt64.ofNat_add, ← h.heightsSynced]
    rfl
  · rw [List.flatMap_cons, List.length_append, Nat.add_comm, UInt64.ofNat_add, ← h.eventsHandled]
    rfl
  · intro greatest hgreatest
    unfold Metrics.countHeight at hgreatest
    cases hlast : m.lastSynced with
    | none =>
      rw [hlast] at hgreatest
      cases hgreatest
      rw [h.lastSynced_eq_none.1 hlast]
      simp
    | some last =>
      rw [hlast] at hgreatest
      cases hgreatest
      obtain ⟨hmem, hle⟩ := h.greatest hlast
      dsimp only
      constructor
      · rcases Height.sup_eq last height with heq | heq
        · rw [heq]
          exact List.mem_cons_of_mem _ hmem
        · rw [heq]
          exact List.mem_cons_self
      · intro p hp
        rw [Height.le_iff, Height.toNat_sup]
        rcases List.mem_cons.1 hp with rfl | hp
        · exact Nat.le_max_right _ _
        · exact Nat.le_trans (Height.le_iff.1 (hle p hp)) (Nat.le_max_left _ _)

end Metrics.Counts

/-! ## The machine -/

/-- How many failures in a row there are at the end, as far as that is counted. -/
def inARow (past : List Bool) : UInt32 :=
  UInt32.ofNat (min (past.takeWhile id).length 0xFFFFFFFF)

theorem toNat_inARow (past : List Bool) :
    (inARow past).toNat = min (past.takeWhile id).length 0xFFFFFFFF := by
  rw [inARow, UInt32.toNat_ofNat']
  exact Nat.mod_eq_of_lt (by omega)

theorem toNat_inARow_failed (past : List Bool) :
    (inARow (true :: past)).toNat = min ((past.takeWhile id).length + 1) 0xFFFFFFFF := by
  rw [toNat_inARow, List.takeWhile_cons]
  rfl

theorem inARow_pos (past : List Bool) : 0 < inARow past ↔ past.head? = some true := by
  rcases past with _ | ⟨_ | _, past⟩
  · simp [inARow]
  · simp [inARow]
  · have hpos : (0 : UInt32).toNat < (inARow (true :: past)).toNat := by
      rw [toNat_inARow_failed]
      exact Nat.lt_min.2 ⟨Nat.succ_pos _, by decide⟩
    simpa using UInt32.lt_iff_toNat_lt.2 hpos

theorem oneMore_inARow (past : List Bool) :
    Manager.oneMore (inARow past) = inARow (true :: past) := by
  have hlt := toNat_inARow past
  have hnext := toNat_inARow_failed past
  apply UInt32.toNat_inj.1
  unfold Manager.oneMore
  -- below the greatest count nothing wraps, and there the count stays
  split
  · rw [UInt32.toNat_add, hnext, hlt]
    simp
    omega
  · omega

def Status.attempting (status : Status) : Status := { status with activity := .syncing }

def Status.rested (status : Status) : Status := { status with activity := .idle, failures := 0 }

/-- The status after an attempt that failed, with the number of failures in a row. -/
def Status.repelled (status : Status) (failures : UInt32) : Status :=
  { status with activity := .backoff, failures, metrics := status.metrics.countFailure }

section

variable (env : Surroundings σ) (config : ManagerConfig)

/-- The next attempt, which is a retry exactly if the one before it failed, ends in this way. -/
def Attempted (past : List Bool) (status : Status) (s : σ) (r : Except Halt (Option Height))
    (state : Status × σ) : Prop :=
  Manager.attempt env config (past.head? == some true) (status.attempting, env.markSeen s)
    = (r, state)

def pauseAfter (past : List Bool) (status : Status) (s : σ) : Option Unit × σ :=
  env.pause (status.repelled (inARow (true :: past)))
    (Manager.retryDelay config.backoff (inARow (true :: past))) s

/-- The manager stands between two rounds, after attempts with these outcomes: the newest is the
first, and it is true where the attempt failed. -/
inductive Loop (s₀ : σ) : List Bool → Status × σ → Prop
  | start : Loop s₀ [] ({}, s₀)
  | succeeded {past status s height status' s' s''} (h : Loop s₀ past (status, s))
      (ha : Attempted env config past status s (.ok height) (status', s'))
      (hw : env.news status'.rested s' = (some (), s'')) :
      Loop s₀ (false :: past) (status'.rested, s'')
  | failed {past status s e status' s' s''} (h : Loop s₀ past (status, s))
      (ha : Attempted env config past status s (.error (.failed e)) (status', s'))
      (hw : pauseAfter env config past status' s' = (some (), s'')) :
      Loop s₀ (true :: past) (status'.repelled (inARow (true :: past)), s'')

/-- The run has ended, during an attempt or during the wait after one. -/
inductive LoopEnds (s₀ : σ) : List Bool → Status × σ → Prop
  | attempting {past status s state} (h : Loop env config s₀ past (status, s))
      (ha : Attempted env config past status s (.error .dropped) state) : LoopEnds s₀ past state
  | idle {past status s height status' s' s''} (h : Loop env config s₀ past (status, s))
      (ha : Attempted env config past status s (.ok height) (status', s'))
      (hw : env.news status'.rested s' = (none, s'')) :
      LoopEnds s₀ (false :: past) (status'.rested, s'')
  | backoff {past status s e status' s' s''} (h : Loop env config s₀ past (status, s))
      (ha : Attempted env config past status s (.error (.failed e)) (status', s'))
      (hw : pauseAfter env config past status' s' = (none, s'')) :
      LoopEnds s₀ (true :: past) (status'.repelled (inARow (true :: past)), s'')

end

variable {env : Surroundings σ} {config : ManagerConfig} {s₀ : σ}

theorem Loop.failures {past : List Bool} {state : Status × σ} (h : Loop env config s₀ past state) :
    state.1.failures = inARow past := by
  cases h with
  | start => rfl
  | succeeded => rfl
  | failed => rfl

theorem round_cases {past : List Bool} {status : Status} {s : σ} {r : Except Halt Unit}
    {state : Status × σ} (h : Loop env config s₀ past (status, s))
    (hround : Manager.round env config (status, s) = (r, state)) :
    (r = .ok () ∧ ∃ failed, Loop env config s₀ (failed :: past) state) ∨
      (r = .error .dropped ∧ ∃ past', LoopEnds env config s₀ past' state) := by
  -- the loop keeps the number of failures, so the flag and the pause follow from the outcomes
  have hfailures : status.failures = inARow past := h.failures
  have hretry : (decide (0 < status.failures)) = (past.head? == some true) := by
    rw [hfailures, Bool.eq_iff_iff, decide_eq_true_iff, inARow_pos, beq_iff_eq]
  have hmore : Manager.oneMore status.failures = inARow (true :: past) := by
    rw [hfailures, oneMore_inARow]
  unfold Manager.round at hround
  simp only [Act.bind_run, Act.modify_run, Act.get_run, Manager.enter, Act.update, Act.outcome,
    hretry, hmore] at hround
  rcases ha : Manager.attempt env config (past.head? == some true)
    (status.attempting, env.markSeen s) with ⟨(e | _) | height, status', s'⟩
  · rw [Status.attempting] at ha
    rw [ha] at hround
    dsimp only at hround
    simp only [Act.bind_run, Act.update, Act.ask] at hround
    rcases hw : pauseAfter env config past status' s' with ⟨_ | ⟨⟩, s''⟩
    all_goals rw [pauseAfter, Status.repelled] at hw
    · rw [hw] at hround
      cases hround
      exact .inr ⟨rfl, _, .backoff h ha hw⟩
    · rw [hw] at hround
      cases hround
      exact .inl ⟨rfl, true, .failed h ha hw⟩
  · rw [Status.attempting] at ha
    rw [ha] at hround
    cases hround
    exact .inr ⟨rfl, _, .attempting h ha⟩
  · rw [Status.attempting] at ha
    rw [ha] at hround
    dsimp only at hround
    simp only [Act.bind_run, Act.update, Act.ask] at hround
    rcases hw : env.news status'.rested s' with ⟨_ | ⟨⟩, s''⟩
    all_goals rw [Status.rested] at hw
    · rw [hw] at hround
      cases hround
      exact .inr ⟨rfl, _, .idle h ha hw⟩
    · rw [hw] at hround
      cases hround
      exact .inl ⟨rfl, false, .succeeded h ha hw⟩

/-- After so many rounds the machine has made so many attempts, or the run has ended. -/
theorem rounds_cases {n : Nat} {past : List Bool} {state state' : Status × σ} {r : Except Halt Unit}
    (h : Loop env config s₀ past state) (hrun : Manager.rounds env config n state = (r, state')) :
    (r = .ok () ∧ ∃ past', past'.length = past.length + n ∧ Loop env config s₀ past' state') ∨
      (r = .error .dropped ∧ ∃ past', LoopEnds env config s₀ past' state') := by
  induction n generalizing past state with
  | zero =>
    cases hrun
    exact .inl ⟨rfl, past, rfl, h⟩
  | succ n ih =>
    obtain ⟨status, s⟩ := state
    rw [Manager.rounds, Act.bind_run] at hrun
    rcases hround : Manager.round env config (status, s) with ⟨r', state₁⟩
    rw [hround] at hrun
    rcases round_cases h hround with ⟨rfl, failed, h₁⟩ | ⟨rfl, past', h₁⟩
    · rcases ih h₁ hrun with ⟨rfl, past', hlength, h'⟩ | hended
      · refine .inl ⟨rfl, past', ?_, h'⟩
        rw [hlength, List.length_cons]
        omega
      · exact .inr hended
    · cases hrun
      exact .inr ⟨rfl, past', h₁⟩

/-! ## What the journal tells -/

/-- The entry is right, after the older ones. What the manager is doing is what its status says, its
counters count all attempts that failed and all that was accepted so far, and it pauses as long as
the settings prescribe for the failures in a row, of which at most 2³² - 1 are counted. -/
structure Entry.Right (config : ManagerConfig) (e : Entry σ) (older : List (Entry σ)) : Prop where
  activity : e.status.activity = e.deed.activity
  counts : e.status.metrics.Counts ((outcomes (e :: older)).count true) (accepted older)
  pause : ∀ ms, e.deed = .pause ms → config.backoff.Prescribes
    (min ((outcomes (e :: older)).takeWhile id).length 0xFFFFFFFF) ms

/-- The journal tells of attempts with these outcomes, the status counts what the journal tells, and
every entry is right. -/
structure Told (config : ManagerConfig) (past : List Bool) (status : Status)
    (journal : List (Entry σ)) : Prop where
  outcomes : outcomes journal = past
  counts : status.metrics.Counts (past.count true) (accepted journal)
  entries : ∀ e older, e :: older <:+ journal → e.Right config older

namespace Told

variable {past : List Bool} {status : Status} {journal : List (Entry σ)}

theorem start : Told config [] {} ([] : List (Entry σ)) where
  outcomes := rfl
  counts := .start
  entries e older h := by cases List.suffix_nil.1 h

theorem entries_cons (h : Told config past status journal) {e : Entry σ}
    (he : e.Right config journal) :
    ∀ e' older, e' :: older <:+ e :: journal → e'.Right config older := by
  intro e' older hsuffix
  rcases List.suffix_cons_iff.1 hsuffix with heq | hsuffix
  · cases heq
    exact he
  · exact h.entries e' older hsuffix

theorem entry (h : Told config past status journal) (status' : Status) (state : σ) (deed : Deed)
    (hactivity : status'.activity = deed.activity) (haccepted : deed.accepted? = none)
    (hcounts : status'.metrics.Counts ((deed.failed?.toList ++ past).count true)
      (accepted journal))
    (hpause : ∀ ms, deed = .pause ms → config.backoff.Prescribes
      (min ((deed.failed?.toList ++ past).takeWhile id).length 0xFFFFFFFF) ms) :
    Told config (deed.failed?.toList ++ past) status' (⟨status', state, deed⟩ :: journal) := by
  have houtcomes : ChainIndexer.outcomes (⟨status', state, deed⟩ :: journal)
      = deed.failed?.toList ++ past := by
    rw [outcomes_cons, h.outcomes]
  have hdone : accepted (⟨status', state, deed⟩ :: journal) = accepted journal :=
    List.filterMap_cons_none haccepted
  refine ⟨houtcomes, ?_, h.entries_cons ⟨hactivity, ?_, ?_⟩⟩
  · rw [hdone]
    exact hcounts
  · rw [houtcomes]
    exact hcounts
  · rw [houtcomes]
    exact hpause

theorem asked (h : Told config past status journal) (hsyncing : status.activity = .syncing)
    (state : σ) {deed : Deed} (hactivity : deed.activity = .syncing)
    (haccepted : deed.accepted? = none) (hfailed : deed.failed? = none) :
    Told config past status (⟨status, state, deed⟩ :: journal) := by
  have hentry := h.entry status state deed (hsyncing.trans hactivity.symm) haccepted
  rw [hfailed] at hentry
  refine hentry h.counts fun ms hms => ?_
  rw [hms] at hfailed
  cases hfailed

theorem countTxs (h : Told config past status journal) (txs : Nat) :
    Told config past { status with metrics := status.metrics.countTxs txs } journal :=
  ⟨h.outcomes, h.counts.countTxs txs, h.entries⟩

theorem accept (h : Told config past status journal) (hsyncing : status.activity = .syncing)
    (state : σ) (height : Height) (events : List Event) :
    Told config past { status with metrics := status.metrics.countHeight height events.length }
      (⟨status, state, .handle height events (some (.ok ()))⟩ :: journal) := by
  refine ⟨h.outcomes, h.counts.countHeight height events, h.entries_cons ⟨hsyncing, ?_, nofun⟩⟩
  change status.metrics.Counts ((ChainIndexer.outcomes journal).count true) (accepted journal)
  rw [h.outcomes]
  exact h.counts

end Told

theorem journaled_preserves (env : Surroundings σ) (config : ManagerConfig) (past : List Bool) :
    env.journaled.Preserves fun status j =>
      status.activity = .syncing ∧ Told config past status j.journal where
  cursor h := ⟨h.1, h.2.asked h.1 _ rfl rfl rfl⟩
  latest h := ⟨h.1, h.2.asked h.1 _ rfl rfl rfl⟩
  fetch h _ _ := ⟨h.1, (h.2.asked h.1 _ rfl rfl rfl).countTxs _⟩
  refuse := by
    intro status j h height events hrefused
    refine ⟨h.1, h.2.asked h.1 _ rfl ?_ rfl⟩
    have hanswer : (env.handle status height events j.rest).1 ≠ some (.ok ()) := hrefused
    rcases hr : (env.handle status height events j.rest).1 with _ | e | ⟨⟩
    · rfl
    · rfl
    · exact absurd hr hanswer
  accept := by
    intro status j h height events haccept
    have hanswer : (env.handle status height events j.rest).1 = some (.ok ()) := haccept
    refine ⟨h.1, ?_⟩
    change Told config past _ (⟨status, j.rest, .handle height events _⟩ :: j.journal)
    rw [hanswer]
    exact h.2.accept h.1 j.rest height events

theorem Attempted.told {env : Surroundings σ} {past : List Bool} {status : Status}
    {s : Journaled σ} {r : Except Halt (Option Height)} {state : Status × Journaled σ}
    (h : Told config past status s.journal)
    (ha : Attempted env.journaled config past status s r state) :
    Told config past state.1 state.2.journal := by
  obtain ⟨status', s'⟩ := state
  -- marking a height as seen makes no entry
  have hstart : status.attempting.activity = .syncing ∧
      Told config past status.attempting (env.journaled.markSeen s).journal :=
    ⟨rfl, h.outcomes, h.counts, h.entries⟩
  exact (Manager.attempt_preserves (journaled_preserves env config past) config _ hstart ha).2

theorem Told.rested {env : Surroundings σ} {past : List Bool} {status : Status}
    {j j' : Journaled σ} {r : Option Unit} (h : Told config past status j.journal)
    (hw : env.journaled.news status.rested j = (r, j')) :
    Told config (false :: past) status.rested j'.journal := by
  have hj : j' = j.note status.rested .news (env.news status.rested j.rest).2 :=
    (congrArg Prod.snd hw).symm
  rw [hj]
  refine h.entry _ _ .news rfl rfl ?_ nofun
  change status.metrics.Counts ((false :: past).count true) (accepted j.journal)
  rw [List.count_cons_of_ne (by decide)]
  exact h.counts

theorem Told.repelled {env : Surroundings σ} {past : List Bool} {status : Status}
    {j j' : Journaled σ} {r : Option Unit} (h : Told config past status j.journal)
    (hw : pauseAfter env.journaled config past status j = (r, j')) :
    Told config (true :: past) (status.repelled (inARow (true :: past))) j'.journal := by
  have hj := (congrArg Prod.snd hw).symm
  dsimp only at hj
  rw [hj]
  refine h.entry _ _ (.pause _) rfl rfl ?_ fun ms hms => ?_
  · change status.metrics.countFailure.Counts ((true :: past).count true) (accepted j.journal)
    rw [List.count_cons_self]
    exact h.counts.countFailure
  · cases hms
    have hpause := Manager.prescribes_retryDelay config.backoff (inARow (true :: past))
    rwa [toNat_inARow] at hpause

theorem Loop.told {env : Surroundings σ} {s : σ} {past : List Bool}
    {state : Status × Journaled σ} (h : Loop env.journaled config ⟨s, []⟩ past state) :
    Told config past state.1 state.2.journal := by
  induction h with
  | start => exact .start
  | succeeded h ha hw ih => exact (ha.told ih).rested hw
  | failed h ha hw ih => exact (ha.told ih).repelled hw

theorem LoopEnds.told {env : Surroundings σ} {s : σ} {past : List Bool}
    {state : Status × Journaled σ} (h : LoopEnds env.journaled config ⟨s, []⟩ past state) :
    Told config past state.1 state.2.journal := by
  cases h with
  | attempting h ha => exact ha.told h.told
  | idle h ha hw => exact (ha.told h.told).rested hw
  | backoff h ha hw => exact (ha.told h.told).repelled hw

/-! ## What the handler has accepted -/

section

variable {history : σ → History} {base : List (Height × List Event)}

/-- At every entry the handler has accepted what the journal tells, after what it had before. At the
end it has accepted some more, of which the manager was told nothing. -/
structure Kept (history : σ → History) (base : List (Height × List Event)) (j : Journaled σ)
    (untold : List (Height × List Event)) : Prop where
  entries : ∀ e older, e :: older <:+ j.journal →
    (history e.state).accepted = base ++ (accepted older).reverse
  rest : (history j.rest).accepted = base ++ (accepted j.journal).reverse ++ untold

/-- There is at most one height that the manager was not told of, and the call that handed it over is
the last of all and had no answer. -/
def CutOff (journal : List (Entry σ)) (untold : List (Height × List Event)) : Prop :=
  untold = [] ∨ ∃ e height events, journal.head? = some e ∧
    e.deed = .handle height events none ∧ untold = [(height, events)]

theorem Kept.start (history : σ → History) (s : σ) : Kept history (history s).accepted ⟨s, []⟩ [] where
  entries e older h := by cases List.suffix_nil.1 h
  rest := by simp [accepted]

theorem Kept.note {j : Journaled σ} {untold : List (Height × List Event)} {rest : σ} {deed : Deed}
    (h : Kept history base j []) (status : Status)
    (hrest : (history rest).accepted
      = (history j.rest).accepted ++ deed.accepted?.toList ++ untold) :
    Kept history base (j.note status deed rest) untold where
  entries e older hsuffix := by
    rcases List.suffix_cons_iff.1 hsuffix with heq | hsuffix
    · cases heq
      simpa using h.rest
    · exact h.entries e older hsuffix
  rest := by
    have hdeed : deed.accepted?.toList.reverse = deed.accepted?.toList := by
      cases deed.accepted? with
      | none => rfl
      | some p => rfl
    change (history rest).accepted = base ++ (accepted (_ :: j.journal)).reverse ++ untold
    rw [hrest, h.rest, accepted_cons, List.reverse_append, hdeed]
    simp only [List.append_assoc, List.nil_append]

theorem Kept.unchanged {j : Journaled σ} {rest : σ} {deed : Deed} (h : Kept history base j [])
    (status : Status) (hdeed : deed.accepted? = none)
    (hrest : (history rest).accepted = (history j.rest).accepted) :
    Kept history base (j.note status deed rest) [] := by
  apply h.note
  rw [hdeed, hrest, Option.toList_none, List.append_nil, List.append_nil]

theorem Kept.cut {j : Journaled σ} (h : Kept history base j []) :
    ∃ untold, Kept history base j untold ∧ CutOff j.journal untold :=
  ⟨[], h, .inl rfl⟩

theorem journaled_keeps {env : Surroundings σ} (hk : env.Keeps history) :
    env.journaled.PreservesUntil (fun _ j => Kept history base j [])
      fun _ j => ∃ untold, Kept history base j untold ∧ CutOff j.journal untold where
  cursor {status j} h := by
    have hnote : Kept history base (j.note status .cursor (env.cursor status j.rest).2) [] :=
      h.unchanged status rfl (by rw [hk.cursor])
    dsimp only [Surroundings.journaled]
    cases (env.cursor status j.rest).1 with
    | none => exact hnote.cut
    | some _ => exact hnote
  latest {status j} h := by
    have hnote : Kept history base (j.note status .latest (env.latest status j.rest).2) [] :=
      h.unchanged status rfl (by rw [hk.latest])
    dsimp only [Surroundings.journaled]
    cases (env.latest status j.rest).1 with
    | none => exact hnote.cut
    | some _ => exact hnote
  fetch {status j} h first last := by
    have haccepted : (history (env.fetch status first last j.rest).2).accepted
        = (history j.rest).accepted := by
      rcases hr : (env.fetch status first last j.rest).1 with ⟨txs, _ | finished⟩
      · rcases hk.silent hr with hs | hs
        · rw [hs]
        · rw [hs]
          exact List.append_nil _
      · rw [hk.answers hr]
        exact List.append_nil _
    have hnote : Kept history base (j.note status (.fetch first last) _) [] :=
      h.unchanged status rfl haccepted
    dsimp only [Surroundings.journaled]
    cases (env.fetch status first last j.rest).1.2 with
    | none => exact hnote.cut
    | some _ => exact hnote
  drop {status j} h height events hr := by
    have hr' : (env.handle status height events j.rest).1 = none := hr
    dsimp only [Surroundings.journaled]
    rw [hr']
    rcases hk.drops hr' with hs | ⟨-, hs⟩
    · exact (h.unchanged status rfl (by rw [hs])).cut
    · refine ⟨[(height, events)], h.note status ?_, .inr ⟨_, height, events, rfl, rfl, rfl⟩⟩
      rw [hs]
      simp [History.followedBy, History.ofAccepted, Deed.accepted?]
  refuse {status j} h height events e hr := by
    have hr' : (env.handle status height events j.rest).1 = some (.error e) := hr
    dsimp only [Surroundings.journaled]
    rw [hr']
    refine h.unchanged status rfl ?_
    rw [hk.refuses hr']
    exact List.append_nil _
  accept {status j} h height events hr := by
    have hr' : (env.handle status height events j.rest).1 = some (.ok ()) := hr
    dsimp only [Surroundings.journaled]
    rw [hr']
    refine h.note status ?_
    rw [(hk.accepts hr').2, List.append_nil]
    rfl

theorem Attempted.kept {env : Surroundings σ} (hk : env.Keeps history) {past : List Bool}
    {status : Status} {s : Journaled σ} {r : Except Halt (Option Height)}
    {state : Status × Journaled σ} (h : Kept history base s [])
    (ha : Attempted env.journaled config past status s r state) :
    Act.After (Kept history base state.2 [])
      (∃ untold, Kept history base state.2 untold ∧ CutOff state.2.journal untold) r := by
  obtain ⟨status', s'⟩ := state
  have hstart : Kept history base (env.journaled.markSeen s) [] := by
    refine ⟨h.entries, ?_⟩
    change (history (env.markSeen s.rest)).accepted = _
    rw [hk.markSeen]
    exact h.rest
  exact Manager.attempt_until (journaled_keeps hk) config _ hstart ha

theorem Kept.rested {env : Surroundings σ} (hk : env.Keeps history) {status : Status}
    {j j' : Journaled σ} {r : Option Unit} (h : Kept history base j [])
    (hw : env.journaled.news status j = (r, j')) : Kept history base j' [] := by
  have hj : j' = j.note status .news (env.news status j.rest).2 := (congrArg Prod.snd hw).symm
  rw [hj]
  exact h.unchanged status rfl (by rw [hk.news])

theorem Kept.repelled {env : Surroundings σ} (hk : env.Keeps history) {past : List Bool}
    {status : Status} {j j' : Journaled σ} {r : Option Unit} (h : Kept history base j [])
    (hw : pauseAfter env.journaled config past status j = (r, j')) : Kept history base j' [] := by
  have hj := (congrArg Prod.snd hw).symm
  dsimp only at hj
  rw [hj]
  exact h.unchanged _ rfl (by rw [hk.pause])

theorem Loop.kept {env : Surroundings σ} (hk : env.Keeps history) {s : σ} {past : List Bool}
    {state : Status × Journaled σ} (h : Loop env.journaled config ⟨s, []⟩ past state) :
    Kept history (history s).accepted state.2 [] := by
  induction h with
  | start => exact .start history s
  | succeeded h ha hw ih => exact Kept.rested hk (ha.kept hk ih) hw
  | failed h ha hw ih => exact Kept.repelled hk (ha.kept hk ih) hw

theorem LoopEnds.kept {env : Surroundings σ} (hk : env.Keeps history) {s : σ} {past : List Bool}
    {state : Status × Journaled σ} (h : LoopEnds env.journaled config ⟨s, []⟩ past state) :
    ∃ untold, Kept history (history s).accepted state.2 untold ∧ CutOff state.2.journal untold := by
  cases h with
  | attempting h ha => exact ha.kept hk (h.kept hk)
  | idle h ha hw => exact (Kept.rested hk (ha.kept hk (h.kept hk)) hw).cut
  | backoff h ha hw => exact (Kept.repelled hk (ha.kept hk (h.kept hk)) hw).cut

end

/-- **The loop follows its state machine.** A run of a new manager, told with its journal, comes
after so many rounds to a state of the machine, or it has ended in one and stopped the manager.
Either way every entry of the journal is right and the counters count what it tells. Where the
handler keeps its promises, it has accepted at every entry just what is counted; so it has at the
end, unless the end cut off a write, whose height may be accepted and is not counted. -/
theorem follows_state_machine (env : Surroundings σ) (config : ManagerConfig) (s : σ) (n : Nat) :
    let run := Manager.rounds env.journaled config n ({}, ⟨s, []⟩)
    Manager.rounds env config n ({}, s) = (run.1, run.2.1, run.2.2.rest) ∧
    (∃ past, Told config past run.2.1 run.2.2.journal ∧
      (run.1 = .ok () ∧ past.length = n ∧ Loop env.journaled config ⟨s, []⟩ past run.2 ∧
          Manager.runUntil env config n s = none ∨
        run.1 = .error .dropped ∧ LoopEnds env.journaled config ⟨s, []⟩ past run.2 ∧
          Manager.runUntil env config n s
            = some ({ run.2.1 with activity := .stopped }, run.2.2.rest))) ∧
    ∀ history, env.Keeps history → ∃ untold,
      Kept history (history s).accepted run.2.2 untold ∧ CutOff run.2.2.journal untold ∧
        (run.1 = .ok () → untold = []) := by
  intro run
  have hsame : Manager.rounds env config n ({}, s) = (run.1, run.2.1, run.2.2.rest) :=
    Manager.rounds_annotates (journaled_annotates env) config n {} ⟨s, []⟩
  refine ⟨hsame, ?_⟩
  have hrun : Manager.rounds env.journaled config n ({}, ⟨s, []⟩) = (run.1, run.2) := rfl
  rcases rounds_cases .start hrun with
    ⟨hr, past, hlength, h⟩ | ⟨hr, past, h⟩
  · refine ⟨⟨past, h.told, .inl ⟨hr, ?_, h, ?_⟩⟩, fun history hk =>
      ⟨[], h.kept hk, .inl rfl, fun _ => rfl⟩⟩
    · rw [hlength, List.length_nil, Nat.zero_add]
    · rw [Manager.runUntil, Manager.run, hsame, hr]
      rfl
  · refine ⟨⟨past, h.told, .inr ⟨hr, h, ?_⟩⟩, fun history hk => ?_⟩
    · rw [Manager.runUntil, Manager.run, hsame, hr]
      rfl
    · obtain ⟨untold, hkept, hcut⟩ := h.kept hk
      exact ⟨untold, hkept, hcut, fun hok => by rw [hr] at hok; cases hok⟩

/-- The same surroundings, which end the run during the write of a height. It is written. -/
def Surroundings.cutAt (env : Surroundings σ) (cut : Height) : Surroundings σ :=
  { env with
    handle := fun status height events s =>
      match env.handle status height events s with
      | (some (.ok ()), s) => (if height = cut then none else some (.ok ()), s)
      | answered => answered }

theorem Surroundings.Keeps.cutAt {history : σ → History} (hk : env.Keeps history) (cut : Height) :
    (env.cutAt cut).Keeps history where
  cursor := hk.cursor
  reads := hk.reads
  latest := hk.latest
  answers := hk.answers
  silent := hk.silent
  accepts {status height events s} h := by
    have hkept := @hk.accepts status height events s
    dsimp only [Surroundings.cutAt] at h ⊢
    rcases hr : env.handle status height events s with ⟨_ | e | ⟨⟩, s'⟩ <;> rw [hr] at h hkept
    · cases h
    · cases h
    · exact hkept rfl
  refuses {status height events s e} h := by
    have hkept := @hk.refuses status height events s e
    dsimp only [Surroundings.cutAt] at h ⊢
    rcases hr : env.handle status height events s with ⟨_ | e | ⟨⟩, s'⟩ <;> rw [hr] at h hkept
    · cases h
    · exact hkept h
    · dsimp only at h
      split at h <;> cases h
  drops {status height events s} h := by
    have haccepts := @hk.accepts status height events s
    have hdrops := @hk.drops status height events s
    dsimp only [Surroundings.cutAt] at h ⊢
    rcases hr : env.handle status height events s with ⟨_ | e | ⟨⟩, s'⟩ <;>
      rw [hr] at h haccepts hdrops
    · exact hdrops rfl
    · cases h
    · exact .inr (haccepts rfl)
  markSeen := hk.markSeen
  news := hk.news
  pause := hk.pause

/-- Height 2 is written when the run ends. -/
def cutRun : Except Halt Unit × Status × Journaled History :=
  Manager.rounds ((History.surroundings 3 (fun _ => .ok []) fun _ => none).cutAt 2).journaled {} 1
    ({}, ⟨{}, []⟩)

theorem cutRun_follows :
    cutRun.1 = .error .dropped ∧ cutRun.2.1.metrics.heightsSynced = 2 ∧
      cutRun.2.2.rest.accepted.map Prod.fst = [0, 1, 2] ∧
      ∃ untold, Kept id [] cutRun.2.2 untold ∧ CutOff cutRun.2.2.journal untold := by
  obtain ⟨-, -, hkept⟩ := follows_state_machine
    ((History.surroundings 3 (fun _ => .ok []) fun _ => none).cutAt 2) {} {} 1
  obtain ⟨untold, h, hcut, -⟩ := hkept id ((History.surroundings_keeps _ _ _).cutAt 2)
  exact ⟨by decide +kernel, by decide +kernel, by decide +kernel, untold, h, hcut⟩

/-- The first read of the cursor fails; then there is one height without events to commit. -/
def recovering : Surroundings Nat where
  cursor _ s := if s = 0 then (some (.error (.storage "down")), 1) else (some (.ok none), s)
  latest _ s := (some 0, s)
  fetch _ first _ s := ((2, some [(first, .done (.ok []))]), s)
  handle _ _ _ s := (some (.ok ()), s)
  markSeen s := s
  news _ s := (none, s)
  pause _ _ s := (some (), s)

example :
    let run := Manager.rounds recovering.journaled {} 2 ({}, ⟨0, []⟩)
    outcomes run.2.2.journal = [false, true] ∧
      run.2.1.metrics
        = { heightsSynced := 1, syncFailures := 1, txsFetched := 2, lastSynced := some 0 } := by
  decide +kernel

end ChainIndexer
