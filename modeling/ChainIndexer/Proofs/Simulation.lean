import ChainIndexer.Proofs.Attempt

/-!
# Two managers side by side

Two managers whose surroundings give the same answers do the same. A relation between the states of
their surroundings that every call keeps, together with what the managers count of it
(`Surroundings.Simulates`), is kept by each action and so by a whole attempt
(`Manager.attempt_simulates`); one that does not depend on the status is kept by any number of
rounds (`Manager.rounds_simulates`). A call that is not answered ends the run, and need only lead to
states that a second relation relates.

* With itself at its side, an attempt keeps every property that each call keeps until the run ends
  (`Manager.attempt_until`, `Manager.attempt_preserves`).
* Notes that surroundings take beside what they do change no run (`Manager.rounds_annotates`).
-/

namespace ChainIndexer

variable {σ τ α β : Type}

/-! ## The relation -/

/-- Operations in related states give the same answer. They lead to related states or, without an
answer, to states in which the run is over. -/
def Alike (rel ended : τ → σ → Prop) (op' : τ → Option α × τ) (op : σ → Option α × σ) : Prop :=
  ∀ t s, rel t s → ∃ a t' s', op' t = (a, t') ∧ op s = (a, s') ∧
    a.elim (ended t' s') fun _ => rel t' s'

theorem Alike.of_rel {rel : τ → σ → Prop} {op' : τ → Option α × τ} {op : σ → Option α × σ}
    (h : ∀ t s, rel t s → ∃ a t' s', op' t = (a, t') ∧ op s = (a, s') ∧ rel t' s') :
    Alike rel rel op' op := by
  intro t s hrel
  obtain ⟨a, t', s', hop', hop, hrel'⟩ := h t s hrel
  refine ⟨a, t', s', hop', hop, ?_⟩
  cases a with
  | none => exact hrel'
  | some a => exact hrel'

/-- Every call that an attempt makes keeps a relation, with what the manager counts of it. -/
structure Surroundings.Simulates (env' : Surroundings τ) (env : Surroundings σ)
    (rel ended : Status → τ → σ → Prop) : Prop where
  cursor : ∀ status, Alike (rel status) (ended status) (env'.cursor status) (env.cursor status)
  latest : ∀ status, Alike (rel status) (ended status) (env'.latest status) (env.latest status)
  fetch : ∀ {status t s}, rel status t s → ∀ first last, ∃ txs finished t' s',
    env'.fetch status first last t = ((txs, finished), t') ∧
      env.fetch status first last s = ((txs, finished), s') ∧
      let counted := { status with metrics := status.metrics.countTxs txs }
      finished.elim (ended counted t' s') fun _ => rel counted t' s'
  handle : ∀ {status t s}, rel status t s → ∀ height events, ∃ r t' s',
    env'.handle status height events t = (r, t') ∧
      env.handle status height events s = (r, s') ∧
      (r = none → ended status t' s') ∧
      (∀ e, r = some (.error e) → rel status t' s') ∧
      (r = some (.ok ()) →
        rel { status with metrics := status.metrics.countHeight height events.length } t' s')

namespace Act

variable {rel ended : Status → τ → σ → Prop}

/-- What holds after an action with this result: the second where the run ended. -/
def After (p q : Prop) : Except Halt α → Prop
  | .error .dropped => q
  | _ => p

theorem After.self {p : Prop} {r : Except Halt α} (h : After p p r) : p := by
  rcases r with (e | _) | a
  · exact h
  · exact h
  · exact h

theorem After.imp {p p' q q' : Prop} {r : Except Halt α} (h : After p q r) (hp : p → p')
    (hq : q → q') : After p' q' r := by
  rcases r with (e | _) | a
  · exact hp h
  · exact hq h
  · exact hp h

/-- Actions in related states have the same result and status. They lead to related states or, where
the run ended, to states in which it is over. -/
def Simulates (rel ended : Status → τ → σ → Prop) (act' : Act τ α) (act : Act σ α) : Prop :=
  ∀ status t s, rel status t s → ∃ r status' t' s',
    act' (status, t) = (r, status', t') ∧ act (status, s) = (r, status', s') ∧
      After (rel status' t' s') (ended status' t' s') r

theorem Simulates.pure (a : α) : Simulates rel ended (pure a) (pure a) :=
  fun _ _ _ h => ⟨_, _, _, _, rfl, rfl, h⟩

theorem Simulates.fail (e : SyncError) : Simulates rel ended (Act.fail e : Act τ α) (Act.fail e) :=
  fun _ _ _ h => ⟨_, _, _, _, rfl, rfl, h⟩

theorem Simulates.update {rel ended : τ → σ → Prop} (f : Status → Status) :
    Simulates (fun _ => rel) (fun _ => ended) (Act.update f) (Act.update f) :=
  fun _ _ _ h => ⟨_, _, _, _, rfl, rfl, h⟩

theorem Simulates.bind {x' : Act τ α} {x : Act σ α} {f' : α → Act τ β} {f : α → Act σ β}
    (hx : Simulates rel ended x' x) (hf : ∀ a, Simulates rel ended (f' a) (f a)) :
    Simulates rel ended (x' >>= f') (x >>= f) := by
  intro status t s hrel
  obtain ⟨r, status', t', s', hx', hx, hrel⟩ := hx status t s hrel
  rw [bind_run, bind_run, hx', hx]
  rcases r with (e | _) | a
  · exact ⟨_, _, _, _, rfl, rfl, hrel⟩
  · exact ⟨_, _, _, _, rfl, rfl, hrel⟩
  · exact hf a status' t' s' hrel

theorem Simulates.ask {op' : Status → τ → Option α × τ} {op : Status → σ → Option α × σ}
    (h : ∀ status, Alike (rel status) (ended status) (op' status) (op status)) :
    Simulates rel ended (Act.ask op') (Act.ask op) := by
  intro status t s hrel
  obtain ⟨r, t', s', hop', hop, hrel⟩ := h status t s hrel
  dsimp only [Act.ask]
  rw [hop', hop]
  cases r with
  | none => exact ⟨_, _, _, _, rfl, rfl, hrel⟩
  | some a => exact ⟨_, _, _, _, rfl, rfl, hrel⟩

theorem Simulates.demand {op' : Status → τ → Option (Except SyncError α) × τ}
    {op : Status → σ → Option (Except SyncError α) × σ}
    (h : ∀ status, Alike (rel status) (ended status) (op' status) (op status)) :
    Simulates rel ended (Act.demand op') (Act.demand op) := by
  intro status t s hrel
  obtain ⟨r, t', s', hop', hop, hrel⟩ := h status t s hrel
  dsimp only [Act.demand]
  rw [hop', hop]
  rcases r with _ | e | a
  · exact ⟨_, _, _, _, rfl, rfl, hrel⟩
  · exact ⟨_, _, _, _, rfl, rfl, hrel⟩
  · exact ⟨_, _, _, _, rfl, rfl, hrel⟩

theorem Simulates.outcome {act' : Act τ α} {act : Act σ α} (h : Simulates rel ended act' act) :
    Simulates rel ended (Act.outcome act') (Act.outcome act) := by
  intro status t s hrel
  obtain ⟨r, status', t', s', hact', hact, hrel⟩ := h status t s hrel
  dsimp only [Act.outcome]
  rw [hact', hact]
  rcases r with (e | _) | a
  · exact ⟨_, _, _, _, rfl, rfl, hrel⟩
  · exact ⟨_, _, _, _, rfl, rfl, hrel⟩
  · exact ⟨_, _, _, _, rfl, rfl, hrel⟩

end Act

/-! ## An attempt -/

namespace Manager

variable {env' : Surroundings τ} {env : Surroundings σ} {rel ended : Status → τ → σ → Prop}

theorem commit_simulates (h : env'.Simulates env rel ended) (height : Height) (commands : List Command) :
    Act.Simulates rel ended (commit env' height commands) (commit env height commands) := by
  intro status t s hrel
  unfold commit
  cases Command.executeAll height commands with
  | error e => exact ⟨_, _, _, _, rfl, rfl, hrel⟩
  | ok events =>
    obtain ⟨r, t', s', hop', hop, hdrop, hrefuse, haccept⟩ := h.handle hrel height events
    dsimp only
    rw [Act.bind_run, Act.bind_run, Act.demand, Act.demand, hop', hop]
    rcases r with _ | e | ⟨⟩
    · exact ⟨_, _, _, _, rfl, rfl, hdrop rfl⟩
    · exact ⟨_, _, _, _, rfl, rfl, hrefuse e rfl⟩
    · exact ⟨_, _, _, _, rfl, rfl, haccept rfl⟩

theorem commitAll_simulates (h : env'.Simulates env rel ended) (heights : List (Height × List Command))
    (last : Option Height) :
    Act.Simulates rel ended (commitAll env' heights last) (commitAll env heights last) := by
  induction heights generalizing last with
  | nil => exact .pure last
  | cons p heights ih => exact (commit_simulates h p.1 p.2).bind fun _ => ih _

theorem fetch_simulates (h : env'.Simulates env rel ended) (first last : Height) :
    Act.Simulates rel ended (fetch env' first last) (fetch env first last) := by
  intro status t s hrel
  obtain ⟨txs, finished, t', s', hop', hop, hrel⟩ := h.fetch hrel first last
  dsimp only [fetch]
  rw [hop', hop]
  cases finished with
  | none => exact ⟨_, _, _, _, rfl, rfl, hrel⟩
  | some finished => exact ⟨_, _, _, _, rfl, rfl, hrel⟩

theorem window_simulates (h : env'.Simulates env rel ended) (first last : Height)
    (committed : Option Height) :
    Act.Simulates rel ended (window env' first last committed) (window env first last committed) := by
  refine (fetch_simulates h first last).bind fun finished => ?_
  cases Batch.settle first last finished with
  | error e => exact .fail e
  | ok heights => exact commitAll_simulates h heights committed

/-- A walk is over when the target is passed; else it is a window and, where it goes on, the walk
after it. -/
theorem walk_bind (env : Surroundings σ) (config : ManagerConfig) {current target : Height}
    (h : current ≤ target) (committed : Option Height) :
    walk env config current target committed = (do
      let committed ← window env current (config.window.lastOf current target) committed
      match resumeHeight (some (config.window.lastOf current target)) config.starting with
      | some next => walk env config next target committed
      | none => return committed) := by
  funext state
  rw [walk_eq env config h, Act.bind_run]
  rcases window env current (config.window.lastOf current target) committed state with ⟨e | c, t⟩
  · rfl
  · dsimp only
    cases resumeHeight (some (config.window.lastOf current target)) config.starting with
    | none => rfl
    | some next => rfl

theorem walk_simulates (h : env'.Simulates env rel ended) (config : ManagerConfig)
    (current target : Height) (committed : Option Height) :
    Act.Simulates rel ended (walk env' config current target committed)
      (walk env config current target committed) := by
  -- the distance to the target becomes smaller with every window
  induction hn : target.toNat + 1 - current.toNat using Nat.strongRecOn
    generalizing current committed with
  | ind n ih =>
    by_cases hle : current ≤ target
    · rw [walk_bind env config hle, walk_bind env' config hle]
      refine (window_simulates h current (config.window.lastOf current target) committed).bind
        fun committed' => ?_
      cases hnext : resumeHeight (some (config.window.lastOf current target)) config.starting with
      | none => exact .pure committed'
      | some next =>
        have h1 := lt_of_resumeHeight hnext
        have h2 := config.window.le_lastOf hle
        have h3 := Height.le_iff.1 hle
        exact ih _ (by omega) next committed' rfl
    · rw [walk, dif_neg hle, walk, dif_neg hle]
      exact .pure committed

/-- Attempts in surroundings that simulate each other do the same and keep the relation. -/
theorem attempt_simulates (h : env'.Simulates env rel ended) (config : ManagerConfig) (isRetry : Bool) :
    Act.Simulates rel ended (attempt env' config isRetry) (attempt env config isRetry) := by
  refine (Act.Simulates.demand h.cursor).bind fun cursor => ?_
  cases resumeHeight cursor config.starting with
  | none => exact .pure none
  | some current =>
    refine (Act.Simulates.ask h.latest).bind fun latest => ?_
    dsimp only
    split
    · exact .pure none
    · exact walk_simulates h config current _ none

/-! ## Rounds -/

section

variable {rel ended : τ → σ → Prop}

theorem round_simulates (h : env'.Simulates env (fun _ => rel) fun _ => ended)
    (hseen : ∀ t s, rel t s → rel (env'.markSeen t) (env.markSeen s))
    (hnews : ∀ status, Alike rel ended (env'.news status) (env.news status))
    (hpause : ∀ status ms, Alike rel ended (env'.pause status ms) (env.pause status ms))
    (config : ManagerConfig) :
    Act.Simulates (fun _ => rel) (fun _ => ended) (round env' config) (round env config) := by
  unfold round
  refine Act.Simulates.bind
    (fun _ t s hrel => ⟨_, _, _, _, rfl, rfl, hseen t s hrel⟩) fun _ => ?_
  refine Act.Simulates.bind (.update _) fun _ => ?_
  -- the two states differ, but what follows reads the status only
  intro status t s hrel
  rw [Act.bind_run, Act.bind_run, Act.get_run, Act.get_run]
  have hattempt := (attempt_simulates h config (0 < status.failures)).outcome
  refine hattempt.bind (fun r => ?_) status t s hrel
  cases r with
  | ok _ => exact Act.Simulates.bind (.update _) fun _ => .ask hnews
  | error _ => exact Act.Simulates.bind (.update _) fun _ => .ask fun status => hpause status _

theorem rounds_simulates (h : env'.Simulates env (fun _ => rel) fun _ => ended)
    (hseen : ∀ t s, rel t s → rel (env'.markSeen t) (env.markSeen s))
    (hnews : ∀ status, Alike rel ended (env'.news status) (env.news status))
    (hpause : ∀ status ms, Alike rel ended (env'.pause status ms) (env.pause status ms))
    (config : ManagerConfig) (n : Nat) :
    Act.Simulates (fun _ => rel) (fun _ => ended) (rounds env' config n) (rounds env config n) := by
  induction n with
  | zero => exact .pure ()
  | succ n ih => exact (round_simulates h hseen hnews hpause config).bind fun _ => ih

end

end Manager

/-! ## What is preserved -/

/-- Every call that an attempt makes preserves a property, with what the manager counts of it. -/
structure Surroundings.Preserves (env : Surroundings σ) (inv : Status → σ → Prop) : Prop where
  cursor : ∀ {status s}, inv status s → inv status (env.cursor status s).2
  latest : ∀ {status s}, inv status s → inv status (env.latest status s).2
  fetch : ∀ {status s}, inv status s → ∀ first last,
    inv { status with
        metrics := status.metrics.countTxs (env.fetch status first last s).1.1 }
      (env.fetch status first last s).2
  refuse : ∀ {status s}, inv status s → ∀ height events,
    (env.handle status height events s).1 ≠ some (.ok ()) →
      inv status (env.handle status height events s).2
  accept : ∀ {status s}, inv status s → ∀ height events,
    (env.handle status height events s).1 = some (.ok ()) →
      inv { status with metrics := status.metrics.countHeight height events.length }
        (env.handle status height events s).2

/-- Every call that an attempt makes preserves a property where it is answered. Where it is not, a
second property holds. -/
structure Surroundings.PreservesUntil (env : Surroundings σ) (inv ended : Status → σ → Prop) :
    Prop where
  cursor : ∀ {status s}, inv status s →
    (env.cursor status s).1.elim (ended status (env.cursor status s).2)
      fun _ => inv status (env.cursor status s).2
  latest : ∀ {status s}, inv status s →
    (env.latest status s).1.elim (ended status (env.latest status s).2)
      fun _ => inv status (env.latest status s).2
  fetch : ∀ {status s}, inv status s → ∀ first last,
    let counted :=
      { status with metrics := status.metrics.countTxs (env.fetch status first last s).1.1 }
    (env.fetch status first last s).1.2.elim (ended counted (env.fetch status first last s).2)
      fun _ => inv counted (env.fetch status first last s).2
  drop : ∀ {status s}, inv status s → ∀ height events,
    (env.handle status height events s).1 = none →
      ended status (env.handle status height events s).2
  refuse : ∀ {status s}, inv status s → ∀ height events e,
    (env.handle status height events s).1 = some (.error e) →
      inv status (env.handle status height events s).2
  accept : ∀ {status s}, inv status s → ∀ height events,
    (env.handle status height events s).1 = some (.ok ()) →
      inv { status with metrics := status.metrics.countHeight height events.length }
        (env.handle status height events s).2

theorem Surroundings.Preserves.always {env : Surroundings σ} {inv : Status → σ → Prop}
    (h : env.Preserves inv) : env.PreservesUntil inv inv where
  cursor {status s} hs := by
    cases (env.cursor status s).1 with
    | none => exact h.cursor hs
    | some _ => exact h.cursor hs
  latest {status s} hs := by
    cases (env.latest status s).1 with
    | none => exact h.latest hs
    | some _ => exact h.latest hs
  fetch {status s} hs first last := by
    dsimp only
    cases (env.fetch status first last s).1.2 with
    | none => exact h.fetch hs first last
    | some _ => exact h.fetch hs first last
  drop hs height events hr := h.refuse hs height events (by rw [hr]; nofun)
  refuse hs height events e hr := h.refuse hs height events (by rw [hr]; nofun)
  accept := h.accept

theorem Surroundings.PreservesUntil.simulates {env : Surroundings σ}
    {inv ended : Status → σ → Prop} (h : env.PreservesUntil inv ended) :
    env.Simulates env (fun status t s => t = s ∧ inv status s)
      fun status t s => t = s ∧ ended status s where
  cursor status t s := by
    rintro ⟨rfl, hs⟩
    refine ⟨_, _, _, rfl, rfl, ?_⟩
    have hcall := h.cursor hs
    cases hr : (env.cursor status t).1 <;> rw [hr] at hcall <;> exact ⟨rfl, hcall⟩
  latest status t s := by
    rintro ⟨rfl, hs⟩
    refine ⟨_, _, _, rfl, rfl, ?_⟩
    have hcall := h.latest hs
    cases hr : (env.latest status t).1 <;> rw [hr] at hcall <;> exact ⟨rfl, hcall⟩
  fetch := by
    rintro status t s ⟨rfl, hs⟩ first last
    refine ⟨_, _, _, _, rfl, rfl, ?_⟩
    have hcall := h.fetch hs first last
    dsimp only at hcall ⊢
    cases hr : (env.fetch status first last t).1.2 <;> rw [hr] at hcall <;> exact ⟨rfl, hcall⟩
  handle := by
    rintro status t s ⟨rfl, hs⟩ height events
    exact ⟨_, _, _, rfl, rfl, fun hr => ⟨rfl, h.drop hs height events hr⟩,
      fun e hr => ⟨rfl, h.refuse hs height events e hr⟩,
      fun hr => ⟨rfl, h.accept hs height events hr⟩⟩

/-- The surroundings do what the others do; `told` is their state without the notes. -/
structure Surroundings.Annotates (env' : Surroundings τ) (env : Surroundings σ) (told : τ → σ) :
    Prop where
  cursor : ∀ status t, env.cursor status (told t)
    = ((env'.cursor status t).1, told (env'.cursor status t).2)
  latest : ∀ status t, env.latest status (told t)
    = ((env'.latest status t).1, told (env'.latest status t).2)
  fetch : ∀ status first last t, env.fetch status first last (told t)
    = ((env'.fetch status first last t).1, told (env'.fetch status first last t).2)
  handle : ∀ status height events t, env.handle status height events (told t)
    = ((env'.handle status height events t).1, told (env'.handle status height events t).2)
  markSeen : ∀ t, env.markSeen (told t) = told (env'.markSeen t)
  news : ∀ status t, env.news status (told t)
    = ((env'.news status t).1, told (env'.news status t).2)
  pause : ∀ status ms t, env.pause status ms (told t)
    = ((env'.pause status ms t).1, told (env'.pause status ms t).2)

theorem Surroundings.Annotates.simulates {env' : Surroundings τ} {env : Surroundings σ}
    {told : τ → σ} (h : env'.Annotates env told) :
    env'.Simulates env (fun _ t s => told t = s) fun _ t s => told t = s where
  cursor status := .of_rel fun t s hs => by
    cases hs
    exact ⟨_, _, _, rfl, h.cursor status t, rfl⟩
  latest status := .of_rel fun t s hs => by
    cases hs
    exact ⟨_, _, _, rfl, h.latest status t, rfl⟩
  fetch := by
    rintro status t s rfl first last
    refine ⟨_, _, _, _, rfl, h.fetch status first last t, ?_⟩
    cases (env'.fetch status first last t).1.2 with
    | none => exact rfl
    | some _ => exact rfl
  handle := by
    rintro status t s rfl height events
    exact ⟨_, _, _, rfl, h.handle status height events t, fun _ => rfl, fun _ _ => rfl,
      fun _ => rfl⟩

namespace Manager

theorem attempt_until {env : Surroundings σ} {inv ended : Status → σ → Prop}
    (h : env.PreservesUntil inv ended) (config : ManagerConfig) (isRetry : Bool)
    {status status' : Status} {s s' : σ} {r : Except Halt (Option Height)} (hs : inv status s)
    (hrun : attempt env config isRetry (status, s) = (r, status', s')) :
    Act.After (inv status' s') (ended status' s') r := by
  obtain ⟨_, _, _, _, -, hrun', hend⟩ :=
    attempt_simulates h.simulates config isRetry status s s ⟨rfl, hs⟩
  cases hrun'.symm.trans hrun
  exact hend.imp And.right And.right

theorem attempt_preserves {env : Surroundings σ} {inv : Status → σ → Prop}
    (h : env.Preserves inv) (config : ManagerConfig) (isRetry : Bool) {status status' : Status}
    {s s' : σ} {r : Except Halt (Option Height)} (hs : inv status s)
    (hrun : attempt env config isRetry (status, s) = (r, status', s')) : inv status' s' :=
  (attempt_until h.always config isRetry hs hrun).self

theorem rounds_preserves {env : Surroundings σ} {inv : σ → Prop} (h : env.Preserves fun _ => inv)
    (hseen : ∀ s, inv s → inv (env.markSeen s))
    (hnews : ∀ status s, inv s → inv (env.news status s).2)
    (hpause : ∀ status ms s, inv s → inv (env.pause status ms s).2) (config : ManagerConfig)
    (n : Nat) (status : Status) {s : σ} (hs : inv s) :
    inv (rounds env config n (status, s)).2.2 := by
  have hrun := rounds_simulates h.always.simulates ?_ ?_ ?_ config n status s s ⟨rfl, hs⟩
  · obtain ⟨r, _, _, _, -, hrun, hend⟩ := hrun
    rw [hrun]
    exact hend.self.2
  · rintro t s ⟨rfl, hs⟩
    exact ⟨rfl, hseen t hs⟩
  · refine fun status => .of_rel fun t s hs => ?_
    obtain ⟨rfl, hs⟩ := hs
    exact ⟨_, _, _, rfl, rfl, rfl, hnews status t hs⟩
  · refine fun status ms => .of_rel fun t s hs => ?_
    obtain ⟨rfl, hs⟩ := hs
    exact ⟨_, _, _, rfl, rfl, rfl, hpause status ms t hs⟩

theorem rounds_annotates {env' : Surroundings τ} {env : Surroundings σ} {told : τ → σ}
    (h : env'.Annotates env told) (config : ManagerConfig) (n : Nat) (status : Status) (t : τ) :
    rounds env config n (status, told t) = ((rounds env' config n (status, t)).1,
      (rounds env' config n (status, t)).2.1, told (rounds env' config n (status, t)).2.2) := by
  have hrun := rounds_simulates h.simulates ?_ ?_ ?_ config n status t (told t) rfl
  · obtain ⟨r, _, _, _, hrun', hrun, hend⟩ := hrun
    rw [hrun', hrun, hend.self]
  · rintro t s rfl
    exact (h.markSeen t).symm
  · refine fun status => .of_rel fun t s hs => ?_
    cases hs
    exact ⟨_, _, _, rfl, h.news status t, rfl⟩
  · refine fun status ms => .of_rel fun t s hs => ?_
    cases hs
    exact ⟨_, _, _, rfl, h.pause status ms t, rfl⟩

end Manager

end ChainIndexer
