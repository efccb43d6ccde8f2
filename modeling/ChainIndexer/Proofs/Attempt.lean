import ChainIndexer.Proofs.Batches
import ChainIndexer.Proofs.History

/-!
# What an attempt does

One lemma for each action of the manager says everything that it can do to the history:
`commit_cases`, `commitAll_cases`, `window_cases`. A walk is a window and the walk after it
(`walk_eq`), so what it does is told by induction on the windows: `Course` has a case for each way in
which a window can end, `walk_course` says that every walk has such a course, and `attempt_ends` the
same of an attempt.
-/

namespace ChainIndexer

/-! ## Actions -/

namespace Act

variable {σ α β : Type}

theorem bind_run (x : Act σ α) (f : α → Act σ β) (state : Status × σ) :
    (x >>= f) state = match x state with
      | (.ok a, state) => f a state
      | (.error e, state) => (.error e, state) := by
  change ExceptT.bind x f state = _
  unfold ExceptT.bind ExceptT.mk
  change StateT.bind x (ExceptT.bindCont f) state = _
  unfold StateT.bind
  rcases hx : x state with ⟨_ | a, t⟩
  · rfl
  · rfl

theorem pure_run (a : α) (state : Status × σ) : (pure a : Act σ α) state = (.ok a, state) := rfl

theorem modify_run (f : Status × σ → Status × σ) (state : Status × σ) :
    (modify f : Act σ Unit) state = (.ok (), f state) := rfl

theorem get_run (state : Status × σ) :
    (get : Act σ (Status × σ)) state = (.ok state, state) := rfl

end Act

namespace Manager

variable {σ : Type} {env : Surroundings σ} {history : σ → History}

/-! ## Committing -/

def Carried (p : Height × List Command) (q : Height × List Event) : Prop :=
  q.1 = p.1 ∧ Command.executeAll p.1 p.2 = .ok q.2

/-- A height is not committed and why: a command yields no event and nothing is handed over, or the
handler refuses the events. -/
inductive Uncommitted (env : Surroundings σ) (history : σ → History) (H : History) (height : Height)
    (commands : List Command) (e : SyncError) : History → Prop
  | command (hx : Command.executeAll height commands = .error e) :
      Uncommitted env history H height commands e H
  | handler {events status s} (hx : Command.executeAll height commands = .ok events)
      (hs : history s = H) (he : (env.handle status height events s).1 = some (.error e)) :
      Uncommitted env history H height commands e (H.followedBy (.ofRefused height events))

/-- A height is committed, possibly as the last thing before the run ends, or the run ends before,
or the height is not committed. -/
theorem commit_cases (hk : env.Keeps history) {height : Height} {commands : List Command}
    {status status' : Status} {s s' : σ} {r : Except Halt Unit}
    (h : commit env height commands (status, s) = (r, status', s')) :
    (∃ events, Command.executeAll height commands = .ok events ∧ (r = .ok () ∨ r = .error .dropped)
        ∧ history s' = (history s).followedBy (.ofAccepted [(height, events)])) ∨
      r = .error .dropped ∧ history s' = history s ∨
      ∃ e, r = .error (.failed e) ∧
        Uncommitted env history (history s) height commands e (history s') := by
  unfold commit at h
  cases hx : Command.executeAll height commands with
  | error e =>
    rw [hx] at h
    cases h
    exact .inr (.inr ⟨e, rfl, .command hx⟩)
  | ok events =>
    rw [hx] at h
    simp only [Act.bind_run, Act.demand] at h
    have ha : ∀ a, (env.handle status height events s).1 = a →
        env.handle status height events s = (a, (env.handle status height events s).2) :=
      fun a ha => Prod.ext ha rfl
    rcases hr : (env.handle status height events s).1 with _ | e | ⟨⟩
    · rw [ha _ hr] at h
      cases h
      rcases hk.drops hr with hd | ⟨-, hd⟩
      · exact .inr (.inl ⟨rfl, hd⟩)
      · exact .inl ⟨events, rfl, .inr rfl, hd⟩
    · rw [ha _ hr] at h
      cases h
      rw [hk.refuses hr]
      exact .inr (.inr ⟨e, rfl, .handler hx rfl hr⟩)
    · rw [ha _ hr] at h
      cases h
      exact .inl ⟨events, rfl, .inl rfl, (hk.accepts hr).2⟩

/-- Of the heights that are to be committed the first ones are, up to a failure or the end of the
run. -/
theorem commitAll_cases (hk : env.Keeps history) {heights : List (Height × List Command)}
    {last : Option Height} {status status' : Status} {s s' : σ}
    {r : Except Halt (Option Height)}
    (h : commitAll env heights last (status, s) = (r, status', s')) :
    ∃ done rest events, heights = done ++ rest ∧ List.Forall₂ Carried done events ∧
      match r with
      | .ok last' => rest = [] ∧ last' = (done.getLast?.map Prod.fst).or last ∧
          history s' = (history s).followedBy (.ofAccepted events)
      | .error .dropped => history s' = (history s).followedBy (.ofAccepted events)
      | .error (.failed e) => ∃ height commands more, rest = (height, commands) :: more ∧
          Uncommitted env history ((history s).followedBy (.ofAccepted events)) height commands e
            (history s') := by
  induction heights generalizing last status s with
  | nil =>
    cases h
    exact ⟨[], [], [], rfl, .nil, rfl, by simp, (History.followedBy_nothing _).symm⟩
  | cons p heights ih =>
    obtain ⟨height, commands⟩ := p
    simp only [commitAll, Act.bind_run] at h
    rcases hc : commit env height commands (status, s) with ⟨q, status₁, s₁⟩
    rw [hc] at h
    rcases commit_cases hk hc with ⟨events, hx, rfl | rfl, hs⟩ | ⟨rfl, hs⟩ | ⟨e, rfl, he⟩
    · obtain ⟨done, rest, more, rfl, hd, hr⟩ := ih h
      refine ⟨(height, commands) :: done, rest, (height, events) :: more, rfl,
        .cons ⟨rfl, hx⟩ hd, ?_⟩
      rw [hs, History.followedBy_assoc, History.ofAccepted_cons] at hr
      rcases r with ⟨e | _⟩ | last'
      · exact hr
      · exact hr
      · refine ⟨hr.1, hr.2.1.trans ?_, hr.2.2⟩
        rw [List.getLast?_cons]
        cases done.getLast? <;> rfl
    · cases h
      exact ⟨[(height, commands)], heights, [(height, events)], rfl, .cons ⟨rfl, hx⟩ .nil, hs⟩
    · cases h
      refine ⟨[], (height, commands) :: heights, [], rfl, .nil, ?_⟩
      rw [hs, History.ofAccepted_nil, History.followedBy_nothing]
    · cases h
      refine ⟨[], (height, commands) :: heights, [], rfl, .nil, height, commands, heights, rfl, ?_⟩
      rwa [History.ofAccepted_nil, History.followedBy_nothing]

/-! ## One window -/

/-- Fetches a window and commits its heights. -/
def window (env : Surroundings σ) (first last : Height) (committed : Option Height) :
    Act σ (Option Height) := do
  match Batch.settle first last (← fetch env first last) with
  | .error e => Act.fail e
  | .ok heights => commitAll env heights committed

theorem walk_eq (env : Surroundings σ) (config : ManagerConfig) {current target : Height}
    (h : current ≤ target) (committed : Option Height) (state : Status × σ) :
    walk env config current target committed state =
      match window env current (config.window.lastOf current target) committed state with
      | (.ok committed, state) =>
        match resumeHeight (some (config.window.lastOf current target)) config.starting with
        | some next => walk env config next target committed state
        | none => (.ok committed, state)
      | (.error e, state) => (.error e, state) := by
  rw [walk, dif_pos h, window]
  simp only [Act.bind_run, Window.sync, config.window.batches_lastOf h, Window.syncBatches]
  rcases fetch env current (config.window.lastOf current target) state with ⟨e | finished, t⟩
  · rfl
  · dsimp only
    cases Batch.settle current (config.window.lastOf current target) finished with
    | error e => rfl
    | ok heights =>
      simp only [Act.pure_run, List.nil_append]
      rcases commitAll env heights committed t with ⟨e | c, u⟩
      · rfl
      · dsimp only
        generalize resumeHeight (some (config.window.lastOf current target)) config.starting = next
        cases next <;> rfl

def Gave (env : Surroundings σ) (first last : Height)
    (finished : List (Height × Outcome (List Command))) : Prop :=
  ∃ status s txs, (env.fetch status first last s).1 = (txs, some finished)

/-- How a window ends that starts with one history, with which result, and with which history. -/
inductive WindowEnds (env : Surroundings σ) (history : σ → History) (first last : Height)
    (committed : Option Height) (H : History) : Except Halt (Option Height) → History → Prop
  | unasked : WindowEnds env history first last committed H (.error .dropped) H
  | silent : WindowEnds env history first last committed H (.error .dropped)
      (H.followedBy (.ofAsked first last))
  | unfetched {finished e} (hg : Gave env first last finished)
      (hs : Batch.settle first last finished = .error e) :
      WindowEnds env history first last committed H (.error (.failed e))
        (H.followedBy (.ofAnswers first last finished))
  | dropped {finished done rest events} (hg : Gave env first last finished)
      (hs : Batch.settle first last finished = .ok (done ++ rest))
      (hd : List.Forall₂ Carried done events) :
      WindowEnds env history first last committed H (.error .dropped)
        (H.followedBy (.ofWindow first last finished events))
  | uncommitted {finished done rest events height commands e H'}
      (hg : Gave env first last finished)
      (hs : Batch.settle first last finished = .ok (done ++ (height, commands) :: rest))
      (hd : List.Forall₂ Carried done events)
      (he : Uncommitted env history (H.followedBy (.ofWindow first last finished events)) height
        commands e H') :
      WindowEnds env history first last committed H (.error (.failed e)) H'
  | committed {finished done events} (hg : Gave env first last finished)
      (hs : Batch.settle first last finished = .ok done)
      (hd : List.Forall₂ Carried done events) :
      WindowEnds env history first last committed H
        (.ok ((done.getLast?.map Prod.fst).or committed))
        (H.followedBy (.ofWindow first last finished events))

theorem window_cases (hk : env.Keeps history) {first last : Height} {committed : Option Height}
    {status status' : Status} {s s' : σ} {r : Except Halt (Option Height)}
    (h : window env first last committed (status, s) = (r, status', s')) :
    WindowEnds env history first last committed (history s) r (history s') := by
  unfold window at h
  simp only [Act.bind_run, fetch] at h
  have ha : ∀ a, (env.fetch status first last s).1 = a →
      env.fetch status first last s = (a, (env.fetch status first last s).2) :=
    fun a ha => Prod.ext ha rfl
  rcases hr : (env.fetch status first last s).1 with ⟨txs, _ | finished⟩
  · rw [ha _ hr] at h
    cases h
    rcases hk.silent hr with hs | hs
    · rw [hs]
      exact .unasked
    · rw [hs]
      exact .silent
  · rw [ha _ hr] at h
    have hg : Gave env first last finished := ⟨status, s, txs, hr⟩
    have hs := hk.answers hr
    cases hset : Batch.settle first last finished with
    | error e =>
      simp only [hset] at h
      cases h
      rw [hs]
      exact .unfetched hg hset
    | ok heights =>
      simp only [hset] at h
      obtain ⟨done, rest, events, rfl, hd, hr'⟩ := commitAll_cases hk h
      rw [hs, History.followedBy_ofAnswers] at hr'
      rcases r with ⟨e | _⟩ | last'
      · obtain ⟨height, commands, more, rfl, he⟩ := hr'
        exact .uncommitted hg hset hd he
      · rw [hr']
        exact .dropped hg hset hd
      · obtain ⟨rfl, rfl, hr'⟩ := hr'
        rw [hr']
        rw [List.append_nil] at hset
        exact .committed hg hset hd

/-! ## The windows of a walk -/

/-- How a walk goes that starts at a height with one history, with which result, and with which
history it ends. -/
inductive Course (env : Surroundings σ) (history : σ → History) (config : ManagerConfig)
    (target : Height) : Height → Option Height → History → Except Halt (Option Height) → History →
    Prop
  | passed {current committed H} (h : target < current) :
      Course env history config target current committed H (.ok committed) H
  | halt {current committed H H'} {halt : Halt} (h : current ≤ target)
      (hw : WindowEnds env history current (config.window.lastOf current target) committed H
        (.error halt) H') :
      Course env history config target current committed H (.error halt) H'
  | top {current committed committed' H H'} (h : current ≤ target)
      (hw : WindowEnds env history current (config.window.lastOf current target) committed H
        (.ok committed') H')
      (hn : resumeHeight (some (config.window.lastOf current target)) config.starting = none) :
      Course env history config target current committed H (.ok committed') H'
  | next {current next committed committed' H H' H'' r} (h : current ≤ target)
      (hw : WindowEnds env history current (config.window.lastOf current target) committed H
        (.ok committed') H')
      (hn : resumeHeight (some (config.window.lastOf current target)) config.starting = some next)
      (hc : Course env history config target next committed' H' r H'') :
      Course env history config target current committed H r H''

theorem walk_course (hk : env.Keeps history) {config : ManagerConfig} {target : Height}
    {current : Height} {committed : Option Height} {status status' : Status} {s s' : σ}
    {r : Except Halt (Option Height)}
    (h : walk env config current target committed (status, s) = (r, status', s')) :
    Course env history config target current committed (history s) r (history s') := by
  -- the distance to the target becomes smaller with every window
  induction hn : target.toNat + 1 - current.toNat using Nat.strongRecOn
    generalizing current committed status s with
  | ind n ih =>
    by_cases hle : current ≤ target
    · rw [walk_eq env config hle] at h
      rcases hw : window env current (config.window.lastOf current target) committed (status, s)
        with ⟨e | committed', status₁, s₁⟩
      · rw [hw] at h
        cases h
        exact .halt hle (window_cases hk hw)
      · rw [hw] at h
        cases hres : resumeHeight (some (config.window.lastOf current target)) config.starting with
        | none =>
          simp only [hres] at h
          cases h
          exact .top hle (window_cases hk hw) hres
        | some next =>
          simp only [hres] at h
          have h1 := lt_of_resumeHeight hres
          have h2 := config.window.le_lastOf hle
          have h3 := Height.le_iff.1 hle
          exact .next hle (window_cases hk hw) hres (ih _ (by omega) h rfl)
    · rw [walk, dif_neg hle] at h
      cases h
      exact .passed (UInt64.not_le.1 hle)

/-! ## The attempt -/

/-- How an attempt ends that starts in a state, with which result, and with which history. -/
inductive AttemptEnds (env : Surroundings σ) (history : σ → History) (config : ManagerConfig)
    (isRetry : Bool) (status : Status) (s : σ) : Except Halt (Option Height) → History → Prop
  | dropped : AttemptEnds env history config isRetry status s (.error .dropped) (history s)
  | unread {e} (h : (env.cursor status s).1 = some (.error e)) :
      AttemptEnds env history config isRetry status s (.error (.failed e)) (history s)
  | top (h : resumeHeight (history s).cursor config.starting = none) :
      AttemptEnds env history config isRetry status s (.ok none) (history s)
  | idle {current latest status' t}
      (hcur : resumeHeight (history s).cursor config.starting = some current)
      (hl : (env.latest status' t).1 = some latest)
      (h : targetHeight latest current config.starting isRetry < current) :
      AttemptEnds env history config isRetry status s (.ok none) (history s)
  | walked {current latest status' t r H'}
      (hcur : resumeHeight (history s).cursor config.starting = some current)
      (hl : (env.latest status' t).1 = some latest)
      (h : current ≤ targetHeight latest current config.starting isRetry)
      (hc : Course env history config (targetHeight latest current config.starting isRetry) current
        none (history s) r H')
      (hread : status' = status ∧ t = (env.cursor status s).2) :
      AttemptEnds env history config isRetry status s r H'

theorem attempt_ends (hk : env.Keeps history) {config : ManagerConfig} {isRetry : Bool}
    {status status' : Status} {s s' : σ} {r : Except Halt (Option Height)}
    (h : attempt env config isRetry (status, s) = (r, status', s')) :
    AttemptEnds env history config isRetry status s r (history s') := by
  unfold attempt at h
  simp only [Act.bind_run, Act.demand] at h
  have hs := hk.cursor status s
  have ha : ∀ a, (env.cursor status s).1 = a → env.cursor status s = (a, (env.cursor status s).2) :=
    fun a ha => Prod.ext ha rfl
  rcases hr : (env.cursor status s).1 with _ | e | c
  · rw [ha _ hr] at h
    cases h
    rw [hs]
    exact .dropped
  · rw [ha _ hr] at h
    cases h
    rw [hs]
    exact .unread hr
  · rw [ha _ hr] at h
    obtain rfl := hk.reads hr
    dsimp only at h
    cases hcur : resumeHeight (history s).cursor config.starting with
    | none =>
      rw [hcur] at h
      cases h
      rw [hs]
      exact .top hcur
    | some current =>
      rw [hcur] at h
      simp only [Act.bind_run, Act.ask] at h
      have hs' := hk.latest status (env.cursor status s).2
      rcases hl : env.latest status (env.cursor status s).2 with ⟨_ | latest, t⟩
      · rw [hl] at h hs'
        cases h
        rw [hs', hs]
        exact .dropped
      · rw [hl] at h hs'
        dsimp only at h hs'
        have hl' : (env.latest status (env.cursor status s).2).1 = some latest := by rw [hl]
        split at h
        · rename_i hlt
          cases h
          rw [hs', hs]
          exact .idle hcur hl' hlt
        · rename_i hge
          have hc := walk_course hk h
          rw [hs', hs] at hc
          exact .walked hcur hl' (Height.not_lt.1 hge) hc ⟨rfl, rfl⟩

end Manager

end ChainIndexer
