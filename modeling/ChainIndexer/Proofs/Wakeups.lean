import ChainIndexer.Proofs.StateMachine
import ChainIndexer.Sync.Polling

/-!
# No height is slept through

The manager marks the published height as seen before it reads it, so a publication that its attempt
did not use is one that its receiver has not seen. The invariant: a receiver has seen no more than
there was, and either the published height is the one that was used or there is a publication to be
seen (`Awake`). A poll publishes something new or changes nothing (`Tracker.Polled.eq_or_lt`), so no
poll disturbs the invariant, wherever it falls. What the surroundings owe for it is `Shares`; where
polls fall between any two steps of the manager they keep it (`never_slept_through`).
-/

namespace ChainIndexer

variable {σ : Type}

/-! ## Polls -/

namespace Tracker

def Polled (t t' : Tracker) : Prop := ∃ answers, t' = t.observeAll answers

theorem Polled.refl (t : Tracker) : t.Polled t := ⟨[], rfl⟩

theorem Polled.observe (t : Tracker) (answer : Option Height) : t.Polled (t.observe answer) :=
  ⟨[answer], rfl⟩

theorem Polled.trans {t t' t'' : Tracker} (h : t.Polled t') (h' : t'.Polled t'') :
    t.Polled t'' := by
  obtain ⟨answers, rfl⟩ := h
  obtain ⟨more, rfl⟩ := h'
  exact ⟨answers ++ more, by rw [observeAll, observeAll, observeAll, List.foldl_append]⟩

theorem observe_eq_or (t : Tracker) (answer : Option Height) :
    t.observe answer = t ∨ (t.observe answer).publications = t.publications + 1 := by
  cases answer with
  | none => exact .inl rfl
  | some height =>
    unfold observe
    dsimp only
    split
    · exact .inr rfl
    · exact .inl rfl

theorem Polled.eq_or_lt {t t' : Tracker} (h : t.Polled t') :
    t' = t ∨ t.publications < t'.publications := by
  obtain ⟨answers, rfl⟩ := h
  induction answers generalizing t with
  | nil => exact .inl rfl
  | cons answer answers ih =>
    have hrest : (t.observe answer).observeAll answers = t.observe answer ∨
        (t.observe answer).publications < ((t.observe answer).observeAll answers).publications := ih
    change (t.observe answer).observeAll answers = t ∨
      t.publications < ((t.observe answer).observeAll answers).publications
    rcases observe_eq_or t answer with hsame | hmore
    · rw [hsame] at hrest ⊢
      exact hrest
    · rcases hrest with hrest | hrest
      · rw [hrest]
        omega
      · omega

theorem Polled.publications_le {t t' : Tracker} (h : t.Polled t') :
    t.publications ≤ t'.publications := by
  rcases h.eq_or_lt with rfl | hlt
  · exact Nat.le_refl _
  · exact Nat.le_of_lt hlt

theorem awaitHeight_polled (t : Tracker) (schedule : Schedule) :
    t.Polled (t.awaitHeight schedule).2.1 := by
  induction schedule generalizing t with
  | nil => exact .refl t
  | cons answers schedule ih =>
    unfold awaitHeight
    split
    · exact .refl t
    · exact .trans ⟨answers, rfl⟩ (ih _)

theorem published_of_awaitHeight {t : Tracker} {schedule : Schedule} {height : Height}
    (h : (t.awaitHeight schedule).1 = some height) :
    (t.awaitHeight schedule).2.1.published = some height := by
  induction schedule generalizing t with
  | nil => exact h
  | cons answers schedule ih =>
    unfold awaitHeight at h ⊢
    split
    · rename_i published
      rw [published] at h
      rw [published]
      exact h
    · rename_i unpublished
      rw [unpublished] at h
      exact ih h

end Tracker

namespace Receiver

theorem watch_polled (r : Receiver) (t : Tracker) (answers : List (Option Height)) :
    t.Polled (r.watch t answers).2 := by
  induction answers generalizing t with
  | nil => exact .refl t
  | cons answer answers ih =>
    unfold watch
    split
    · exact .refl t
    · exact (Tracker.Polled.observe t answer).trans (ih _)

theorem hasChanged_of_watch {r : Receiver} {t : Tracker} {answers : List (Option Height)}
    (h : (r.watch t answers).1 = false) : r.hasChanged (r.watch t answers).2 = false := by
  induction answers generalizing t with
  | nil => exact h
  | cons answer answers ih =>
    unfold watch at h ⊢
    split at h
    · cases h
    · rename_i hseen
      rw [if_neg hseen]
      exact ih h

/-- The receiver has seen no more than there was, and the published height is this one or there is
a publication to be seen. -/
def Awake (r : Receiver) (t : Tracker) (height : Height) : Prop :=
  t.published = some height ∨ r.hasChanged t = true

theorem Awake.polled {r : Receiver} {t t' : Tracker} {height : Height}
    (hseen : r.seen ≤ t.publications) (h : r.Awake t height) (hp : t.Polled t') :
    r.Awake t' height := by
  rcases hp.eq_or_lt with rfl | hlt
  · exact h
  · refine .inr ?_
    have hne : r.seen ≠ t'.publications := by omega
    simpa [hasChanged] using hne

end Receiver

/-! ## Surroundings that share a tracker -/

section

variable (tracker : σ → Tracker) (receiver : σ → Receiver)

def Moves (s s' : σ) : Prop := (tracker s).Polled (tracker s') ∧ receiver s' = receiver s

/-- From one state to another there are polls, and in between the receiver marks what is published
as seen. -/
def Marks (s s' : σ) : Prop :=
  ∃ t, (tracker s).Polled t ∧ receiver s' = .subscribe t ∧ t.Polled (tracker s')

/-- Every call may come with polls. The latest height is one that was published during the call, and
the receiver marks nothing as seen but where the manager wants it to, or at the end of a wait. -/
structure Surroundings.Shares (env : Surroundings σ) : Prop where
  cursor : ∀ status s, Moves tracker receiver s (env.cursor status s).2
  latest : ∀ status s, Moves tracker receiver s (env.latest status s).2
  reads : ∀ {status s height}, (env.latest status s).1 = some height →
    ∃ t, (tracker s).Polled t ∧ t.published = some height ∧
      t.Polled (tracker (env.latest status s).2)
  fetch : ∀ status first last s, Moves tracker receiver s (env.fetch status first last s).2
  handle : ∀ status height events s, Moves tracker receiver s (env.handle status height events s).2
  markSeen : ∀ s, Marks tracker receiver s (env.markSeen s)
  news : ∀ status s, Moves tracker receiver s (env.news status s).2 ∨
    Marks tracker receiver s (env.news status s).2
  pause : ∀ status ms s, Moves tracker receiver s (env.pause status ms s).2

end

theorem Moves.trans {tracker : σ → Tracker} {receiver : σ → Receiver} {s s' s'' : σ}
    (h : Moves tracker receiver s s') (h' : Moves tracker receiver s' s'') :
    Moves tracker receiver s s'' := ⟨h.1.trans h'.1, h'.2.trans h.2⟩

/-! ## Waits -/

/-- What there is when the manager goes to wait for news: the height that its attempt used, the
tracker and the receiver. -/
structure Moment where
  used : Option Height
  tracker : Tracker
  receiver : Receiver

/-- Whatever polls there are from then on, the receiver stays awake for the height that was used,
and if the timer ends the wait, the published height is still that one. -/
def Moment.Safe (m : Moment) : Prop :=
  ∀ height, m.used = some height → ∀ t, m.tracker.Polled t →
    m.receiver.Awake t height ∧ ∀ answers, (m.receiver.watch t answers).1 = false →
      (m.receiver.watch t answers).2.published = some height

theorem Moment.safe {m : Moment} (hseen : m.receiver.seen ≤ m.tracker.publications)
    (h : ∀ height, m.used = some height → m.receiver.Awake m.tracker height) : m.Safe := by
  intro height hused t ht
  refine ⟨(h height hused).polled hseen ht, fun answers hwatch => ?_⟩
  -- the polls while it waits are no other than those before
  have hall := ht.trans (m.receiver.watch_polled t answers)
  rcases (h height hused).polled hseen hall with hpublished | hchanged
  · exact hpublished
  · rw [Receiver.hasChanged_of_watch hwatch] at hchanged
    cases hchanged

/-- A state with notes: the height that was used since the last wait, and every wait for news, the
newest first. -/
structure Noted (σ : Type) where
  rest : σ
  used : Option Height := none
  waits : List Moment := []

namespace Surroundings

/-- The surroundings, with notes. -/
def noted (env : Surroundings σ) (tracker : σ → Tracker) (receiver : σ → Receiver) :
    Surroundings (Noted σ) where
  cursor status n :=
    let (r, rest) := env.cursor status n.rest
    (r, { n with rest })
  latest status n :=
    let (used, rest) := env.latest status n.rest
    (used, { n with rest, used })
  fetch status first last n :=
    let (r, rest) := env.fetch status first last n.rest
    (r, { n with rest })
  handle status height events n :=
    let (r, rest) := env.handle status height events n.rest
    (r, { n with rest })
  markSeen n := { n with rest := env.markSeen n.rest }
  news status n :=
    let (r, rest) := env.news status n.rest
    (r, ⟨rest, none, ⟨n.used, tracker n.rest, receiver n.rest⟩ :: n.waits⟩)
  pause status ms n :=
    let (r, rest) := env.pause status ms n.rest
    (r, { n with rest, used := none })

end Surroundings

theorem noted_annotates (env : Surroundings σ) (tracker : σ → Tracker) (receiver : σ → Receiver) :
    (env.noted tracker receiver).Annotates env Noted.rest where
  cursor _ _ := rfl
  latest _ _ := rfl
  fetch _ _ _ _ := rfl
  handle _ _ _ _ := rfl
  markSeen _ := rfl
  news _ _ := rfl
  pause _ _ _ := rfl

/-- The receiver is awake for the height that was used, and every wait so far was safe. -/
structure Watchful (tracker : σ → Tracker) (receiver : σ → Receiver) (n : Noted σ) : Prop where
  seen : (receiver n.rest).seen ≤ (tracker n.rest).publications
  used : ∀ height, n.used = some height → (receiver n.rest).Awake (tracker n.rest) height
  waits : ∀ m ∈ n.waits, m.Safe

namespace Watchful

variable {tracker : σ → Tracker} {receiver : σ → Receiver} {n : Noted σ} {s : σ}

theorem moves (h : Watchful tracker receiver n) (hm : Moves tracker receiver n.rest s) :
    Watchful tracker receiver { n with rest := s } := by
  obtain ⟨hp, hr⟩ := hm
  refine ⟨?_, fun height hused => ?_, h.waits⟩
  · rw [hr]
    exact Nat.le_trans h.seen hp.publications_le
  · rw [hr]
    exact (h.used height hused).polled h.seen hp

theorem seen_of_marks (hm : Marks tracker receiver n.rest s) :
    (receiver s).seen ≤ (tracker s).publications := by
  obtain ⟨t, -, hr, hp⟩ := hm
  rw [hr]
  exact hp.publications_le

theorem reads (h : Watchful tracker receiver n) (hm : Moves tracker receiver n.rest s)
    {used : Option Height} (hread : ∀ height, used = some height → ∃ t,
      (tracker n.rest).Polled t ∧ t.published = some height ∧ t.Polled (tracker s)) :
    Watchful tracker receiver { n with rest := s, used := used } := by
  have hmoved := h.moves hm
  refine ⟨hmoved.seen, fun height hused => ?_, h.waits⟩
  obtain ⟨t, ht, hpublished, hp⟩ := hread height hused
  have hseen : (receiver s).seen ≤ t.publications := by
    rw [hm.2]
    exact Nat.le_trans h.seen ht.publications_le
  exact Receiver.Awake.polled hseen (.inl hpublished) hp

end Watchful

section

variable {env : Surroundings σ} {tracker : σ → Tracker} {receiver : σ → Receiver}

theorem noted_preserves (h : env.Shares tracker receiver) :
    (env.noted tracker receiver).Preserves fun _ => Watchful tracker receiver where
  cursor hn := hn.moves (h.cursor _ _)
  latest hn := hn.reads (h.latest _ _) fun _ hread => h.reads hread
  fetch hn _ _ := hn.moves (h.fetch _ _ _ _)
  refuse hn _ _ _ := hn.moves (h.handle _ _ _ _)
  accept hn _ _ _ := hn.moves (h.handle _ _ _ _)

variable {config : ManagerConfig} {past : List Bool} {status : Status} {n n' : Noted σ}

/-- Before the next attempt nothing is in use, so everything may be marked as seen. -/
theorem Watchful.attempted {r : Except Halt (Option Height)} {state : Status × Noted σ}
    (h : env.Shares tracker receiver) (hn : Watchful tracker receiver n) (hused : n.used = none)
    (ha : Attempted (env.noted tracker receiver) config past status n r state) :
    Watchful tracker receiver state.2 := by
  obtain ⟨status', n'⟩ := state
  have hstart : Watchful tracker receiver ((env.noted tracker receiver).markSeen n) := by
    refine ⟨Watchful.seen_of_marks (h.markSeen n.rest), fun height hheight => ?_, hn.waits⟩
    cases hused.symm.trans hheight
  exact Manager.attempt_preserves (noted_preserves h) config _ hstart ha

theorem Watchful.rested {r : Option Unit} (h : env.Shares tracker receiver)
    (hn : Watchful tracker receiver n)
    (hw : (env.noted tracker receiver).news status n = (r, n')) :
    Watchful tracker receiver n' ∧ n'.used = none := by
  have hn' : n' = ⟨(env.news status n.rest).2, none,
      ⟨n.used, tracker n.rest, receiver n.rest⟩ :: n.waits⟩ := (congrArg Prod.snd hw).symm
  rw [hn']
  refine ⟨⟨?_, (fun _ hheight => by cases hheight), ?_⟩, rfl⟩
  · rcases h.news status n.rest with hm | hm
    · exact (hn.moves hm).seen
    · exact Watchful.seen_of_marks hm
  · intro m hm
    rcases List.mem_cons.1 hm with rfl | hm
    · exact Moment.safe hn.seen hn.used
    · exact hn.waits m hm

theorem Watchful.repelled {r : Option Unit} {ms : UInt64} (h : env.Shares tracker receiver)
    (hn : Watchful tracker receiver n)
    (hw : (env.noted tracker receiver).pause status ms n = (r, n')) :
    Watchful tracker receiver n' ∧ n'.used = none := by
  have hn' : n' = { n with rest := (env.pause status ms n.rest).2, used := none } :=
    (congrArg Prod.snd hw).symm
  rw [hn']
  have hmoved := hn.moves (h.pause status ms n.rest)
  exact ⟨⟨hmoved.seen, (fun _ hheight => by cases hheight), hn.waits⟩, rfl⟩

theorem Loop.watchful {state : Status × Noted σ} (h : env.Shares tracker receiver)
    (hn : Watchful tracker receiver n) (hused : n.used = none)
    (hloop : Loop (env.noted tracker receiver) config n past state) :
    Watchful tracker receiver state.2 ∧ state.2.used = none := by
  induction hloop with
  | start => exact ⟨hn, hused⟩
  | succeeded _ ha hw ih => exact (ih.1.attempted h ih.2 ha).rested h hw
  | failed _ ha hw ih => exact (ih.1.attempted h ih.2 ha).repelled h hw

theorem LoopEnds.watchful {state : Status × Noted σ} (h : env.Shares tracker receiver)
    (hn : Watchful tracker receiver n) (hused : n.used = none)
    (hloop : LoopEnds (env.noted tracker receiver) config n past state) :
    Watchful tracker receiver state.2 := by
  cases hloop with
  | attempting hloop ha =>
    have hbefore := hloop.watchful h hn hused
    exact hbefore.1.attempted h hbefore.2 ha
  | idle hloop ha hw =>
    have hbefore := hloop.watchful h hn hused
    exact ((hbefore.1.attempted h hbefore.2 ha).rested h hw).1
  | backoff hloop ha hw =>
    have hbefore := hloop.watchful h hn hused
    exact ((hbefore.1.attempted h hbefore.2 ha).repelled h hw).1

/-- Whatever a manager does in surroundings that share a tracker, every wait for news is safe. -/
theorem safe_of_shares (h : env.Shares tracker receiver) (config : ManagerConfig) (most : Nat)
    {s : σ} (hs : (receiver s).seen ≤ (tracker s).publications) :
    ∀ m ∈ (Manager.rounds (env.noted tracker receiver) config most
      ({}, { rest := s })).2.2.waits, m.Safe := by
  have hstart : Watchful tracker receiver { rest := s } :=
    ⟨hs, (fun _ hheight => by cases hheight), (fun _ hm => by cases hm)⟩
  rcases hrun : Manager.rounds (env.noted tracker receiver) config most ({}, { rest := s })
    with ⟨r, state⟩
  rcases rounds_cases .start hrun with ⟨-, past, -, hloop⟩ | ⟨-, past, hloop⟩
  · exact (hloop.watchful h hstart rfl).1.waits
  · exact (hloop.watchful h hstart rfl).waits

end

/-! ## Polls between any two steps -/

namespace Beside

theorem poll?_polled {b b' : Beside σ} (h : b.poll? = some b') :
    b.tracker.Polled b'.tracker ∧ b'.receiver = b.receiver := by
  unfold poll? at h
  split at h
  · cases h
  · cases h
    exact ⟨⟨_, rfl⟩, rfl⟩

theorem step_moves {α : Type} (ended : α) (op : σ → α × σ) (b : Beside σ) :
    Moves tracker receiver b (step ended op b).2 := by
  unfold step
  split
  · exact ⟨.refl _, rfl⟩
  · rename_i b' h
    obtain ⟨hp, hr⟩ := poll?_polled h
    exact ⟨hp, hr⟩

theorem latest_reads (b : Beside σ) : Moves tracker receiver b b.latest.2 ∧
    ∀ {height}, b.latest.1 = some height → ∃ t, b.tracker.Polled t ∧ t.published = some height ∧
      t.Polled b.latest.2.tracker := by
  unfold latest
  split
  · exact ⟨⟨.refl _, rfl⟩, nofun⟩
  · rename_i b' h
    obtain ⟨hp, hr⟩ := poll?_polled h
    have hawait := hp.trans (b'.tracker.awaitHeight_polled b'.schedule)
    exact ⟨⟨hawait, hr⟩, fun hheight =>
      ⟨_, hawait, Tracker.published_of_awaitHeight hheight, .refl _⟩⟩

theorem markSeen_marks (b : Beside σ) : Marks tracker receiver b b.markSeen := by
  unfold markSeen
  cases h : b.poll? with
  | none => exact ⟨_, .refl _, rfl, .refl _⟩
  | some b' => exact ⟨_, (poll?_polled h).1, rfl, .refl _⟩

theorem news_moves (b : Beside σ) :
    Moves tracker receiver b b.news.2 ∨ Marks tracker receiver b b.news.2 := by
  unfold news
  split
  · exact .inl ⟨.refl _, rfl⟩
  · rename_i b' h
    obtain ⟨hp, hr⟩ := poll?_polled h
    split
    · exact .inl ⟨hp, hr⟩
    · rename_i answers schedule _
      have hall := hp.trans (b'.receiver.watch_polled b'.tracker answers)
      dsimp only
      split
      · exact .inr ⟨_, hall, rfl, .refl _⟩
      · exact .inl ⟨hall, hr⟩

theorem shares (env : Surroundings σ) : env.beside.Shares tracker receiver where
  cursor _ _ := step_moves _ _ _
  latest _ b := b.latest_reads.1
  reads h := latest_reads _ |>.2 h
  fetch _ _ _ _ := step_moves _ _ _
  handle _ _ _ _ := step_moves _ _ _
  markSeen := markSeen_marks
  news _ := news_moves
  pause _ _ _ := step_moves _ _ _

end Beside

/-- **No height is slept through.** Let polls fall between any two steps of the manager, in any
number and with any answers, and let the run be told with its waits for news. Whenever the manager
goes to wait after an attempt that used a height, then whatever polls follow, the published height is
still that one or the receiver has a change to see; so a wait that only the timer ends has missed
nothing. -/
theorem never_slept_through (env : Surroundings σ) (config : ManagerConfig) (s : σ)
    (tracker : Tracker) (schedule : Schedule) (n : Nat) :
    let run := Manager.rounds (env.beside.noted Beside.tracker Beside.receiver) config n
      ({}, { rest := .start s tracker schedule })
    Manager.rounds env.beside config n ({}, .start s tracker schedule)
        = (run.1, run.2.1, run.2.2.rest) ∧
      ∀ m ∈ run.2.2.waits, m.Safe := by
  have hnoted := noted_annotates env.beside Beside.tracker Beside.receiver
  exact ⟨Manager.rounds_annotates hnoted config n {} { rest := .start s tracker schedule },
    safe_of_shares (Beside.shares env) config n (Nat.le_refl _)⟩

/-- A handler that has everything up to a height. -/
def caughtUp (height : Height) : Surroundings Unit where
  cursor _ s := (some (.ok (some height)), s)
  latest _ s := (none, s)
  fetch _ _ _ s := ((0, none), s)
  handle _ _ _ s := (none, s)
  markSeen s := s
  news _ s := (none, s)
  pause _ _ s := (none, s)

/-- A poll of 6 falls after the manager marked 5 as seen and before it reads the height, and a poll
of 7 before it waits. -/
def overtakenSchedule : Schedule := [[some 5], [some 6], [], [some 7], []]

theorem overtaken_never_slept_through :
    (Manager.rounds ((caughtUp 6).beside.noted Beside.tracker Beside.receiver) {} 1
      ({}, { rest := .start () {} overtakenSchedule })).2.2.waits
        = [⟨some 6, ⟨some 6, 2⟩, ⟨1⟩⟩] ∧
    (⟨1⟩ : Receiver).Awake ⟨some 7, 3⟩ 6 := by
  have hwaits : (Manager.rounds ((caughtUp 6).beside.noted Beside.tracker Beside.receiver) {} 1
      ({}, { rest := .start () {} overtakenSchedule })).2.2.waits
        = [⟨some 6, ⟨some 6, 2⟩, ⟨1⟩⟩] := rfl
  have hsafe := (never_slept_through (caughtUp 6) {} () {} overtakenSchedule 1).2
    ⟨some 6, ⟨some 6, 2⟩, ⟨1⟩⟩ (by rw [hwaits]; exact List.mem_singleton_self _)
  exact ⟨hwaits, (hsafe 6 rfl ⟨some 7, 3⟩ ⟨[some 7], rfl⟩).1⟩

end ChainIndexer
