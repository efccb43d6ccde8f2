import ChainIndexer.Store.Memory
import ChainIndexer.Sync.Manager

/-!
# What surroundings keep

A history says what has happened so far at the handler and at the chain. `Surroundings.Keeps` is the
contract of the surroundings of a manager, read off their history:

* the handler tells its true cursor; it accepts only a height above the cursor, which moves there
  together with the events; what it refuses changes nothing;
* the chain is asked for the heights of a batch and nothing else changes.

Where the run ends during a write, the write may have happened or not. `Surroundings.limited` ends
the run after a number of operations, so that every state between two operations is the end of a
run of its own.
-/

namespace ChainIndexer

/-! ## Histories -/

/-- Where the handler's cursor stands, what it accepted and what it refused, which heights the chain
was asked for, and what came of them in the order of completion. -/
structure History where
  cursor : Option Height := none
  accepted : List (Height × List Event) := []
  refused : List (Height × List Event) := []
  asked : List Height := []
  answers : List (Height × Outcome (List Command)) := []

namespace History

/-- One history after another. -/
def followedBy (h d : History) : History where
  cursor := d.cursor.or h.cursor
  accepted := h.accepted ++ d.accepted
  refused := h.refused ++ d.refused
  asked := h.asked ++ d.asked
  answers := h.answers ++ d.answers

def ofAccepted (done : List (Height × List Event)) : History where
  cursor := done.getLast?.map Prod.fst
  accepted := done

def ofRefused (height : Height) (events : List Event) : History := { refused := [(height, events)] }

/-- The chain was asked for a batch and gave no answer. -/
def ofAsked (first last : Height) : History := { asked := Height.range first last }

/-- The chain was asked for a batch and answered. -/
def ofAnswers (first last : Height) (finished : List (Height × Outcome (List Command))) : History :=
  { asked := Height.range first last, answers := finished }

/-- The chain was asked for a batch and answered, and some heights were accepted. -/
def ofWindow (first last : Height) (finished : List (Height × Outcome (List Command)))
    (done : List (Height × List Event)) : History where
  cursor := done.getLast?.map Prod.fst
  accepted := done
  asked := Height.range first last
  answers := finished

theorem followedBy_nothing (h : History) : h.followedBy {} = h := by
  simp [followedBy]

theorem followedBy_assoc (h d d' : History) :
    (h.followedBy d).followedBy d' = h.followedBy (d.followedBy d') := by
  simp [followedBy, Option.or_assoc]

theorem followedBy_ofAnswers (h : History) (first last : Height)
    (finished : List (Height × Outcome (List Command))) (done : List (Height × List Event)) :
    (h.followedBy (.ofAnswers first last finished)).followedBy (.ofAccepted done)
      = h.followedBy (.ofWindow first last finished done) := by
  simp [followedBy, ofAnswers, ofAccepted, ofWindow]

theorem followedBy_ofRefused (h d : History) (hd : d.refused = []) (height : Height)
    (events : List Event) : (h.followedBy d).followedBy (.ofRefused height events)
      = h.followedBy { d with refused := [(height, events)] } := by
  simp [followedBy, ofRefused, hd]

theorem ofAccepted_nil : ofAccepted [] = {} := rfl

theorem ofAccepted_cons (p : Height × List Event) (done : List (Height × List Event)) :
    (ofAccepted [p]).followedBy (ofAccepted done) = ofAccepted (p :: done) := by
  rcases hd : done.getLast? with _ | q <;> simp [followedBy, ofAccepted, List.getLast?_cons, hd]

end History

/-! ## The contract -/

namespace Surroundings

variable {σ : Type}

/-- The surroundings keep their promises, as the history of their state shows. -/
structure Keeps (env : Surroundings σ) (history : σ → History) : Prop where
  cursor : ∀ status s, history (env.cursor status s).2 = history s
  reads : ∀ {status s c}, (env.cursor status s).1 = some (.ok c) → c = (history s).cursor
  latest : ∀ status s, history (env.latest status s).2 = history s
  answers : ∀ {status first last s txs finished},
    (env.fetch status first last s).1 = (txs, some finished) →
      history (env.fetch status first last s).2
        = (history s).followedBy (.ofAnswers first last finished)
  silent : ∀ {status first last s txs}, (env.fetch status first last s).1 = (txs, none) →
    history (env.fetch status first last s).2 = history s ∨
      history (env.fetch status first last s).2 = (history s).followedBy (.ofAsked first last)
  accepts : ∀ {status height events s}, (env.handle status height events s).1 = some (.ok ()) →
    Store.advances (history s).cursor height = true ∧
      history (env.handle status height events s).2
        = (history s).followedBy (.ofAccepted [(height, events)])
  refuses : ∀ {status height events s e}, (env.handle status height events s).1 = some (.error e) →
    history (env.handle status height events s).2
      = (history s).followedBy (.ofRefused height events)
  drops : ∀ {status height events s}, (env.handle status height events s).1 = none →
    history (env.handle status height events s).2 = history s ∨
      Store.advances (history s).cursor height = true ∧
        history (env.handle status height events s).2
          = (history s).followedBy (.ofAccepted [(height, events)])
  markSeen : ∀ s, history (env.markSeen s) = history s
  news : ∀ status s, history (env.news status s).2 = history s
  pause : ∀ status ms s, history (env.pause status ms s).2 = history s

/-! ## The end of a run -/

/-- The same surroundings, which end the run after so many operations. -/
def limited (env : Surroundings σ) : Surroundings (Nat × σ) where
  cursor status
    | (0, s) => (none, 0, s)
    | (n + 1, s) => ((env.cursor status s).1, n, (env.cursor status s).2)
  latest status
    | (0, s) => (none, 0, s)
    | (n + 1, s) => ((env.latest status s).1, n, (env.latest status s).2)
  fetch status first last
    | (0, s) => ((0, none), 0, s)
    | (n + 1, s) => ((env.fetch status first last s).1, n, (env.fetch status first last s).2)
  handle status height events
    | (0, s) => (none, 0, s)
    | (n + 1, s) => ((env.handle status height events s).1, n, (env.handle status height events s).2)
  markSeen | (n, s) => (n, env.markSeen s)
  news status
    | (0, s) => (none, 0, s)
    | (n + 1, s) => ((env.news status s).1, n, (env.news status s).2)
  pause status ms
    | (0, s) => (none, 0, s)
    | (n + 1, s) => ((env.pause status ms s).1, n, (env.pause status ms s).2)

theorem Keeps.limited {env : Surroundings σ} {history : σ → History} (hk : env.Keeps history) :
    env.limited.Keeps fun p => history p.2 where
  cursor := by
    rintro status ⟨_ | n, s⟩
    · rfl
    · exact hk.cursor status s
  reads := by
    rintro status ⟨_ | n, s⟩ c h
    · cases h
    · exact hk.reads h
  latest := by
    rintro status ⟨_ | n, s⟩
    · rfl
    · exact hk.latest status s
  answers := by
    rintro status first last ⟨_ | n, s⟩ txs finished h
    · cases h
    · exact hk.answers h
  silent := by
    rintro status first last ⟨_ | n, s⟩ txs h
    · exact .inl rfl
    · exact hk.silent h
  accepts := by
    rintro status height events ⟨_ | n, s⟩ h
    · cases h
    · exact hk.accepts h
  refuses := by
    rintro status height events ⟨_ | n, s⟩ e h
    · cases h
    · exact hk.refuses h
  drops := by
    rintro status height events ⟨_ | n, s⟩ h
    · exact .inl rfl
    · exact hk.drops h
  markSeen := fun p => hk.markSeen p.2
  news := by
    rintro status ⟨_ | n, s⟩
    · rfl
    · exact hk.news status s
  pause := by
    rintro status ms ⟨_ | n, s⟩
    · rfl
    · exact hk.pause status ms s

end Surroundings

/-! ## Plain surroundings -/

/-- Surroundings that are nothing but a history: the chain is known up to a height, each height has
one outcome, and the handler refuses what is not above its cursor and whatever it is told to. -/
def History.surroundings (latest : Height) (outcome : Height → Except SyncError (List Command))
    (refused : Height → Option SyncError) : Surroundings History where
  cursor _ h := (some (.ok h.cursor), h)
  latest _ h := (some latest, h)
  fetch _ first last h :=
    let finished := (Height.range first last).map fun g => (g, .done (outcome g))
    ((0, some finished), h.followedBy (.ofAnswers first last finished))
  handle _ height events h :=
    match (refused height).elim (Store.ensureAdvances "" h.cursor height) .error with
    | .error e => (some (.error e), h.followedBy (.ofRefused height events))
    | .ok () => (some (.ok ()), h.followedBy (.ofAccepted [(height, events)]))
  markSeen := id
  news _ h := (some (), h)
  pause _ _ h := (some (), h)

theorem History.surroundings_keeps (latest : Height)
    (outcome : Height → Except SyncError (List Command)) (refused : Height → Option SyncError) :
    (surroundings latest outcome refused).Keeps id where
  cursor _ _ := rfl
  reads h := (Except.ok.inj (Option.some.inj h)).symm
  latest _ _ := rfl
  answers h := by
    cases h
    rfl
  silent h := by cases h
  accepts := by
    intro status height events h ha
    simp only [surroundings] at ha ⊢
    cases hp : (refused height).elim (Store.ensureAdvances "" h.cursor height) .error with
    | error e =>
      rw [hp] at ha
      cases ha
    | ok u =>
      refine ⟨?_, rfl⟩
      cases hr : refused height with
      | some e =>
        rw [hr] at hp
        cases hp
      | none =>
        rw [hr] at hp
        exact (Store.ensureAdvances_eq_ok_iff _ _ _).1 hp
  refuses := by
    intro status height events h e he
    simp only [surroundings] at he ⊢
    cases hp : (refused height).elim (Store.ensureAdvances "" h.cursor height) .error with
    | error e => rfl
    | ok u =>
      rw [hp] at he
      cases he
  drops := by
    intro status height events h he
    simp only [surroundings] at he
    cases hp : (refused height).elim (Store.ensureAdvances "" h.cursor height) .error <;>
      rw [hp] at he <;> cases he
  markSeen _ := rfl
  news _ _ := rfl
  pause _ _ _ := rfl

end ChainIndexer
