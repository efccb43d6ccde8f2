import ChainIndexer.Proofs.Progress

/-!
# Exactly once, in order

A run is any number of attempts, each a `Turn`: first attempts and retries, by one manager or by
several, each with its own surroundings, so with any latest height, any failure of the chain, of a
command or of the handler, and dropped after any number of operations.

`runAll_accepts`: over a whole run the heights that the handler accepts follow its cursor.
`accepted_in_order`: so they are the first part of the agenda, and the cursor stands at the last of
them. Since a turn may be dropped between any two operations, this holds after every step.
-/

namespace ChainIndexer

namespace Manager

/-- One attempt of a run: the surroundings and the settings of the manager, whether it is a retry,
the status that the manager has by then, and after how many operations it is dropped, if it is. -/
structure Turn (σ : Type) where
  env : Surroundings σ
  config : ManagerConfig
  isRetry : Bool := false
  status : Status := {}
  limit : Option Nat := none

namespace Turn

variable {σ : Type} {history : σ → History} {starting : Height}

/-- The state after the attempt. -/
def run (t : Turn σ) (s : σ) : σ :=
  match t.limit with
  | none => (attempt t.env t.config t.isRetry (t.status, s)).2.2
  | some n => (attempt t.env.limited t.config t.isRetry (t.status, n, s)).2.2.2

/-- The state after some attempts, one after the other. -/
def runAll (turns : List (Turn σ)) (s : σ) : σ := turns.foldl (fun s t => t.run s) s

/-- The surroundings keep the history, and the settings name the starting height. -/
def Obeys (history : σ → History) (starting : Height) (t : Turn σ) : Prop :=
  t.env.Keeps history ∧ t.config.starting = starting

/-- The surroundings of the attempt gave commands for the height, and the events are theirs. -/
def Handed (t : Turn σ) (q : Height × List Event) : Prop :=
  ∃ commands first last finished, Gave t.env first last finished ∧
    (q.1, .done (.ok commands)) ∈ finished ∧ Command.executeAll q.1 commands = .ok q.2

theorem run_progress {t : Turn σ} (ht : t.Obeys history starting) (s : σ) :
    ∃ target d, history (t.run s) = (history s).followedBy d ∧
      Progress t.env starting target (history s).cursor d := by
  obtain ⟨hk, rfl⟩ := ht
  unfold run
  split
  · rcases ha : attempt t.env t.config t.isRetry (t.status, s) with ⟨r, status, s'⟩
    exact (attempt_ends hk ha).progress
  · rename_i n _
    rcases ha : attempt t.env.limited t.config t.isRetry (t.status, n, s) with ⟨r, status, s'⟩
    obtain ⟨target, d, hd, hp⟩ := (attempt_ends hk.limited ha).progress
    exact ⟨target, d, hd, hp.of_limited⟩

theorem handed_of_progress {t : Turn σ} {target : Height} {cursor : Option Height} {d : History}
    (hp : Progress t.env starting target cursor d) : ∀ q ∈ d.accepted, t.Handed q := by
  intro q hq
  obtain ⟨commands, hm, hx⟩ := hp.events q hq
  obtain ⟨first, last, finished, hg, hf⟩ := hp.answers _ hm
  exact ⟨commands, first, last, finished, hg, hf, hx⟩

/-- Over a run, what the handler accepts follows its cursor, which moves to the last of it, and each
height is handed over by one of the attempts. -/
theorem runAll_accepts {turns : List (Turn σ)} (hturns : ∀ t ∈ turns, t.Obeys history starting)
    (s : σ) : ∃ done : List (Height × List Event),
      (history (runAll turns s)).accepted = (history s).accepted ++ done ∧
      Follows starting (history s).cursor (done.map Prod.fst) ∧
      (history (runAll turns s)).cursor = (done.getLast?.map Prod.fst).or (history s).cursor ∧
      ∀ q ∈ done, ∃ t ∈ turns, t.Handed q := by
  induction turns generalizing s with
  | nil => exact ⟨[], (List.append_nil _).symm, trivial, rfl, by simp⟩
  | cons t turns ih =>
    obtain ⟨target, d, hd, hp⟩ := run_progress (hturns t (by simp)) s
    obtain ⟨done, hdone, hf, hcursor, hhanded⟩ :=
      ih (fun u hu => hturns u (by simp [hu])) (t.run s)
    rw [hd] at hdone hf hcursor
    refine ⟨d.accepted ++ done, ?_, ?_, ?_, ?_⟩
    · rw [← List.append_assoc]
      exact hdone
    · rw [List.map_append, follows_append]
      refine ⟨?_, ?_⟩
      · rw [follows_iff_starts]
        exact hp.accepted.trans (follows_iff_starts.1 hp.follows)
      · rw [List.getLast?_map, ← hp.cursor]
        exact hf
    · rw [List.getLast?_append, Option.map_or, Option.or_assoc, ← hp.cursor]
      exact hcursor
    · intro q hq
      rcases List.mem_append.1 hq with hq | hq
      · exact ⟨t, by simp, handed_of_progress hp q hq⟩
      · obtain ⟨u, hu, hh⟩ := hhanded q hq
        exact ⟨u, by simp [hu], hh⟩

/-- **Exactly once, in order.** Whatever the attempts of a run are, the heights that the handler
accepts are the first part of the agenda, without repetition and ascending, and its cursor stands at
the last of them. No attempt goes on for ever: what it asks for is a first part of the agenda too,
which ends with the greatest height. -/
theorem accepted_in_order {turns : List (Turn σ)}
    (hturns : ∀ t ∈ turns, t.Obeys history starting) (s : σ) :
    (∃ done : List (Height × List Event),
      (history (runAll turns s)).accepted = (history s).accepted ++ done ∧
      done.map Prod.fst <+: agenda starting (history s).cursor ∧
      (done.map Prod.fst).Pairwise (· < ·) ∧
      (history (runAll turns s)).cursor = (done.getLast?.map Prod.fst).or (history s).cursor) ∧
    ∀ t ∈ turns, ∀ s, ∃ asked, (history (t.run s)).asked = (history s).asked ++ asked ∧
      asked <+: agenda starting (history s).cursor := by
  constructor
  · obtain ⟨done, hdone, hf, hcursor, -⟩ := runAll_accepts hturns s
    have hprefix := follows_iff_starts.1 hf
    exact ⟨done, hdone, hprefix, (agenda_pairwise _ _).sublist hprefix.sublist, hcursor⟩
  · intro t ht s
    obtain ⟨target, d, hd, hp⟩ := run_progress (hturns t ht) s
    exact ⟨d.asked, by rw [hd]; rfl, follows_iff_starts.1 hp.follows⟩

/-- The handler refuses height 2, the retry is dropped after four operations, and a third attempt
sees a higher latest height. -/
def mended : List (Turn History) :=
  [{ env := History.surroundings 3 (fun _ => .ok []) fun h => if h = 2 then some (.other "busy") else none
     config := { starting := 2 } },
   { env := History.surroundings 3 (fun _ => .ok []) fun _ => none
     config := { starting := 2, window := .ofSize 1 }
     isRetry := true
     limit := some 4 },
   { env := History.surroundings 5 (fun _ => .ok []) fun _ => none
     config := { starting := 2, window := .ofSize 2 } }]

theorem mended_in_order :
    (runAll mended {}).accepted.map Prod.fst = [0, 2, 3, 4, 5] ∧
      ∃ done : List (Height × List Event), (runAll mended {}).accepted = [] ++ done ∧
        done.map Prod.fst <+: agenda 2 none ∧ (done.map Prod.fst).Pairwise (· < ·) ∧
        (runAll mended {}).cursor = (done.getLast?.map Prod.fst).or none := by
  have hobeys : ∀ t ∈ mended, t.Obeys id 2 := by
    intro t ht
    simp only [mended, List.mem_cons, List.not_mem_nil, or_false] at ht
    rcases ht with rfl | rfl | rfl <;> exact ⟨History.surroundings_keeps _ _ _, rfl⟩
  exact ⟨by decide +kernel, (accepted_in_order hobeys {}).1⟩

end Turn

end Manager

end ChainIndexer
