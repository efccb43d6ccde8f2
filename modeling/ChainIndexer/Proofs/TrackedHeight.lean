import ChainIndexer.Proofs.ClockedPolls
import ChainIndexer.Sim.Heights
import ChainIndexer.Sync.Followers

/-!
# The tracked height is the greatest one answered

Whoever polls, and in whatever order the answers come, the published height is the greatest of the
heights answered so far, and it is published anew exactly when it rises. Heights are compared by
`Tracker.rank`, where no height at all comes first: one answer raises the rank to the maximum of two
(`rank_observe`), and all else follows from that.
-/

namespace ChainIndexer

/-! ## One answer -/

namespace Tracker

def rank : Option Height → Nat
  | none => 0
  | some height => height.toNat + 1

theorem lt_iff_rank {p q : Option Height} : p < q ↔ rank p < rank q := by
  cases p with
  | none =>
    cases q with
    | none => exact ⟨fun h => absurd h Option.not_lt_none, fun h => absurd h (Nat.lt_irrefl _)⟩
    | some h => exact ⟨fun _ => Nat.succ_pos _, fun _ => trivial⟩
  | some g =>
    cases q with
    | none => exact ⟨fun h => absurd h Option.not_lt_none, fun h => absurd h (Nat.not_lt_zero _)⟩
    | some h => rw [Option.some_lt_some, Height.lt_iff, rank, rank, Nat.add_lt_add_iff_right]

theorem rank_some_le_iff {height : Height} {p : Option Height} :
    rank (some height) ≤ rank p ↔ ∃ h, p = some h ∧ height ≤ h := by
  cases p with
  | none => exact iff_of_false (Nat.not_succ_le_zero _) fun ⟨h, hp, _⟩ => by cases hp
  | some h =>
    rw [rank, rank, Nat.add_le_add_iff_right, ← Height.le_iff]
    exact ⟨fun hle => ⟨h, rfl, hle⟩, fun ⟨h', hp, hle⟩ => Option.some.inj hp ▸ hle⟩

theorem isNews_iff (t : Tracker) (height : Height) :
    t.isNews height = true ↔ rank t.published < rank (some height) := by
  rw [← lt_iff_rank, isNews]
  cases t.published with
  | none => exact ⟨fun _ => trivial, fun _ => rfl⟩
  | some h => rw [decide_eq_true_eq, Option.some_lt_some]

/-- An answer is published if it is higher than all before, or else it changes nothing. -/
theorem observe_cases (t : Tracker) (answer : Option Height) :
    rank answer ≤ rank t.published ∧ t.observe answer = t ∨
      rank t.published < rank answer ∧ t.observe answer = ⟨answer, t.publications + 1⟩ := by
  cases answer with
  | none => exact .inl ⟨Nat.zero_le _, rfl⟩
  | some height =>
    by_cases hnews : t.isNews height = true
    · exact .inr ⟨(isNews_iff t height).1 hnews, if_pos hnews⟩
    · exact .inl ⟨Nat.not_lt.1 (mt (isNews_iff t height).2 hnews), if_neg hnews⟩

theorem rank_observe (t : Tracker) (answer : Option Height) :
    rank (t.observe answer).published = max (rank t.published) (rank answer) := by
  rcases t.observe_cases answer with ⟨hle, he⟩ | ⟨hlt, he⟩
  · rw [he, Nat.max_eq_left hle]
  · rw [he, Nat.max_eq_right (Nat.le_of_lt hlt)]

/-- After polls there are more publications exactly if the published height is higher. -/
theorem Polled.same_or_rises {t t' : Tracker} (h : t.Polled t') :
    t' = t ∨ t.publications < t'.publications ∧ rank t.published < rank t'.published := by
  obtain ⟨answers, rfl⟩ := h
  induction answers generalizing t with
  | nil => exact .inl rfl
  | cons answer answers ih =>
    have hrest := ih (t := t.observe answer)
    change (t.observe answer).observeAll answers = t ∨
      t.publications < ((t.observe answer).observeAll answers).publications ∧
        rank t.published < rank ((t.observe answer).observeAll answers).published
    rcases t.observe_cases answer with ⟨-, he⟩ | ⟨hlt, he⟩
    · rw [he] at hrest ⊢
      exact hrest
    · have hpublished : (t.observe answer).published = answer := by rw [he]
      have hpublications : (t.observe answer).publications = t.publications + 1 := by rw [he]
      rcases hrest with hsame | ⟨hmore, hrises⟩
      · rw [hsame, hpublished]
        omega
      · rw [hpublished] at hrises
        omega

theorem Polled.rank_le {t t' : Tracker} (h : t.Polled t') :
    rank t.published ≤ rank t'.published := by
  rcases h.same_or_rises with rfl | ⟨-, hlt⟩
  · exact Nat.le_refl _
  · exact Nat.le_of_lt hlt

/-- **A receiver is notified exactly when the published height rises.** -/
theorem Polled.hasChanged_iff {t t' : Tracker} (h : t.Polled t') :
    (Receiver.subscribe t).hasChanged t' = true ↔ t.published < t'.published := by
  rw [lt_iff_rank, Receiver.hasChanged, Receiver.subscribe, decide_eq_true_eq]
  rcases h.same_or_rises with rfl | ⟨hmore, hrises⟩
  · exact iff_of_false (fun hne => hne rfl) (Nat.lt_irrefl _)
  · exact iff_of_true (Nat.ne_of_lt hmore) hrises

theorem isSome_iff_rank {p : Option Height} : p.isSome = true ↔ 0 < rank p := by
  cases p with
  | none => exact iff_of_false Bool.false_ne_true (Nat.lt_irrefl 0)
  | some h => exact iff_of_true rfl (Nat.succ_pos _)

end Tracker

open Tracker (rank)

/-- The greatest of the heights that were answered, none if there was none. -/
structure Peak (answers : List (Option Height)) (p : Option Height) : Prop where
  answered : ∀ height, p = some height → some height ∈ answers
  greatest : ∀ height, some height ∈ answers → ∃ h, p = some h ∧ height ≤ h

theorem Peak.observe {answers : List (Option Height)} {t : Tracker}
    (h : Peak answers t.published) (answer : Option Height) :
    Peak (answers ++ [answer]) (t.observe answer).published := by
  refine ⟨fun height hp => ?_, fun height hmem => ?_⟩
  · rcases t.observe_cases answer with ⟨-, he⟩ | ⟨-, he⟩
    · rw [he] at hp
      exact List.mem_append_left _ (h.answered height hp)
    · rw [he] at hp
      exact List.mem_append_right _ (List.mem_singleton.2 hp.symm)
  · rw [← Tracker.rank_some_le_iff, Tracker.rank_observe]
    rcases List.mem_append.1 hmem with hmem | hmem
    · exact Nat.le_trans (Tracker.rank_some_le_iff.2 (h.greatest height hmem)) (Nat.le_max_left ..)
    · rw [List.mem_singleton.1 hmem]
      exact Nat.le_max_right ..

/-! ## Any number of tasks -/

namespace Crowd

variable {c : Crowd}

/-- What a move can do to what is noted: nothing, take an answer, or return the published height. -/
theorem step_cases (c : Crowd) (move : Move) :
    ((c.step move).tracker = c.tracker ∧ (c.step move).answers = c.answers ∧
        (c.step move).returned = c.returned) ∨
      (∃ answer, (c.step move).tracker = c.tracker.observe answer ∧
        (c.step move).answers = c.answers ++ [answer] ∧
        (c.step move).returned = c.returned) ∨
      ∃ task height, c.tracker.published = some height ∧ (c.step move).tracker = c.tracker ∧
        (c.step move).answers = c.answers ∧
        (c.step move).returned = c.returned ++ [(task, height)] := by
  cases move with
  | startPoller => exact .inl ⟨rfl, rfl, rfl⟩
  | startCall => exact .inl ⟨rfl, rfl, rfl⟩
  | drop task => exact .inl ⟨rfl, rfl, rfl⟩
  | act task answer =>
    rw [step]
    cases c.tasks.getD task .gone with
    | ticking => exact .inl ⟨rfl, rfl, rfl⟩
    | resting => exact .inl ⟨rfl, rfl, rfl⟩
    | gone => exact .inl ⟨rfl, rfl, rfl⟩
    | polling => exact .inr (.inl ⟨answer, rfl, rfl, rfl⟩)
    | asking => exact .inr (.inl ⟨answer, rfl, rfl, rfl⟩)
    | looking =>
      rw [act, look]
      split
      · rename_i height hpublished
        exact .inr (.inr ⟨task, height, hpublished, rfl, rfl, rfl⟩)
      · exact .inl ⟨rfl, rfl, rfl⟩

/-- The answer that a task takes with this move, if it waits for one. -/
def hears (c : Crowd) : Move → Option (Option Height)
  | .act task answer =>
    if c.tasks[task]? = some .polling ∨ c.tasks[task]? = some .asking then some answer else none
  | _ => none

/-- The answers that tasks take in these moves, in order. -/
def heard (c : Crowd) : List Move → List (Option Height)
  | [] => []
  | move :: moves => (c.hears move).toList ++ (c.step move).heard moves

theorem step_answers (c : Crowd) (move : Move) :
    (c.step move).answers = c.answers ++ (c.hears move).toList := by
  cases move with
  | startPoller => exact (List.append_nil _).symm
  | startCall => exact (List.append_nil _).symm
  | drop task => exact (List.append_nil _).symm
  | act task answer =>
    rw [step, hears, List.getD_eq_getElem?_getD]
    rcases htask : c.tasks[task]? with _ | f
    · exact (List.append_nil _).symm
    cases f with
    | polling => rfl
    | asking => rfl
    | ticking => exact (List.append_nil _).symm
    | resting => exact (List.append_nil _).symm
    | gone => exact (List.append_nil _).symm
    | looking =>
      change (c.look task).answers = _
      rw [look]
      split
      · exact (List.append_nil _).symm
      · exact (List.append_nil _).symm

theorem run_answers (c : Crowd) (moves : List Move) :
    (c.run moves).answers = c.answers ++ c.heard moves := by
  induction moves generalizing c with
  | nil => exact (List.append_nil _).symm
  | cons move moves ih =>
    have hrest : (c.run (move :: moves)).answers = _ := ih (c.step move)
    rw [hrest, step_answers, heard, List.append_assoc]

/-- The published height is the greatest one answered, and calls return ever higher ones. -/
structure Sound (c : Crowd) : Prop where
  peak : Peak c.answers c.tracker.published
  returned : ∀ r ∈ c.returned, rank (some r.2) ≤ rank c.tracker.published
  ascending : c.returned.Pairwise fun r r' => r.2 ≤ r'.2

theorem Sound.step (h : c.Sound) (move : Move) : (c.step move).Sound := by
  rcases c.step_cases move with ⟨ht, ha, hr⟩ | ⟨answer, ht, ha, hr⟩ |
    ⟨task, height, hpublished, ht, ha, hr⟩
  · exact ⟨by rw [ht, ha]; exact h.peak, by rw [ht, hr]; exact h.returned, hr ▸ h.ascending⟩
  · refine ⟨by rw [ht, ha]; exact h.peak.observe answer, fun r hmem => ?_, hr ▸ h.ascending⟩
    rw [hr] at hmem
    rw [ht, Tracker.rank_observe]
    exact Nat.le_trans (h.returned r hmem) (Nat.le_max_left ..)
  · refine ⟨by rw [ht, ha]; exact h.peak, fun r hmem => ?_, ?_⟩
    · rw [hr] at hmem
      rw [ht]
      rcases List.mem_append.1 hmem with hmem | hmem
      · exact h.returned r hmem
      · rw [hpublished]
        exact Nat.le_of_eq (congrArg (fun p => rank (some p.2)) (List.mem_singleton.1 hmem))
    · rw [hr, List.pairwise_append]
      refine ⟨h.ascending, List.pairwise_singleton .., fun r hmem r' hlast => ?_⟩
      obtain ⟨h', hp, hle⟩ := Tracker.rank_some_le_iff.1 (h.returned r hmem)
      rw [hpublished] at hp
      rw [List.mem_singleton.1 hlast, Option.some.inj hp]
      exact hle

theorem Sound.run (h : c.Sound) (moves : List Move) : (c.run moves).Sound := by
  induction moves generalizing c with
  | nil => exact h
  | cons move moves ih => exact ih (h.step move)

theorem sound_empty : ({} : Crowd).Sound where
  peak := ⟨fun _ h => (by cases h), fun _ h => (by cases h)⟩
  returned := fun _ h => (by cases h)
  ascending := .nil

theorem run_tracker (c : Crowd) (moves : List Move) :
    ∃ more, (c.run moves).answers = c.answers ++ more ∧
      (c.run moves).tracker = c.tracker.observeAll more := by
  induction moves generalizing c with
  | nil => exact ⟨[], (List.append_nil _).symm, rfl⟩
  | cons move moves ih =>
    obtain ⟨more, hanswers, htracker⟩ := ih (c.step move)
    change ∃ more, ((c.step move).run moves).answers = c.answers ++ more ∧
      ((c.step move).run moves).tracker = c.tracker.observeAll more
    rw [hanswers, htracker]
    rcases c.step_cases move with ⟨ht, ha, -⟩ | ⟨answer, ht, ha, -⟩ | ⟨_, _, -, ht, ha, -⟩
    · rw [ht, ha]
      exact ⟨more, rfl, rfl⟩
    · rw [ht, ha]
      exact ⟨answer :: more, List.append_assoc .., rfl⟩
    · rw [ht, ha]
      exact ⟨more, rfl, rfl⟩

theorem run_polled (c : Crowd) (moves : List Move) : c.tracker.Polled (c.run moves).tracker := by
  obtain ⟨more, -, htracker⟩ := c.run_tracker moves
  exact ⟨more, htracker⟩

theorem run_tracker_of_failures {moves : List Move}
    (h : ∀ answer ∈ (c.run moves).answers.drop c.answers.length, answer = none) :
    (c.run moves).tracker = c.tracker := by
  obtain ⟨more, hanswers, htracker⟩ := c.run_tracker moves
  rw [hanswers, List.drop_left] at h
  rw [htracker]
  clear hanswers htracker
  induction more with
  | nil => rfl
  | cons answer more ih =>
    obtain ⟨rfl, hmore⟩ := List.forall_mem_cons.1 h
    exact ih hmore

/-! ## Calls return -/

def Steps (task : Nat) : Move → Bool
  | .act t _ => t == task
  | _ => false

/-- How many steps a call needs at most, once a height is published. -/
def stepsLeft : Follower → Nat
  | .looking => 1
  | .resting => 2
  | .asking => 3
  | .ticking | .polling | .gone => 0

theorem stepsLeft_pos {f : Follower} (hcall : f.isCall = true) : 0 < stepsLeft f := by
  cases f with
  | looking => exact Nat.one_pos
  | resting => exact Nat.two_pos
  | asking => exact Nat.succ_pos 2
  | _ => cases hcall

theorem mem_returned_run {r : Nat × Height} (h : r ∈ c.returned) (moves : List Move) :
    r ∈ (c.run moves).returned := by
  induction moves generalizing c with
  | nil => exact h
  | cons move moves ih =>
    apply ih
    rcases c.step_cases move with ⟨-, -, hr⟩ | ⟨_, -, -, hr⟩ | ⟨_, _, -, -, -, hr⟩
    · rwa [hr]
    · rwa [hr]
    · rw [hr]
      exact List.mem_append_left _ h

theorem act_tasks_of_ne {t task : Nat} (h : t ≠ task) (c : Crowd) (answer : Option Height)
    (f : Follower) : (c.act t answer f).tasks[task]? = c.tasks[task]? := by
  cases f with
  | gone => rfl
  | looking =>
    rw [act, look]
    split
    · exact List.getElem?_set_ne h
    · exact List.getElem?_set_ne h
  | _ => exact List.getElem?_set_ne h

theorem step_others {task : Nat} {f : Follower} (htask : c.tasks[task]? = some f) {move : Move}
    (hdrop : move ≠ .drop task) (hsteps : Steps task move = false) :
    (c.step move).tasks[task]? = some f := by
  have hlen : task < c.tasks.length := (List.getElem?_eq_some_iff.1 htask).1
  cases move with
  | startPoller => exact (List.getElem?_append_left hlen).trans htask
  | startCall => exact (List.getElem?_append_left hlen).trans htask
  | drop t =>
    have hne : t ≠ task := fun h => hdrop (h ▸ rfl)
    exact (List.getElem?_set_ne hne).trans htask
  | act t answer =>
    have hne : t ≠ task := ne_of_beq_false hsteps
    exact (act_tasks_of_ne hne c answer _).trans htask

/-- Once a height is published, a step of a call returns it or brings the call closer to that. -/
theorem step_call {task : Nat} {f : Follower} {height : Height}
    (hpublished : c.tracker.published = some height) (htask : c.tasks[task]? = some f)
    (hcall : f.isCall = true) (answer : Option Height) :
    (task, height) ∈ (c.step (.act task answer)).returned ∨
      ∃ f', (c.step (.act task answer)).tasks[task]? = some f' ∧ f'.isCall = true ∧
        stepsLeft f' < stepsLeft f := by
  have hlen : task < c.tasks.length := (List.getElem?_eq_some_iff.1 htask).1
  have hstep : c.step (.act task answer) = c.act task answer f := by
    rw [step, List.getD_eq_getElem?_getD, htask, Option.getD_some]
  rw [hstep]
  cases f with
  | looking =>
    rw [act, look, hpublished]
    exact .inl (List.mem_append_right _ (List.mem_singleton.2 rfl))
  | resting => exact .inr ⟨.looking, List.getElem?_set_self hlen, rfl, by decide⟩
  | asking =>
    refine .inr ⟨_, List.getElem?_set_self hlen, ?_⟩
    cases answer with
    | none => exact ⟨rfl, by simp [stepsLeft]⟩
    | some h => exact ⟨rfl, by simp [stepsLeft]⟩
  | ticking => cases hcall
  | polling => cases hcall
  | gone => cases hcall

/-- **A call returns**: once a height is published, three more steps of it suffice. -/
theorem call_returns {task : Nat} {f : Follower} {moves : List Move}
    (hpublished : c.tracker.published.isSome = true) (htask : c.tasks[task]? = some f)
    (hcall : f.isCall = true) (hdrop : Move.drop task ∉ moves)
    (hsteps : stepsLeft f ≤ moves.countP (Steps task)) :
    ∃ height, (task, height) ∈ (c.run moves).returned := by
  induction moves generalizing c f with
  | nil => exact absurd (stepsLeft_pos hcall) (Nat.not_lt.2 hsteps)
  | cons move moves ih =>
    obtain ⟨hmove, hrest⟩ := not_or.1 (mt List.mem_cons.2 hdrop)
    have hstill : (c.step move).tracker.published.isSome = true := by
      rw [Tracker.isSome_iff_rank] at hpublished ⊢
      exact Nat.lt_of_lt_of_le hpublished (c.run_polled [move]).rank_le
    by_cases hown : Steps task move = true
    · rw [List.countP_cons_of_pos hown] at hsteps
      obtain ⟨height, hheight⟩ := Option.isSome_iff_exists.1 hpublished
      obtain ⟨answer, rfl⟩ : ∃ answer, move = .act task answer := by
        cases move with
        | act t answer => exact ⟨answer, by rw [eq_of_beq hown]⟩
        | _ => cases hown
      rcases step_call hheight htask hcall answer with hreturned | ⟨f', htask', hcall', hless⟩
      · exact ⟨height, mem_returned_run hreturned moves⟩
      · exact ih hstill htask' hcall' hrest (by omega)
    · rw [List.countP_cons_of_neg hown] at hsteps
      have htask' := step_others htask (Ne.symm hmove) (Bool.not_eq_true _ ▸ hown)
      exact ih hstill htask' hcall hrest hsteps

/-! ## One call for itself -/

theorem run_append (c : Crowd) (moves more : List Move) :
    c.run (moves ++ more) = (c.run moves).run more := List.foldl_append

theorem step_alone {f : Follower} (htasks : c.tasks = [f]) (answer : Option Height) :
    c.step (.act 0 answer) = c.act 0 answer f := by
  rw [step, htasks]
  rfl

theorem return_once {t : Tracker} {height : Height} (hc : c.tracker = t)
    (htasks : c.tasks = [.looking]) (hreturned : c.returned = [])
    (hpublished : t.published = some height) :
    ∃ moves, (c.run moves).tracker = t ∧
      ∀ h, some height = some h → (c.run moves).returned = [(0, h)] := by
  subst hc
  refine ⟨[.act 0 none], ?_⟩
  rw [run, List.foldl_cons, step_alone htasks, act, look, hpublished, hreturned]
  exact ⟨rfl, fun h he => Option.some.inj he ▸ rfl⟩

theorem ask_once (htasks : c.tasks = [.looking]) (hpublished : c.tracker.published = none)
    (answer : Option Height) :
    ∃ moves, (c.run moves).tracker = c.tracker.observe answer ∧
      (c.run moves).tasks = [.looking] ∧ (c.run moves).returned = c.returned := by
  have hasks : c.step (.act 0 none) = c.put 0 .asking := by
    rw [step_alone htasks, act, look, hpublished]
  have htasks' : (c.put 0 .asking).tasks = [.asking] := congrArg (·.set 0 .asking) htasks
  cases answer with
  | some height =>
    refine ⟨[.act 0 none, .act 0 (some height)], ?_⟩
    rw [run, List.foldl_cons, hasks, List.foldl_cons, step_alone htasks']
    exact ⟨rfl, congrArg (·.set 0 .looking) htasks', rfl⟩
  | none =>
    have htasks'' : ((c.put 0 .asking).act 0 none .asking).tasks = [.resting] :=
      congrArg (·.set 0 .resting) htasks'
    refine ⟨[.act 0 none, .act 0 none, .act 0 none], ?_⟩
    rw [run, List.foldl_cons, hasks, List.foldl_cons, step_alone htasks', List.foldl_cons,
      step_alone htasks'']
    exact ⟨rfl, congrArg (·.set 0 .looking) htasks'', rfl⟩

/-- A simulated tracker asks the node as one call does that has the tracker for itself. -/
theorem latest_is_call (n : Nat) (s : Sim.Heights) (hc : c.tracker = s.tracker)
    (htasks : c.tasks = [.looking]) (hreturned : c.returned = []) :
    ∃ moves, (c.run moves).tracker = (s.latest n).2.tracker ∧
      ∀ height, (s.latest n).1 = some height → (c.run moves).returned = [(0, height)] := by
  induction n generalizing c s with
  | zero =>
    rw [Sim.Heights.latest]
    cases hpublished : s.tracker.published with
    | none => exact ⟨[], hc, fun _ hheight => by cases hheight⟩
    | some height => exact return_once hc htasks hreturned hpublished
  | succ n ih =>
    rw [Sim.Heights.latest]
    cases hpublished : s.tracker.published with
    | none =>
      obtain ⟨first, htracker, hlooking, hnone⟩ :=
        ask_once htasks (hc ▸ hpublished) s.script.head?.join
      have hpolled : (c.run first).tracker = s.poll.2.tracker := by rw [htracker, hc]; rfl
      obtain ⟨rest, hrest⟩ := ih s.poll.2 hpolled hlooking (hnone.trans hreturned)
      refine ⟨first ++ rest, ?_⟩
      rw [run_append]
      exact hrest
    | some height => exact return_once hc htasks hreturned hpublished

end Crowd

/-! ## The heights that a manager reads -/

variable {σ : Type}

/-- A state with notes of the latest heights that were read, the newest first. -/
structure Readings (σ : Type) where
  rest : σ
  heights : List Height := []

def Surroundings.reading (env : Surroundings σ) : Surroundings (Readings σ) where
  cursor status n :=
    let (r, rest) := env.cursor status n.rest
    (r, { n with rest })
  latest status n :=
    let (height, rest) := env.latest status n.rest
    (height, ⟨rest, height.toList ++ n.heights⟩)
  fetch status first last n :=
    let (r, rest) := env.fetch status first last n.rest
    (r, { n with rest })
  handle status height events n :=
    let (r, rest) := env.handle status height events n.rest
    (r, { n with rest })
  markSeen n := { n with rest := env.markSeen n.rest }
  news status n :=
    let (r, rest) := env.news status n.rest
    (r, { n with rest })
  pause status ms n :=
    let (r, rest) := env.pause status ms n.rest
    (r, { n with rest })

theorem reading_annotates (env : Surroundings σ) : env.reading.Annotates env Readings.rest where
  cursor _ _ := rfl
  latest _ _ := rfl
  fetch _ _ _ _ := rfl
  handle _ _ _ _ := rfl
  markSeen _ := rfl
  news _ _ := rfl
  pause _ _ _ := rfl

/-- The heights that were read never fell, and none is above the published one. -/
structure Rising (tracker : σ → Tracker) (n : Readings σ) : Prop where
  heights : n.heights.Pairwise (· ≥ ·)
  below : ∀ height ∈ n.heights, rank (some height) ≤ rank (tracker n.rest).published

namespace Rising

variable {tracker : σ → Tracker} {receiver : σ → Receiver} {n : Readings σ} {s : σ}

theorem polled (h : Rising tracker n) (hp : (tracker n.rest).Polled (tracker s)) :
    Rising tracker { n with rest := s } :=
  ⟨h.heights, fun height hmem => Nat.le_trans (h.below height hmem) hp.rank_le⟩

theorem marks (h : Rising tracker n) (hm : Marks tracker receiver n.rest s) :
    Rising tracker { n with rest := s } := by
  obtain ⟨t, ht, -, hp⟩ := hm
  exact h.polled (ht.trans hp)

theorem reads (h : Rising tracker n) {used : Option Height}
    (hm : (tracker n.rest).Polled (tracker s))
    (hread : ∀ height, used = some height → ∃ t,
      (tracker n.rest).Polled t ∧ t.published = some height ∧ t.Polled (tracker s)) :
    Rising tracker ⟨s, used.toList ++ n.heights⟩ := by
  cases used with
  | none => exact h.polled hm
  | some height =>
    obtain ⟨t, ht, hpublished, hp⟩ := hread height rfl
    refine ⟨List.pairwise_cons.2 ⟨fun older hmem => ?_, h.heights⟩, fun older hmem => ?_⟩
    · have hle := Nat.le_trans (h.below older hmem) ht.rank_le
      rw [hpublished] at hle
      obtain ⟨_, he, hle⟩ := Tracker.rank_some_le_iff.1 hle
      exact Option.some.inj he ▸ hle
    · rcases List.mem_cons.1 hmem with rfl | hmem
      · exact hpublished ▸ hp.rank_le
      · exact Nat.le_trans (h.below older hmem) hm.rank_le

end Rising

/-- In surroundings that share a tracker, a manager reads heights that never fall. -/
theorem rising_of_shares {env : Surroundings σ} {tracker : σ → Tracker} {receiver : σ → Receiver}
    (h : env.Shares tracker receiver) (config : ManagerConfig) (n : Nat) (s : σ) :
    (Manager.rounds env.reading config n ({}, { rest := s })).2.2.heights.Pairwise (· ≥ ·) := by
  have hpreserves : env.reading.Preserves fun _ => Rising tracker :=
    { cursor := fun hn => hn.polled (h.cursor _ _).1
      latest := fun hn => hn.reads (h.latest _ _).1 fun _ => h.reads
      fetch := fun hn _ _ => hn.polled (h.fetch _ _ _ _).1
      refuse := fun hn _ _ _ => hn.polled (h.handle _ _ _ _).1
      accept := fun hn _ _ _ => hn.polled (h.handle _ _ _ _).1 }
  have hstart : Rising tracker { rest := s } := ⟨.nil, fun _ hmem => by cases hmem⟩
  refine (Manager.rounds_preserves hpreserves ?_ ?_ ?_ config n {} hstart).heights
  · exact fun n hn => hn.marks (h.markSeen n.rest)
  · intro status n hn
    rcases h.news status n.rest with hm | hm
    · exact hn.polled hm.1
    · exact hn.marks hm
  · exact fun status ms n hn => hn.polled (h.pause status ms n.rest).1

/-! ## The tracked height -/

/-- What holds of tasks that share a tracker, wherever they stand and whatever `more` they do. -/
structure Crowd.Tracks (c : Crowd) : Prop where
  published : Peak c.answers c.tracker.published
  notified : ∀ more, (Receiver.subscribe c.tracker).hasChanged (c.run more).tracker = true ↔
    c.tracker.published < (c.run more).tracker.published
  failures : ∀ more, (∀ answer ∈ (c.run more).answers.drop c.answers.length, answer = none) →
    (c.run more).tracker = c.tracker
  returns : ∀ move, (c.step move).returned = c.returned ∨ ∃ task height,
    c.tracker.published = some height ∧ (c.step move).returned = c.returned ++ [(task, height)]
  ends : ∀ task f more, c.tracker.published.isSome = true → c.tasks[task]? = some f →
    f.isCall = true → .drop task ∉ more → 3 ≤ more.countP (Crowd.Steps task) →
      ∃ height, (task, height) ∈ (c.run more).returned
  ascending : c.returned.Pairwise fun r r' => r.2 ≤ r'.2

theorem Crowd.Sound.tracks {c : Crowd} (h : c.Sound) : c.Tracks where
  published := h.peak
  notified more := (c.run_polled more).hasChanged_iff
  failures _ := run_tracker_of_failures
  returns move := by
    rcases c.step_cases move with ⟨-, -, hr⟩ | ⟨_, -, -, hr⟩ | ⟨task, height, hpublished, -, -, hr⟩
    · exact .inl hr
    · exact .inl hr
    · exact .inr ⟨task, height, hpublished, hr⟩
  ends task f more hpublished htask hcall hdrop hsteps := by
    refine call_returns hpublished htask hcall hdrop (Nat.le_trans ?_ hsteps)
    cases f <;> decide
  ascending := h.ascending

/-- **The tracked height is the running maximum.** Let pollers and calls share a tracker and take
their steps in any order, with any answers. After each step the published height is the greatest one
that a task was answered so far; a receiver is notified exactly when it has risen; failures publish
nothing; and a call returns the height that is published then, at the latest with the third step of
its own after there is one. So whatever polls fall between the steps of a manager, the latest heights
that its attempts read never fall. -/
theorem tracked_maximum (moves : List Move) (env : Surroundings σ) (config : ManagerConfig) (s : σ)
    (tracker : Tracker) (schedule : Schedule) (n : Nat) :
    (({} : Crowd).run moves).answers = Crowd.heard {} moves ∧
      (({} : Crowd).run moves).Tracks ∧
      let run := Manager.rounds env.beside.reading config n
        ({}, { rest := .start s tracker schedule })
      Manager.rounds env.beside config n ({}, .start s tracker schedule)
          = (run.1, run.2.1, run.2.2.rest) ∧
        run.2.2.heights.Pairwise (· ≥ ·) := by
  refine ⟨Crowd.run_answers {} moves, (Crowd.sound_empty.run moves).tracks, ?_, ?_⟩
  · exact Manager.rounds_annotates (reading_annotates env.beside) config n {}
      { rest := .start s tracker schedule }
  · exact rising_of_shares (Beside.shares env) config n (.start s tracker schedule)

/-- A poller and a call ask at the same time, and the call has the lower answer last. -/
def crossing : List Move :=
  [.startPoller, .startCall, .act 0 none, .act 1 none, .act 0 (some 7), .act 1 (some 5), .act 1 none]

theorem crossing_tracked :
    Crowd.heard {} crossing = [some 7, some 5] ∧
      (({} : Crowd).run crossing).tracker.published = some 7 ∧
      (({} : Crowd).run crossing).returned = [(1, 7)] ∧
      Peak [some 7, some 5] (some 7) := by
  have hheard : Crowd.heard {} crossing = [some 7, some 5] := by decide
  have hpublished : (({} : Crowd).run crossing).tracker.published = some 7 := by decide
  obtain ⟨hanswers, htracks, -⟩ := tracked_maximum crossing
    (History.surroundings 7 (fun _ => .ok []) fun _ => none) {} {} {} [] 0
  have hpeak := htracks.published
  rw [hanswers, hheard, hpublished] at hpeak
  exact ⟨hheard, hpublished, by decide, hpeak⟩

theorem sim_heights_rise (config : ManagerConfig) (w : Sim.World) (n : Nat) :
    let run := Manager.rounds Sim.World.surroundings.reading config n ({}, { rest := w })
    Manager.rounds Sim.World.surroundings config n ({}, w) = (run.1, run.2.1, run.2.2.rest) ∧
      run.2.2.heights.Pairwise (· ≥ ·) :=
  ⟨Manager.rounds_annotates (reading_annotates Sim.World.surroundings) config n {} { rest := w },
    rising_of_shares Sim.World.shares config n w⟩

end ChainIndexer
