import ChainIndexer.Proofs.Attempt

/-!
# Progress

What an attempt adds to the history is in order: the heights that it asks for go on at the resume
point, none above the target, and what is accepted is the first part of them, each with the events
of the commands that were fetched for it (`Progress`). A window keeps this (`WindowEnds.progress`),
so a walk does (`Course.progress`), and so does an attempt (`AttemptEnds.progress`).
-/

namespace ChainIndexer

namespace Manager

/-- What a part of an attempt adds to the history: the heights asked for go on from the cursor, up
to the target; the first of them are accepted, each with the events of its commands. -/
structure Progress {σ : Type} (env : Surroundings σ) (starting target : Height) (cursor : Option Height)
    (d : History) : Prop where
  follows : Follows starting cursor d.asked
  below : ∀ h ∈ d.asked, h ≤ target
  accepted : d.accepted.map Prod.fst <+: d.asked
  cursor : d.cursor = d.accepted.getLast?.map Prod.fst
  events : ∀ q ∈ d.accepted, ∃ commands, (q.1, .done (.ok commands)) ∈ d.answers ∧
    Command.executeAll q.1 commands = .ok q.2
  answers : ∀ p ∈ d.answers, ∃ first last finished, Gave env first last finished ∧ p ∈ finished

variable {σ : Type} {env : Surroundings σ} {history : σ → History}
  {starting target current first last : Height} {cursor : Option Height} {H H' d d' : History}
  {config : ManagerConfig} {committed : Option Height} {r : Except Halt (Option Height)}

theorem Progress.nothing : Progress env starting target cursor {} where
  follows := trivial
  below := by simp
  accepted := List.nil_prefix
  cursor := rfl
  events := by simp
  answers := by simp

/-- Where all heights asked for were accepted, an attempt may go on from the last of them. -/
theorem Progress.followedBy (hd : Progress env starting target cursor d)
    (hall : d.accepted.map Prod.fst = d.asked)
    (hd' : Progress env starting target (d.cursor.or cursor) d') :
    Progress env starting target cursor (d.followedBy d') where
  follows := by
    refine follows_append.2 ⟨hd.follows, ?_⟩
    rw [← hall, List.getLast?_map, ← hd.cursor]
    exact hd'.follows
  below := fun h hh => (List.mem_append.1 hh).elim (hd.below h) (hd'.below h)
  accepted := by
    simp only [History.followedBy, List.map_append, hall]
    exact (List.prefix_append_right_inj _).2 hd'.accepted
  cursor := by
    simp only [History.followedBy, hd.cursor, hd'.cursor, List.getLast?_append]
    cases d'.accepted.getLast? <;> rfl
  events := by
    intro q hq
    rcases List.mem_append.1 hq with hq | hq
    · obtain ⟨commands, hm, hx⟩ := hd.events q hq
      exact ⟨commands, List.mem_append_left _ hm, hx⟩
    · obtain ⟨commands, hm, hx⟩ := hd'.events q hq
      exact ⟨commands, List.mem_append_right _ hm, hx⟩
  answers := fun p hp => (List.mem_append.1 hp).elim (hd.answers p) (hd'.answers p)

theorem Progress.refused (hd : Progress env starting target cursor d)
    (refused : List (Height × List Event)) :
    Progress env starting target cursor { d with refused } :=
  ⟨hd.follows, hd.below, hd.accepted, hd.cursor, hd.events, hd.answers⟩

theorem map_fst_of_carried {done : List (Height × List Command)} {events : List (Height × List Event)}
    (hd : List.Forall₂ Carried done events) : events.map Prod.fst = done.map Prod.fst := by
  rw [← List.forall₂_eq_eq_eq, List.forall₂_map_left_iff, List.forall₂_map_right_iff]
  exact hd.flip.imp fun q p hc => hc.1

theorem progress_of_answers {finished : List (Height × Outcome (List Command))}
    (hf : Follows starting cursor (Height.range first last)) (hlast : last ≤ target)
    (hg : Gave env first last finished) :
    Progress env starting target cursor (.ofAnswers first last finished) where
  follows := hf
  below := fun h hh => Height.le_trans (Height.mem_range.1 hh).2 hlast
  accepted := List.nil_prefix
  cursor := rfl
  events := by simp [History.ofAnswers]
  answers := fun p hp => ⟨first, last, finished, hg, hp⟩

theorem progress_of_settle {finished : List (Height × Outcome (List Command))}
    {done rest : List (Height × List Command)} {events : List (Height × List Event)}
    (hf : Follows starting cursor (Height.range first last)) (hlast : last ≤ target)
    (hg : Gave env first last finished) (hs : Batch.settle first last finished = .ok (done ++ rest))
    (hd : List.Forall₂ Carried done events) :
    Progress env starting target cursor (.ofWindow first last finished events) := by
  obtain ⟨hheights, hmem⟩ := Batch.settle_eq_ok hs
  constructor
  · exact hf
  · exact fun h hh => Height.le_trans (Height.mem_range.1 hh).2 hlast
  · simp only [History.ofWindow, map_fst_of_carried hd, ← hheights, List.map_append]
    exact List.prefix_append _ _
  · rfl
  · intro q hq
    obtain ⟨p, hp, hpq⟩ := exists_of_mem_right hd hq
    refine ⟨p.2, ?_, ?_⟩
    · rw [hpq.1]
      exact hmem p (List.mem_append_left _ hp)
    · rw [hpq.1]
      exact hpq.2
  · exact fun p hp => ⟨first, last, finished, hg, hp⟩

/-- A window all of whose heights were fetched and accepted. -/
structure Whole (env : Surroundings σ) (first last : Height) (d : History) : Prop where
  cursor : d.cursor = some last
  asked : d.asked = Height.range first last
  accepted : d.accepted.map Prod.fst = d.asked
  refused : d.refused = []
  gave : Gave env first last d.answers
  settled : ∃ heights, Batch.settle first last d.answers = .ok heights

theorem WindowEnds.whole (hf : Follows starting H.cursor (Height.range first last))
    (hle : first ≤ last) (hlast : last ≤ target) {committed' : Option Height}
    (hw : WindowEnds env history first last committed H (.ok committed') H') :
    ∃ d, H' = H.followedBy d ∧ Progress env starting target H.cursor d ∧ Whole env first last d := by
  cases hw with
  | @committed finished done events hg hs hd =>
    have hheights := (Batch.settle_eq_ok hs).1
    have hmap := map_fst_of_carried hd
    have hevents : events.getLast?.map Prod.fst = some last := by
      rw [← List.getLast?_map, hmap, hheights, Height.getLast?_range hle]
    have hrest : Batch.settle first last finished = .ok (done ++ []) := by rwa [List.append_nil]
    exact ⟨_, rfl, progress_of_settle hf hlast hg hrest hd, hevents, rfl, hmap.trans hheights, rfl,
      hg, done, hs⟩

theorem WindowEnds.progress (hf : Follows starting H.cursor (Height.range first last))
    (hlast : last ≤ target) (hw : WindowEnds env history first last committed H r H') :
    ∃ d, H' = H.followedBy d ∧ Progress env starting target H.cursor d := by
  cases hw with
  | unasked => exact ⟨{}, (H.followedBy_nothing).symm, .nothing⟩
  | silent =>
    refine ⟨_, rfl, hf, ?_, List.nil_prefix, rfl, by simp [History.ofAsked], by simp [History.ofAsked]⟩
    exact fun h hh => Height.le_trans (Height.mem_range.1 hh).2 hlast
  | unfetched hg hs => exact ⟨_, rfl, progress_of_answers hf hlast hg⟩
  | dropped hg hs hd => exact ⟨_, rfl, progress_of_settle hf hlast hg hs hd⟩
  | @uncommitted finished done rest carried height commands e H' hg hs hd he =>
    have hp := progress_of_settle hf hlast hg hs hd
    cases he with
    | command => exact ⟨_, rfl, hp⟩
    | @handler events _ _ hx ht hr =>
      exact ⟨_, History.followedBy_ofRefused _ _ rfl _ _, hp.refused _⟩
  | @committed finished done events hg hs hd =>
    have hrest : Batch.settle first last finished = .ok (done ++ []) := by rwa [List.append_nil]
    exact ⟨_, rfl, progress_of_settle hf hlast hg hrest hd⟩

theorem follows_window (config : ManagerConfig) (target : Height)
    (hcur : resumeHeight cursor starting = some current) :
    Follows starting cursor (Height.range current (config.window.lastOf current target)) := by
  refine follows_range hcur fun h0 => ?_
  rw [Window.lastOf, if_pos h0]

theorem Course.progress (hc : Course env history config target current committed H r H')
    (hcur : resumeHeight H.cursor config.starting = some current) :
    ∃ d, H' = H.followedBy d ∧ Progress env config.starting target H.cursor d := by
  induction hc with
  | passed h => exact ⟨{}, (History.followedBy_nothing _).symm, .nothing⟩
  | halt h hw =>
    exact hw.progress (follows_window config target hcur) (config.window.lastOf_le h)
  | top h hw hn =>
    exact hw.progress (follows_window config target hcur) (config.window.lastOf_le h)
  | @next current next committed committed' H H' H'' r h hw hn hc ih =>
    obtain ⟨d, rfl, hp, hwhole⟩ := hw.whole (follows_window config target hcur)
      (Height.le_iff.2 (config.window.le_lastOf h)) (config.window.lastOf_le h)
    have hcur' : resumeHeight (H.followedBy d).cursor config.starting = some next := by
      simpa [History.followedBy, hwhole.cursor] using hn
    obtain ⟨d', rfl, hp'⟩ := ih hcur'
    exact ⟨d.followedBy d', History.followedBy_assoc _ _ _, hp.followedBy hwhole.accepted hp'⟩

theorem AttemptEnds.progress {isRetry : Bool} {status : Status} {s : σ}
    (ha : AttemptEnds env history config isRetry status s r H') :
    ∃ target d, H' = (history s).followedBy d ∧
      Progress env config.starting target (history s).cursor d := by
  cases ha with
  | walked hcur hl h hc =>
    obtain ⟨d, hd, hp⟩ := hc.progress hcur
    exact ⟨_, d, hd, hp⟩
  | _ => exact ⟨0, {}, (History.followedBy_nothing _).symm, .nothing⟩

/-- What surroundings give that end the run early, they would also give otherwise. -/
theorem Gave.of_limited {finished : List (Height × Outcome (List Command))}
    (hg : Gave env.limited first last finished) : Gave env first last finished := by
  obtain ⟨status, ⟨_ | n, s⟩, txs, h⟩ := hg
  · cases h
  · exact ⟨status, s, txs, h⟩

theorem Progress.of_limited (hp : Progress env.limited starting target cursor d) :
    Progress env starting target cursor d where
  follows := hp.follows
  below := hp.below
  accepted := hp.accepted
  cursor := hp.cursor
  events := hp.events
  answers := by
    intro p hm
    obtain ⟨first, last, finished, hg, hf⟩ := hp.answers p hm
    exact ⟨first, last, finished, hg.of_limited, hf⟩

end Manager

end ChainIndexer
