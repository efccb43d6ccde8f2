import ChainIndexer.Proofs.Wakeups
import ChainIndexer.Sim.World

/-!
# Polls by the clock

The world with a clock makes its polls at fixed times, and asks the chain itself while no height is
published. It owes the manager no less than surroundings where polls may fall anywhere
(`Sim.World.shares`), so no height is slept through there either (`sim_never_slept_through`).
-/

namespace ChainIndexer

namespace Sim.World

theorem poll_moves (w : World) : Moves tracker receiver w w.poll := ⟨.observe _ _, rfl⟩

theorem pollUntil_moves (status : Status) (time most : Nat) (w : World) :
    Moves tracker receiver w (pollUntil status time most w) := by
  induction most generalizing w with
  | zero => exact ⟨.refl _, rfl⟩
  | succ most ih =>
    unfold pollUntil
    split
    · rename_i t _
      split
      · have hrest := ih { ((w.goto status (max t w.clock)).poll) with
          pollsAt := some (t + (w.goto status (max t w.clock)).poll.interval) }
        exact ⟨Tracker.Polled.trans (.observe _ _) hrest.1, hrest.2⟩
      · exact ⟨.refl _, rfl⟩
    · exact ⟨.refl _, rfl⟩

theorem waitUntil_moves (status : Status) (time : Nat) (w : World) :
    Moves tracker receiver w (waitUntil status time w).2 :=
  pollUntil_moves status _ _ w

theorem awaitHeight_reads (status : Status) (most : Nat) (w : World) :
    Moves tracker receiver w (awaitHeight status most w).2 ∧
    ∀ {height}, (awaitHeight status most w).1 = some height → ∃ t, w.tracker.Polled t ∧
      t.published = some height ∧ t.Polled (awaitHeight status most w).2.tracker := by
  induction most generalizing w with
  | zero => exact ⟨⟨.refl _, rfl⟩, nofun⟩
  | succ most ih =>
    unfold awaitHeight
    split
    · rename_i height hpublished
      refine ⟨⟨.refl _, rfl⟩, fun hread => ⟨_, .refl _, ?_, .refl _⟩⟩
      rw [hpublished]
      exact hread
    · dsimp only
      split
      · rename_i height hpublished
        refine ⟨poll_moves w, fun hread => ⟨_, (poll_moves w).1, ?_, .refl _⟩⟩
        rw [hpublished]
        exact hread
      · have hwait := (poll_moves w).trans
          (waitUntil_moves status (w.poll.clock + w.poll.interval) w.poll)
        split
        · rename_i w' hrun
          rw [hrun] at hwait
          obtain ⟨hmoves, hreads⟩ := ih w'
          refine ⟨hwait.trans hmoves, fun hread => ?_⟩
          obtain ⟨t, ht, hpublished, hp⟩ := hreads hread
          exact ⟨t, hwait.1.trans ht, hpublished, hp⟩
        · rename_i w' hrun
          rw [hrun] at hwait
          exact ⟨hwait, nofun⟩

theorem fetchBatch_moves (status : Status) (first last : Height) (w : World) :
    Moves tracker receiver w (fetchBatch status first last w).2 := by
  unfold fetchBatch
  dsimp only
  split
  · rename_i w' hrun
    have hwait := congrArg Prod.snd hrun
    dsimp only at hwait
    rw [← hwait]
    exact waitUntil_moves status _ _
  · rename_i w' hrun
    have hwait := congrArg Prod.snd hrun
    dsimp only at hwait
    rw [← hwait]
    exact waitUntil_moves status _ _

theorem handle_moves (height : Height) (events : List Event) (w : World) :
    Moves tracker receiver w (handle height events w).2 := by
  unfold handle
  dsimp only
  split
  · exact ⟨.refl _, rfl⟩
  · split
    · exact ⟨.refl _, rfl⟩
    · exact ⟨.refl _, rfl⟩

theorem cursor_moves (w : World) : Moves tracker receiver w w.cursor.2 := by
  unfold cursor
  split
  · exact ⟨.refl _, rfl⟩
  · exact ⟨.refl _, rfl⟩

theorem awaitNews_moves (status : Status) (deadline most : Nat) (w : World) :
    Moves tracker receiver w (awaitNews status deadline most w).2 := by
  induction most generalizing w with
  | zero => exact waitUntil_moves status deadline w
  | succ most ih =>
    unfold awaitNews
    split
    · exact ⟨.refl _, rfl⟩
    · split
      · rename_i t _
        split
        · have hrest := ih { ((w.goto status (max t w.clock)).poll) with
            pollsAt := some (t + (w.goto status (max t w.clock)).poll.interval) }
          exact ⟨Tracker.Polled.trans (.observe _ _) hrest.1, hrest.2⟩
        · exact waitUntil_moves status deadline w
      · exact waitUntil_moves status deadline w

theorem shares : surroundings.Shares tracker receiver where
  cursor _ := cursor_moves
  latest status w := (awaitHeight_reads status w.patience w).1
  reads h := (awaitHeight_reads _ _ _).2 h
  fetch := fetchBatch_moves
  handle _ := handle_moves
  markSeen w := ⟨w.tracker, .refl _, rfl, .refl _⟩
  news status w := .inl (awaitNews_moves status _ _ w)
  pause status ms w := waitUntil_moves status (w.clock + ms.toNat) w

end Sim.World

theorem sim_never_slept_through (config : ManagerConfig) (w : Sim.World)
    (h : w.receiver.seen ≤ w.tracker.publications) (n : Nat) :
    let run := Manager.rounds (Sim.World.surroundings.noted Sim.World.tracker Sim.World.receiver)
      config n ({}, { rest := w })
    Manager.rounds Sim.World.surroundings config n ({}, w) = (run.1, run.2.1, run.2.2.rest) ∧
      ∀ m ∈ run.2.2.waits, m.Safe := by
  have hnoted := noted_annotates Sim.World.surroundings Sim.World.tracker Sim.World.receiver
  exact ⟨Manager.rounds_annotates hnoted config n {} { rest := w },
    safe_of_shares Sim.World.shares config n h⟩

end ChainIndexer
