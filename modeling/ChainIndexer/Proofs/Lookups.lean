import ChainIndexer.Sim.Lookups

/-!
# Every lookup is completed

`Lookups.run_perm`: with at least one permit every task ends, and ends once, however long each of
them takes. What carries it is that a task waits only while another one runs (`Busy`), so that in
each step a task ends, and that no place is lost on the way (`start_places`, `step_places`).
-/

namespace ChainIndexer.Sim.Lookups

variable {permits now : Nat} {s : Lookups}

/-! ## No place is lost -/

/-- The places of all tasks: of those that run, that wait and that ended. -/
def places (s : Lookups) : List Nat :=
  s.running.map Running.place ++ (s.waiting.map Prod.fst ++ s.ended.map Prod.fst)

def left (s : Lookups) : Nat := s.running.length + s.waiting.length

/-- A task waits only while another one runs. -/
def Busy (s : Lookups) : Prop := s.running = [] → s.waiting = []

theorem start_places (permits now : Nat) (tasks : List (Nat × Nat)) (s : Lookups) :
    (start permits now tasks s).places.Perm
      (s.running.map Running.place ++ (tasks.map Prod.fst ++ s.ended.map Prod.fst)) := by
  induction tasks generalizing s with
  | nil => exact .rfl
  | cons task rest ih =>
    obtain ⟨place, takes⟩ := task
    rw [start]
    split
    · dsimp only
      split
      · refine (ih _).trans (.append_left _ ?_)
        exact List.perm_middle
      · refine (ih _).trans ?_
        rw [List.map_append, List.append_assoc]
        exact .rfl
    · exact .rfl

theorem start_left (permits now : Nat) (tasks : List (Nat × Nat)) (s : Lookups) :
    (start permits now tasks s).left ≤ s.running.length + tasks.length := by
  induction tasks generalizing s with
  | nil => exact Nat.le_refl _
  | cons task rest ih =>
    obtain ⟨place, takes⟩ := task
    rw [start, List.length_cons]
    split
    · dsimp only
      split
      · refine Nat.le_trans (ih _) ?_
        dsimp only
        omega
      · refine Nat.le_trans (ih _) ?_
        simp only [List.length_append, List.length_singleton]
        omega
    · exact Nat.le_refl _

theorem start_busy (h : 0 < permits) (now : Nat) (tasks : List (Nat × Nat)) (s : Lookups) :
    (start permits now tasks s).Busy := by
  induction tasks generalizing s with
  | nil => exact fun _ => rfl
  | cons task rest ih =>
    obtain ⟨place, takes⟩ := task
    rw [start]
    split
    · dsimp only
      split
      · exact ih _
      · exact ih _
    · rename_i hfull
      intro hnone
      dsimp only at hnone
      rw [hnone] at hfull
      exact absurd h hfull

/-! ## A step -/

theorem filter_perm (tasks : List Running) (now : Nat) :
    (tasks.filter (·.ends = now) ++ tasks.filter (·.ends ≠ now)).Perm tasks := by
  simp only [ne_eq, decide_not]
  exact List.filter_append_perm _ tasks

theorem step_places (permits : Nat) (s : Lookups) : (s.step permits).places.Perm s.places := by
  unfold step
  split
  · exact .rfl
  · rename_i now hnow
    -- the tasks that end change from those that run to those that ended
    refine (start_places _ _ _ _).trans (List.perm_iff_count.2 fun place => ?_)
    have hrunning := ((filter_perm s.running now).map Running.place).count_eq place
    have hended : ((s.running.filter (·.ends = now)).map fun r => (r.place, now)).map Prod.fst
        = (s.running.filter (·.ends = now)).map Running.place := by
      rw [List.map_map]
      rfl
    simp only [List.map_append, List.count_append] at hrunning
    simp only [places, List.map_append, List.map_reverse, List.count_append, List.count_reverse,
      hended]
    omega

theorem step_left (permits : Nat) (h : s.Busy) : (s.step permits).left ≤ s.left - 1 := by
  unfold step nextEnd?
  split
  · rename_i hnone
    rw [List.min?_eq_none_iff, List.map_eq_nil_iff] at hnone
    rw [left, hnone, h hnone]
    exact Nat.zero_le _
  · rename_i now hnow
    refine Nat.le_trans (start_left _ _ _ _) ?_
    -- some task ends now
    obtain ⟨r, hr, hends⟩ := List.mem_map.1 (List.min?_mem hnow)
    have hpos : 0 < (s.running.filter (·.ends = now)).length :=
      List.length_pos_of_mem (List.mem_filter.2 ⟨hr, decide_eq_true hends⟩)
    have hlength := (filter_perm s.running now).length_eq
    rw [List.length_append] at hlength
    simp only [left]
    omega

theorem step_busy (h : 0 < permits) (hs : s.Busy) : (s.step permits).Busy := by
  unfold step
  split
  · exact hs
  · exact start_busy h _ _ _

/-! ## All steps -/

theorem steps_places (permits n : Nat) (s : Lookups) :
    (steps permits n s).places.Perm s.places := by
  induction n generalizing s with
  | zero => exact .rfl
  | succ n ih => exact (ih _).trans (step_places permits s)

theorem steps_left (h : 0 < permits) (n : Nat) (hs : s.Busy) :
    (steps permits n s).left ≤ s.left - n := by
  induction n generalizing s with
  | zero => exact Nat.le_refl _
  | succ n ih =>
    have hrest := ih (step_busy h hs)
    have hstep := step_left permits hs
    rw [steps]
    omega

theorem run_perm (h : 0 < permits) (takes : List Nat) :
    ((run permits takes).1.map Prod.fst).Perm (List.range takes.length) := by
  generalize hw : (List.range takes.length).zip takes = waiting
  have hfst : waiting.map Prod.fst = List.range takes.length := by
    rw [← hw]
    exact List.map_fst_zip (Nat.le_of_eq List.length_range)
  have hlength : waiting.length = takes.length := by
    rw [← List.length_map (f := Prod.fst), hfst, List.length_range]
  generalize hs : start permits 0 waiting {} = s
  have hleft : s.left ≤ takes.length := by
    rw [← hs, ← hlength, ← Nat.zero_add waiting.length]
    exact start_left permits 0 waiting {}
  have hplaces : s.places.Perm (List.range takes.length) := by
    rw [← hs, ← hfst, ← List.append_nil (waiting.map Prod.fst)]
    exact start_places permits 0 waiting {}
  have hbusy : s.Busy := hs ▸ start_busy h 0 waiting {}
  -- nothing is left, so what has ended is all there is
  have hnone := steps_left h takes.length hbusy
  have hall := (steps_places permits takes.length s).trans hplaces
  have hended : (run permits takes).1 = (steps permits takes.length s).ended.reverse := by
    rw [run, hw, hs]
  rw [hended, List.map_reverse]
  refine (List.reverse_perm _).trans ?_
  generalize steps permits takes.length s = t at hnone hall
  rw [left, show s.left - takes.length = 0 by omega] at hnone
  have hr : t.running = [] := List.length_eq_zero_iff.1 (by omega)
  have ht : t.waiting = [] := List.length_eq_zero_iff.1 (by omega)
  rwa [places, hr, ht] at hall

end ChainIndexer.Sim.Lookups
