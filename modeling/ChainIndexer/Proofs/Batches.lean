import ChainIndexer.Proofs.Except
import ChainIndexer.Proofs.Heights

/-!
# Batches

* `settle_eq_mapM`: whatever the order in which the heights of a batch are completed, the batch
  settles as if they had been fetched one after the other, the lowest first. So it fails with the
  failure of the lowest height that fails.
* `settle_eq_ok`: where a batch succeeds, each of its heights is there, in order, with its own
  result.
* `batches_lastOf`: the window that a range starts with is a single batch.
-/

namespace ChainIndexer

/-! ## One batch -/

namespace Batch

variable {α : Type} {finished : List (Height × Outcome α)} {first last : Height}

/-- What is to blame for some failures: nothing where there is none, else one of the lowest height. -/
def Lowest (failures : Height → SyncError → Prop) : Option (Height × SyncError) → Prop
  | none => ∀ h e, ¬ failures h e
  | some (h, e) => failures h e ∧ ∀ h' e', failures h' e' → h ≤ h'

theorem blame_lowest {failures : Height → SyncError → Prop} {acc : Option (Height × SyncError)}
    (ha : Lowest failures acc) (g : Height) {o : Outcome α} (ho : o ≠ .crashed) :
    Lowest (fun h e => failures h e ∨ (h, .done (.error e)) = (g, o)) (blame acc (g, o)) := by
  cases o with
  | crashed => exact absurd rfl ho
  | done r =>
    cases r with
    | ok a => simpa [blame] using ha
    | error f =>
      rcases acc with _ | ⟨h, e⟩
      · refine ⟨.inr rfl, fun h' e' hf => ?_⟩
        rcases hf with hf | hf
        · exact absurd hf (ha h' e')
        · obtain rfl := (Prod.mk.inj hf).1
          exact Height.le_refl _
      · simp only [blame]
        split
        · rename_i hlt
          refine ⟨.inr rfl, fun h' e' hf => ?_⟩
          rcases hf with hf | hf
          · exact Height.le_trans (Height.le_of_lt hlt) (ha.2 h' e' hf)
          · obtain rfl := (Prod.mk.inj hf).1
            exact Height.le_refl _
        · rename_i hlt
          refine ⟨.inl ha.1, fun h' e' hf => ?_⟩
          rcases hf with hf | hf
          · exact ha.2 h' e' hf
          · obtain rfl := (Prod.mk.inj hf).1
            exact Height.not_lt.1 hlt

/-- The order in which the heights were completed does not matter for what is to blame. -/
theorem foldl_blame (hc : ∀ p ∈ finished, p.2 ≠ .crashed) {failures : Height → SyncError → Prop}
    {acc : Option (Height × SyncError)} (ha : Lowest failures acc) :
    Lowest (fun h e => failures h e ∨ (h, .done (.error e)) ∈ finished)
      (finished.foldl blame acc) := by
  induction finished generalizing acc failures with
  | nil => simpa using ha
  | cons p finished ih =>
    obtain ⟨g, o⟩ := p
    have hp := blame_lowest ha g (hc (g, o) (by simp))
    have hrun := ih (fun q hq => hc q (by simp [hq])) hp
    simpa only [List.mem_cons, List.foldl_cons, or_assoc] using hrun

theorem mem_of_slot? {h : Height} {a : α} (hs : slot? finished h = some a) :
    (h, .done (.ok a)) ∈ finished := by
  unfold slot? at hs
  split at hs
  · rename_i b hb
    obtain rfl := Option.some.inj hs
    obtain ⟨l, r, rfl, -⟩ := List.lookup_eq_some_iff.1 hb
    simp
  · cases hs

theorem settle_eq_ok {heights : List (Height × α)}
    (h : settle first last finished = .ok heights) :
    heights.map Prod.fst = Height.range first last ∧
      ∀ p ∈ heights, (p.1, .done (.ok p.2)) ∈ finished := by
  unfold settle at h
  split at h
  · cases h
  · rw [mapM_eq_ok_iff] at h
    have hslot : List.Forall₂ (fun g p => p.1 = g ∧ (p.1, .done (.ok p.2)) ∈ finished)
        (Height.range first last) heights := by
      refine h.imp fun g p hp => ?_
      split at hp
      · rename_i a ha
        obtain rfl := Except.ok.inj hp
        exact ⟨rfl, mem_of_slot? ha⟩
      · cases hp
    constructor
    · rw [← List.forall₂_eq_eq_eq, List.forall₂_map_left_iff]
      exact hslot.flip.imp fun p g hp => hp.1
    · intro p hp
      obtain ⟨g, -, hg⟩ := exists_of_mem_right hslot hp
      exact hg.2

def Completes (finished : List (Height × Outcome α)) (first last : Height)
    (outcome : Height → Except SyncError α) : Prop :=
  finished.Perm ((Height.range first last).map fun h => (h, .done (outcome h)))

theorem Completes.mem_iff {outcome : Height → Except SyncError α}
    (hc : Completes finished first last outcome) {h : Height} {o : Outcome α} :
    (h, o) ∈ finished ↔ h ∈ Height.range first last ∧ o = .done (outcome h) := by
  rw [List.Perm.mem_iff hc, List.mem_map]
  constructor
  · rintro ⟨g, hg, he⟩
    obtain ⟨rfl, rfl⟩ := Prod.mk.inj he
    exact ⟨hg, rfl⟩
  · rintro ⟨hh, rfl⟩
    exact ⟨h, hh, rfl⟩

theorem Completes.slot?_eq {outcome : Height → Except SyncError α}
    (hc : Completes finished first last outcome) {h : Height}
    (hh : h ∈ Height.range first last) {a : α} (ha : outcome h = .ok a) :
    slot? finished h = some a := by
  have hsome : (finished.lookup h).isSome := by
    rw [List.lookup_isSome_iff]
    exact ⟨_, hc.mem_iff.2 ⟨hh, rfl⟩, by simp⟩
  obtain ⟨o, ho⟩ := Option.isSome_iff_exists.1 hsome
  obtain ⟨l, r, hl, -⟩ := List.lookup_eq_some_iff.1 ho
  have hm : (h, o) ∈ finished := hl ▸ by simp
  obtain rfl := (hc.mem_iff.1 hm).2
  rw [slot?, ho, ha]

/-- A batch settles as if its heights had been fetched one after the other, the lowest first. -/
theorem settle_eq_mapM {outcome : Height → Except SyncError α}
    (hc : Completes finished first last outcome) :
    settle first last finished
      = (Height.range first last).mapM fun h => (outcome h).map fun a => (h, a) := by
  have hdone : ∀ p ∈ finished, p.2 ≠ .crashed := by
    rintro ⟨g, o⟩ hp
    obtain rfl := (hc.mem_iff.1 hp).2
    simp
  have hlow : Lowest (fun h e => False ∨ (h, .done (.error e)) ∈ finished)
      (finished.foldl blame none) := foldl_blame hdone (by simp [Lowest])
  simp only [false_or, hc.mem_iff, Outcome.done.injEq] at hlow
  unfold settle
  cases hb : finished.foldl blame none with
  | none =>
    rw [hb] at hlow
    apply mapM_congr
    intro h hh
    cases ho : outcome h with
    | ok a => rw [hc.slot?_eq hh ho]; rfl
    | error e => exact absurd ⟨hh, ho.symm⟩ (hlow h e)
  | some b =>
    obtain ⟨g, e⟩ := b
    rw [hb] at hlow
    obtain ⟨⟨hg, he⟩, hleast⟩ := hlow
    obtain ⟨before, after, hs⟩ := List.append_of_mem hg
    refine (mapM_eq_error_iff.2 ⟨before, g, after, hs, fun h hh => ?_, ?_⟩).symm
    · have hpw := Height.range_pairwise first last
      rw [hs, List.pairwise_append] at hpw
      have hlt := hpw.2.2 h hh g (by simp)
      cases ho : outcome h with
      | ok a => exact ⟨(h, a), rfl⟩
      | error f =>
        have hle := hleast h f ⟨hs ▸ by simp [hh], ho.symm⟩
        exact absurd hlt (Height.not_lt.2 hle)
    · rw [← he]
      rfl

theorem Completes.ok_of_settle {outcome : Height → Except SyncError α}
    (hc : Completes finished first last outcome) {heights : List (Height × α)}
    (h : settle first last finished = .ok heights) :
    ∀ p ∈ finished, ∃ a, p.2 = .done (.ok a) := by
  rintro ⟨g, o⟩ hp
  obtain ⟨hg, rfl⟩ := hc.mem_iff.1 hp
  rw [settle_eq_mapM hc, mapM_eq_ok_iff] at h
  obtain ⟨q, -, hq⟩ := exists_of_mem_right h.flip hg
  obtain ⟨a, ha, -⟩ := map_eq_ok_iff.1 hq
  exact ⟨a, by rw [ha]⟩

theorem Completes.lowest_of_settle {outcome : Height → Except SyncError α}
    (hc : Completes finished first last outcome) {e : SyncError}
    (h : settle first last finished = .error e) :
    ∃ g ∈ Height.range first last, outcome g = .error e ∧ (g, .done (.error e)) ∈ finished ∧
      ∀ g' e', (g', .done (.error e')) ∈ finished → g ≤ g' := by
  rw [settle_eq_mapM hc, mapM_eq_error_iff] at h
  obtain ⟨before, g, after, hs, hbefore, hg⟩ := h
  have hmem : g ∈ Height.range first last := hs ▸ by simp
  have hout := map_eq_error_iff.1 hg
  refine ⟨g, hmem, hout, hc.mem_iff.2 ⟨hmem, by rw [hout]⟩, fun g' e' hg' => ?_⟩
  obtain ⟨hmem', he⟩ := hc.mem_iff.1 hg'
  have hpw := Height.range_pairwise first last
  rw [hs] at hmem' hpw
  rcases List.mem_append.1 hmem' with hb | hb
  · obtain ⟨b, hok⟩ := hbefore g' hb
    rw [← Outcome.done.inj he] at hok
    cases hok
  · rcases List.mem_cons.1 hb with rfl | ha
    · exact Height.le_refl _
    · have hlt := (List.pairwise_cons.1 (List.pairwise_append.1 hpw).2.1).1 g' ha
      exact Height.le_of_lt hlt

end Batch

/-! ## The batches of a range -/

namespace Window

theorem lastOf_le (w : Window) {first stop : Height} (h : first ≤ stop) :
    w.lastOf first stop ≤ stop := by
  unfold lastOf
  split
  · subst_vars
    exact h
  · exact Height.inf_le_right _ _

/-- The last height of the first batch ends that batch also where the range ends with it. -/
theorem lastOf_lastOf (w : Window) (first stop : Height) :
    w.lastOf first (w.lastOf first stop) = w.lastOf first stop := by
  unfold lastOf
  split
  · rfl
  · rcases Height.inf_eq (first.plus (w.size - 1)) stop with h | h
    · rw [h, Height.inf_self]
    · rw [h, h]

theorem batches_lastOf (w : Window) {first stop : Height} (h : first ≤ stop) :
    w.batches first (w.lastOf first stop) = [(first, w.lastOf first stop)] := by
  rw [batches, dif_pos (Height.le_iff.2 (w.le_lastOf h)), lastOf_lastOf]
  congr 1
  split
  · rename_i next hnext
    have hlt := Height.toNat_of_next? hnext
    rw [batches, dif_neg]
    rw [Height.le_iff]
    omega
  · rfl

end Window

end ChainIndexer
