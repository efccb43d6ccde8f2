import ChainIndexer.Sync.Window

/-!
# The heights ahead

`agenda starting cursor` lists the heights that a handler has yet to accept, in order: genesis comes
first, then the starting height, then every height up to the greatest.

* `follows_iff_starts`: heights of which each is the resume point of the one before are a prefix of
  the agenda. So whoever only ever goes on at the resume point skips nothing and repeats nothing.
* `agenda_pairwise`: the agenda ascends.
* `eq_filter_lt`, `eq_filter_le`: a prefix of the agenda is what stands there below the
  height that comes next, or up to its last height.
* `eq_filter_any`: so a prefix of the agenda is known by the cursor that it leaves.
-/

namespace ChainIndexer

/-! ## Ranges of heights -/

namespace Height

theorem lt_iff {a b : Height} : a < b ↔ a.toNat < b.toNat := UInt64.lt_iff_toNat_lt

theorem le_refl (h : Height) : h ≤ h := UInt64.le_refl h

theorem le_trans {a b c : Height} : a ≤ b → b ≤ c → a ≤ c := UInt64.le_trans

theorem le_of_lt {a b : Height} : a < b → a ≤ b := UInt64.le_of_lt

theorem not_lt {a b : Height} : ¬ a < b ↔ b ≤ a := UInt64.not_lt

theorem not_le_of_lt {a b : Height} (h : a < b) : ¬ b ≤ a := UInt64.not_le.2 h

theorem le_antisymm {a b : Height} (hab : a ≤ b) (hba : b ≤ a) : a = b := UInt64.le_antisymm hab hba

theorem zero_le (h : Height) : 0 ≤ h := le_iff.2 (Nat.zero_le _)

theorem toNat_max : (Height.max).toNat = 0xFFFFFFFFFFFFFFFF := rfl

theorem le_max (h : Height) : h ≤ Height.max := by
  have := h.toNat_lt
  rw [le_iff, toNat_max]
  omega

theorem toNat_sup (a b : Height) : (Max.max a b).toNat = Max.max a.toNat b.toNat := by
  change (if a ≤ b then b else a).toNat = Max.max a.toNat b.toNat
  split <;> rename_i h <;> rw [le_iff] at h <;> omega

theorem sup_eq (a b : Height) : Max.max a b = a ∨ Max.max a b = b := by
  change (if a ≤ b then b else a) = a ∨ (if a ≤ b then b else a) = b
  split <;> simp

theorem inf_eq (a b : Height) : min a b = a ∨ min a b = b := by
  change (if a ≤ b then a else b) = a ∨ (if a ≤ b then a else b) = b
  split <;> simp

theorem inf_le_right (a b : Height) : min a b ≤ b := by
  change (if a ≤ b then a else b) ≤ b
  split
  · assumption
  · exact le_refl b

theorem inf_le_left (a b : Height) : min a b ≤ a := by
  change (if a ≤ b then a else b) ≤ a
  split
  · exact le_refl a
  · exact le_of_lt (UInt64.not_le.1 ‹_›)

theorem sup_of_le {a b : Height} (h : b ≤ a) : Max.max a b = a := by
  rcases sup_eq a b with e | e
  · exact e
  · rw [e]
    refine le_antisymm h (le_iff.2 ?_)
    have htoNat := toNat_sup a b
    rw [e] at htoNat
    omega

theorem inf_of_le {a b : Height} (h : b ≤ a) : min a b = b := by
  rcases inf_eq a b with e | e
  · exact e.trans (le_antisymm (e ▸ inf_le_right a b) h)
  · exact e

theorem inf_of_lt {a b : Height} (h : a < b) : min a b = a := if_pos (le_of_lt h)

theorem inf_self (a : Height) : min a a = a := (inf_eq a a).elim id id

theorem next?_of_lt {a b : Height} (h : a < b) : a.next? = some (a + 1) := by
  have h1 := lt_iff.1 h
  have h2 := b.toNat_lt
  unfold next?
  rw [if_neg]
  rintro rfl
  rw [toNat_max] at h1
  omega

theorem toNat_succ {a b : Height} (h : a < b) : (a + 1).toNat = a.toNat + 1 :=
  toNat_of_next? (next?_of_lt h)

theorem map_toNat_range (first last : Height) :
    (range first last).map UInt64.toNat
      = List.range' first.toNat (last.toNat + 1 - first.toNat) := by
  have h1 := last.toNat_lt
  unfold range
  rw [List.map_map, List.range'_eq_map_range]
  apply List.map_congr_left
  intro i hi
  rw [List.mem_range] at hi
  simp only [Function.comp_apply, UInt64.toNat_add, UInt64.toNat_ofNat']
  omega

theorem length_range (first last : Height) :
    (range first last).length = last.toNat + 1 - first.toNat := by
  simp [range]

theorem eq_of_map_toNat {xs ys : List Height} (h : xs.map UInt64.toNat = ys.map UInt64.toNat) :
    xs = ys :=
  List.map_inj_right (fun _ _ => UInt64.toNat_inj.1) |>.1 h

theorem mem_range {first last h : Height} : h ∈ range first last ↔ first ≤ h ∧ h ≤ last := by
  have hmem : h ∈ range first last ↔ h.toNat ∈ (range first last).map UInt64.toNat := by
    constructor
    · exact List.mem_map_of_mem
    · intro hh
      obtain ⟨x, hx, he⟩ := List.mem_map.1 hh
      exact UInt64.toNat_inj.1 he ▸ hx
  rw [hmem, map_toNat_range, List.mem_range'_1, le_iff, le_iff]
  omega

theorem range_pairwise (first last : Height) : (range first last).Pairwise (· < ·) := by
  have h : ((range first last).map UInt64.toNat).Pairwise (· < ·) := by
    rw [map_toNat_range]
    exact List.pairwise_lt_range'
  rw [List.pairwise_map] at h
  exact h.imp lt_iff.2

theorem range_eq_cons {first last : Height} (h : first ≤ last) :
    range first last = first :: if first < last then range (first + 1) last else [] := by
  have h1 := le_iff.1 h
  apply eq_of_map_toNat
  rw [map_toNat_range, show last.toNat + 1 - first.toNat = last.toNat - first.toNat + 1 by omega,
    List.range'_succ, List.map_cons]
  split
  · rename_i hlt
    rw [map_toNat_range, toNat_succ hlt, show last.toNat + 1 - (first.toNat + 1)
      = last.toNat - first.toNat by omega]
  · rename_i hlt
    rw [lt_iff] at hlt
    rw [show last.toNat - first.toNat = 0 by omega]
    rfl

theorem range_self (h : Height) : range h h = [h] := by
  rw [range_eq_cons (le_iff.2 (Nat.le_refl _)), if_neg (fun hlt => Nat.lt_irrefl _ (lt_iff.1 hlt))]

theorem range_starts (first : Height) {last stop : Height} (h : last ≤ stop) :
    range first last <+: range first stop := by
  rw [← List.prefix_map_iff_of_injective (f := UInt64.toNat) (fun _ _ => UInt64.toNat_inj.1),
    map_toNat_range, map_toNat_range]
  have h1 := le_iff.1 h
  refine ⟨List.range' (first.toNat + (last.toNat + 1 - first.toNat))
    (stop.toNat + 1 - first.toNat - (last.toNat + 1 - first.toNat)), ?_⟩
  rw [List.range'_append_1]
  congr 1
  omega

theorem getLast?_range {first last : Height} (h : first ≤ last) :
    (range first last).getLast? = some last := by
  have h1 := le_iff.1 h
  have h2 : ((range first last).map UInt64.toNat).getLast? = some last.toNat := by
    rw [map_toNat_range, List.getLast?_range', if_neg (by omega)]
    congr 1
    omega
  rw [List.getLast?_map, Option.map_eq_some_iff] at h2
  obtain ⟨x, hx, he⟩ := h2
  rw [hx, UInt64.toNat_inj.1 he]

end Height

/-! ## The agenda -/

/-- The heights that a handler has yet to accept, in order. -/
def agenda (starting : Height) : Option Height → List Height
  | none => 0 :: Height.range (max 1 starting) Height.max
  | some c => if c = Height.max then [] else Height.range (max (c + 1) starting) Height.max

/-- Each height is the resume point of the cursor that the one before it left. -/
def Follows (starting : Height) : Option Height → List Height → Prop
  | _, [] => True
  | cursor, h :: hs => resumeHeight cursor starting = some h ∧ Follows starting (some h) hs

/-- A resume point after a cursor is no genesis, and not below the starting height. -/
theorem resumeHeight_some {c starting h : Height} (e : resumeHeight (some c) starting = some h) :
    c ≠ Height.max ∧ h = max (c + 1) starting ∧ 0 < h ∧ starting ≤ h := by
  simp only [resumeHeight, Option.map_eq_some_iff, Height.next?] at e
  obtain ⟨next, hnext, rfl⟩ := e
  split at hnext
  · simp at hnext
  · rename_i hne
    obtain rfl := Option.some.inj hnext
    have hc : c < Height.max := UInt64.lt_of_le_of_ne (Height.le_max c) hne
    have hs := Height.toNat_succ hc
    refine ⟨hne, rfl, ?_, ?_⟩
    · rw [Height.lt_iff, Height.toNat_sup, hs]
      simp only [UInt64.reduceToNat]
      omega
    · rw [Height.le_iff, Height.toNat_sup]
      omega

theorem agenda_eq (starting : Height) (cursor : Option Height) :
    agenda starting cursor = match resumeHeight cursor starting with
      | none => []
      | some h => h :: agenda starting (some h) := by
  cases cursor with
  | none => rfl
  | some c =>
    cases e : resumeHeight (some c) starting with
    | none =>
      simp only [resumeHeight, Option.map_eq_none_iff, Height.next?, ite_eq_left_iff,
        reduceCtorEq, imp_false, Decidable.not_not] at e
      simp only [agenda, if_pos e]
    | some h =>
      obtain ⟨hne, rfl, -, hs⟩ := resumeHeight_some e
      simp only [agenda, if_neg hne]
      rw [Height.range_eq_cons (Height.le_max _)]
      congr 1
      by_cases hlt : max (c + 1) starting = Height.max
      · rw [if_pos hlt, hlt, if_neg (fun h => Nat.lt_irrefl _ (Height.lt_iff.1 h))]
      · have hlt' := UInt64.lt_of_le_of_ne (Height.le_max _) hlt
        rw [if_neg hlt, if_pos hlt']
        congr 1
        apply UInt64.toNat_inj.1
        rw [Height.toNat_sup _ starting, Height.toNat_succ hlt']
        have := Height.le_iff.1 hs
        omega

theorem follows_iff_starts {starting : Height} {cursor : Option Height} {hs : List Height} :
    Follows starting cursor hs ↔ hs <+: agenda starting cursor := by
  induction hs generalizing cursor with
  | nil => simp [Follows]
  | cons h hs ih =>
    rw [Follows, agenda_eq]
    cases resumeHeight cursor starting with
    | none => simp
    | some next =>
      simp only [Option.some.injEq, List.cons_prefix_cons, ih]
      constructor
      · rintro ⟨rfl, hp⟩
        exact ⟨rfl, hp⟩
      · rintro ⟨rfl, hp⟩
        exact ⟨rfl, hp⟩

theorem follows_append {starting : Height} {cursor : Option Height} {xs ys : List Height} :
    Follows starting cursor (xs ++ ys)
      ↔ Follows starting cursor xs ∧ Follows starting (xs.getLast?.or cursor) ys := by
  induction xs generalizing cursor with
  | nil => simp [Follows]
  | cons x xs ih =>
    rw [List.cons_append, Follows, Follows, ih, and_assoc, List.getLast?_cons]
    cases xs.getLast? <;> simp

/-- After what follows the cursor the agenda is that of the cursor which it leaves. -/
theorem agenda_of_follows {starting : Height} {cursor : Option Height} {hs : List Height}
    (hf : Follows starting cursor hs) :
    agenda starting cursor = hs ++ agenda starting (hs.getLast?.or cursor) := by
  induction hs generalizing cursor with
  | nil => rfl
  | cons h hs ih =>
    rw [agenda_eq, hf.1]
    dsimp only
    rw [ih hf.2, List.cons_append, List.getLast?_cons]
    cases hs.getLast? <;> rfl

theorem agenda_pairwise (starting : Height) (cursor : Option Height) :
    (agenda starting cursor).Pairwise (· < ·) := by
  cases cursor with
  | none =>
    refine List.pairwise_cons.2 ⟨fun h hh => ?_, Height.range_pairwise _ _⟩
    have h1 := Height.le_iff.1 (Height.mem_range.1 hh).1
    rw [Height.toNat_sup] at h1
    rw [Height.lt_iff]
    simp only [UInt64.reduceToNat] at h1 ⊢
    omega
  | some c =>
    rw [agenda]
    split
    · exact .nil
    · exact Height.range_pairwise _ _

/-- A window from the resume point on follows the cursor; genesis is a window of its own. -/
theorem follows_range {starting current last : Height} {cursor : Option Height}
    (e : resumeHeight cursor starting = some current) (h0 : current = 0 → last = 0) :
    Follows starting cursor (Height.range current last) := by
  rw [follows_iff_starts]
  cases cursor with
  | none =>
    obtain rfl := Option.some.inj e
    obtain rfl := h0 rfl
    rw [Height.range_self]
    exact ⟨_, rfl⟩
  | some c =>
    obtain ⟨hne, rfl, -, -⟩ := resumeHeight_some e
    rw [agenda, if_neg hne]
    exact Height.range_starts _ (Height.le_max last)

/-! ## Parts of the agenda -/

/-- Of an ascending list, what stands before one of its members is what is below it. -/
theorem eq_filter_lt {xs done rest : List Height} {h : Height} (hx : xs.Pairwise (· < ·))
    (e : xs = done ++ h :: rest) : done = xs.filter (· < h) := by
  subst e
  rw [List.pairwise_append] at hx
  obtain ⟨-, hr, hd⟩ := hx
  have h1 : done.filter (· < h) = done :=
    List.filter_eq_self.2 fun x hx => decide_eq_true (hd x hx h (by simp))
  have h2 : (h :: rest).filter (· < h) = [] := by
    refine List.filter_eq_nil_iff.2 fun x hx => ?_
    rw [decide_eq_true_eq, Height.lt_iff]
    rcases List.mem_cons.1 hx with rfl | hx
    · exact Nat.lt_irrefl _
    · have := Height.lt_iff.1 ((List.pairwise_cons.1 hr).1 x hx)
      omega
  rw [List.filter_append, h1, h2, List.append_nil]

/-- Of an ascending list, what stands up to one of its members is what is not above it. -/
theorem eq_filter_le {xs done rest : List Height} {h : Height} (hx : xs.Pairwise (· < ·))
    (e : xs = done ++ rest) (hl : done.getLast? = some h) : done = xs.filter (· ≤ h) := by
  subst e
  obtain ⟨init, rfl⟩ := List.getLast?_eq_some_iff.1 hl
  rw [List.pairwise_append, List.pairwise_append] at hx
  obtain ⟨⟨-, -, hi⟩, -, hd⟩ := hx
  have h1 : (init ++ [h]).filter (· ≤ h) = init ++ [h] := by
    refine List.filter_eq_self.2 fun x hx => ?_
    rw [decide_eq_true_eq, Height.le_iff]
    rcases List.mem_append.1 hx with hx | hx
    · exact Nat.le_of_lt (Height.lt_iff.1 (hi x hx h (by simp)))
    · exact Nat.le_of_eq (congrArg UInt64.toNat (List.mem_singleton.1 hx))
  have h2 : rest.filter (· ≤ h) = [] := by
    refine List.filter_eq_nil_iff.2 fun x hx => ?_
    rw [decide_eq_true_eq, Height.le_iff]
    have := Height.lt_iff.1 (hd h (by simp) x hx)
    omega
  rw [List.filter_append, h1, h2, List.append_nil]

theorem lt_of_mem_agenda {starting c h : Height} (hh : h ∈ agenda starting (some c)) : c < h := by
  rw [agenda] at hh
  split at hh
  · cases hh
  · rename_i hne
    have h1 := Height.le_iff.1 (Height.mem_range.1 hh).1
    have h2 := Height.toNat_succ (UInt64.lt_of_le_of_ne (Height.le_max c) hne)
    rw [Height.toNat_sup] at h1
    rw [Height.lt_iff]
    omega

theorem starting_le_of_mem_agenda {starting h : Height} {cursor : Option Height}
    (hh : h ∈ agenda starting cursor) : h = 0 ∨ starting ≤ h := by
  have hrange : ∀ {a : Height}, h ∈ Height.range (max a starting) Height.max → starting ≤ h := by
    intro a ha
    have hle := Height.le_iff.1 (Height.mem_range.1 ha).1
    rw [Height.toNat_sup] at hle
    exact Height.le_iff.2 (by omega)
  cases cursor with
  | none => exact (List.mem_cons.1 hh).imp_right hrange
  | some c =>
    rw [agenda] at hh
    split at hh
    · cases hh
    · exact .inr (hrange hh)

theorem eq_filter_any {starting : Height} {cursor : Option Height} {hs : List Height}
    (hp : hs <+: agenda starting cursor) :
    hs = (agenda starting cursor).filter fun h => (hs.getLast?.or cursor).any (h ≤ ·) := by
  obtain ⟨rest, hrest⟩ := hp
  cases hl : hs.getLast? with
  | some last => exact eq_filter_le (agenda_pairwise _ _) hrest.symm hl
  | none =>
    rw [List.getLast?_eq_none_iff.1 hl, eq_comm, List.filter_eq_nil_iff]
    intro h hh
    cases cursor with
    | none => simp
    | some c =>
      have hlt := lt_of_mem_agenda hh
      simpa using hlt

end ChainIndexer
