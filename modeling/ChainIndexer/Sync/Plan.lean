import ChainIndexer.Chain.Block

/-!
# Which heights come next

An attempt fetches the heights from a resume point up to a target. The resume point follows the
cursor: genesis comes first, then the starting height, then every height. The target is the latest
height; a retry narrows it to the resume point.
-/

namespace ChainIndexer

/-- The height after this one; there is none after the greatest. -/
def Height.next? (h : Height) : Option Height := if h = Height.max then none else some (h + 1)

/-- The height some steps further, or the greatest. -/
def Height.plus (h : Height) (n : UInt64) : Height :=
  if h.toNat + n.toNat < 0x10000000000000000 then h + n else Height.max

/-- The first height to fetch; none when the cursor stands at the greatest height. -/
def resumeHeight (cursor : Option Height) (starting : Height) : Option Height :=
  match cursor with
  | none => some 0
  | some c => c.next?.map fun h => max h starting

/-- The last height to fetch. -/
def targetHeight (latest current starting : Height) (isRetry : Bool) : Height :=
  if isRetry then max (min latest current) starting else latest

/-! ## Small laws -/

theorem Height.toNat_of_next? {h next : Height} (e : h.next? = some next) :
    next.toNat = h.toNat + 1 := by
  unfold Height.next? at e
  split at e
  · simp at e
  · rename_i hne
    simp only [Option.some.injEq] at e
    subst e
    have h1 := h.toNat_lt
    have h2 : h.toNat ≠ 0xFFFFFFFFFFFFFFFF := by
      intro hh
      exact hne (UInt64.toNat_inj.1 (by simpa [Height.max] using hh))
    rw [UInt64.toNat_add]
    simp
    omega

theorem Height.le_iff {a b : Height} : a ≤ b ↔ a.toNat ≤ b.toNat := UInt64.le_iff_toNat_le

theorem Height.toNat_le_max_left (a b : Height) : a.toNat ≤ (Max.max a b).toNat := by
  change a.toNat ≤ (if a ≤ b then b else a).toNat
  split
  · exact Height.le_iff.1 ‹_›
  · exact Nat.le_refl _

/-- The resume point is above the cursor. -/
theorem lt_of_resumeHeight {c starting next : Height}
    (e : resumeHeight (some c) starting = some next) : c.toNat < next.toNat := by
  simp only [resumeHeight, Option.map_eq_some_iff] at e
  obtain ⟨h, hh, rfl⟩ := e
  have h1 := Height.toNat_of_next? hh
  have h2 := Height.toNat_le_max_left h starting
  omega

end ChainIndexer
