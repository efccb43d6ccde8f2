import ChainIndexer.Decimal.Binary64
import Mathlib.Algebra.Order.Field.Power
import Mathlib.Algebra.Order.Field.Rat
import Mathlib.Tactic.FieldSimp
import Mathlib.Tactic.Linarith
import Mathlib.Tactic.NormNum
import Mathlib.Tactic.Positivity
import Mathlib.Tactic.Ring

/-!
# Doubles that need no rounding

A number that has a significand of 53 digits over an exponent that is not too low is
`Representable`. Rounding leaves such a number as it is, or gives infinity where it is too large
(`ofRatio_reaches`). So the operations are exact as long as their results are representable, and
the powers of two are exact throughout (`pow_two_reaches`).
-/

namespace ChainIndexer.Binary64

def Holds (x : Binary64) (q : ℚ) : Prop :=
  ∃ (m : ℕ) (e : ℤ), x = finite false m e ∧ q = m * 2 ^ e

/-- The double is the number, or infinite where the number is too large. -/
inductive Reaches (x : Binary64) (q : ℚ) : Prop
  | finite (h : x.Holds q) (hq : q < 2 ^ (1024 : ℤ))
  | overflow (h : x = infinite false) (hq : 2 ^ (1024 : ℤ) ≤ q)

/-- The number needs no rounding, but for its size. -/
def Representable (q : ℚ) : Prop :=
  ∃ (n : ℕ) (k : ℤ), n < 2 * leadingBit ∧ minExponent ≤ k ∧ q = n * 2 ^ k

/-! ## Powers of two -/

theorem two_mul_leadingBit : ((2 * leadingBit : ℕ) : ℚ) = 2 ^ (53 : ℤ) := by
  norm_num [leadingBit]

theorem pow_toNat (g : ℤ) :
    ((Nat.pow 2 g.toNat : ℕ) : ℚ) = 2 ^ g * (Nat.pow 2 (-g).toNat : ℕ) := by
  have hcast : ∀ n : ℕ, ((Nat.pow 2 n : ℕ) : ℚ) = 2 ^ (n : ℤ) := by
    intro n
    rw [Nat.pow_eq, Nat.cast_pow, Nat.cast_ofNat, zpow_natCast]
  rw [hcast, hcast, ← zpow_add₀ two_ne_zero]
  congr 1
  omega

theorem log2_bounds {n : ℕ} (hn : n ≠ 0) :
    (2 : ℚ) ^ (n.log2 : ℤ) ≤ n ∧ (n : ℚ) < 2 ^ ((n.log2 : ℤ) + 1) := by
  constructor
  · exact_mod_cast Nat.log2_self_le hn
  · exact_mod_cast Nat.lt_log2_self

theorem le_shifted_iff {num den t : ℕ} (hden : 0 < den) (g : ℤ) :
    t ≤ num * Nat.pow 2 (-g).toNat / (den * Nat.pow 2 g.toNat) ↔
      (t : ℚ) * 2 ^ g ≤ num / den := by
  have hpos : 0 < Nat.pow 2 g.toNat := Nat.pow_pos (by omega)
  have hneg : (0 : ℚ) < (Nat.pow 2 (-g).toNat : ℕ) := by exact_mod_cast Nat.pow_pos (by omega)
  have hden' : (0 : ℚ) < den := by exact_mod_cast hden
  rw [Nat.le_div_iff_mul_le (Nat.mul_pos hden hpos), ← Nat.cast_le (α := ℚ), le_div_iff₀ hden']
  push_cast
  rw [pow_toNat g]
  constructor
  · intro h
    refine le_of_mul_le_mul_right ?_ hneg
    linarith
  · intro h
    have := mul_le_mul_of_nonneg_right h hneg.le
    linarith

theorem shifted_eq {num den m : ℕ} {e : ℤ} (hden : 0 < den) (h : (num : ℚ) / den = m * 2 ^ e) :
    num * Nat.pow 2 (-e).toNat = m * (den * Nat.pow 2 e.toNat) := by
  have hden' : (den : ℚ) ≠ 0 := by exact_mod_cast hden.ne'
  rw [div_eq_iff hden'] at h
  have hcast : ((num * Nat.pow 2 (-e).toNat : ℕ) : ℚ) = (m * (den * Nat.pow 2 e.toNat) : ℕ) := by
    push_cast
    rw [pow_toNat e, h]
    ring
  exact_mod_cast hcast

/-! ## Rounding -/

theorem exponentFor_eq {num den : ℕ} {l : ℤ} (hnum : num ≠ 0) (hden : 0 < den)
    (hlow : (2 : ℚ) ^ l ≤ num / den) (hhigh : (num : ℚ) / den < 2 ^ (l + 1)) :
    exponentFor num den = max minExponent (l - 52) := by
  have hden' : (0 : ℚ) < den := by exact_mod_cast hden
  obtain ⟨hn1, hn2⟩ := log2_bounds hnum
  obtain ⟨hd1, hd2⟩ := log2_bounds hden.ne'
  rw [le_div_iff₀ hden'] at hlow
  rw [div_lt_iff₀ hden'] at hhigh
  -- the difference of the logarithms misses the place by one at most
  have hlower : l + den.log2 < num.log2 + 1 := by
    refine (zpow_lt_zpow_iff_right₀ (one_lt_two (α := ℚ))).1 ?_
    rw [zpow_add₀ two_ne_zero]
    calc (2 : ℚ) ^ l * 2 ^ (den.log2 : ℤ) ≤ 2 ^ l * den := by gcongr
      _ ≤ num := hlow
      _ < _ := hn2
  have hupper : (num.log2 : ℤ) < l + 1 + (den.log2 + 1) := by
    refine (zpow_lt_zpow_iff_right₀ (one_lt_two (α := ℚ))).1 ?_
    rw [zpow_add₀ two_ne_zero]
    calc (2 : ℚ) ^ (num.log2 : ℤ) ≤ num := hn1
      _ < 2 ^ (l + 1) * den := hhigh
      _ ≤ _ := by gcongr
  have hguess : (num.log2 : ℤ) - den.log2 - 53 = l - 53 ∨ (num.log2 : ℤ) - den.log2 - 53 = l - 52 := by
    omega
  simp only [exponentFor, le_shifted_iff hden, two_mul_leadingBit, ← zpow_add₀ (two_ne_zero (α := ℚ)),
    le_div_iff₀ hden']
  rcases hguess with h | h
  · rw [h, if_pos]
    · congr 1
      omega
    · rwa [show (53 : ℤ) + (l - 53) = l by omega]
  · rw [h, if_neg]
    rwa [show (53 : ℤ) + (l - 52) = l + 1 by omega, not_le]

theorem roundHalfEven_mul {m d : ℕ} (hd : 0 < d) : roundHalfEven (m * d) d = m := by
  simp [roundHalfEven, Nat.mul_mod_left, Nat.mul_div_cancel m hd, hd]

theorem Representable.exists_normal {q : ℚ} (h : Representable q) (hq : q ≠ 0) :
    ∃ (m : ℕ) (l : ℤ), (2 : ℚ) ^ l ≤ q ∧ q < 2 ^ (l + 1) ∧ m < 2 * leadingBit ∧
      q = m * 2 ^ (max minExponent (l - 52)) := by
  obtain ⟨n, k, hn, hk, rfl⟩ := h
  have hn0 : n ≠ 0 := by
    rintro rfl
    simp at hq
  obtain ⟨hlow, hhigh⟩ := log2_bounds hn0
  have hlog : n.log2 < 53 := by
    rw [Nat.log2_lt hn0]
    simpa [leadingBit] using hn
  -- the exponent for rounding is not above the one that is given
  obtain ⟨d, hd⟩ : ∃ d : ℕ, max minExponent ((n.log2 + k) - 52) + (d : ℤ) = k := by
    have hle : max minExponent ((n.log2 + k) - 52) ≤ k := max_le hk (by omega)
    exact ⟨(k - max minExponent ((n.log2 + k) - 52)).toNat, by omega⟩
  refine ⟨n * 2 ^ d, n.log2 + k, ?_, ?_, ?_, ?_⟩
  · rw [zpow_add₀ two_ne_zero]
    gcongr
  · rw [add_right_comm, zpow_add₀ two_ne_zero]
    gcongr
  · have hexp : n.log2 + 1 + d ≤ 53 := by
      have := le_max_right minExponent ((n.log2 + k) - 52)
      omega
    calc n * 2 ^ d < 2 ^ (n.log2 + 1) * 2 ^ d :=
          Nat.mul_lt_mul_of_pos_right Nat.lt_log2_self (Nat.two_pow_pos d)
      _ ≤ 2 ^ 53 := by
          rw [← pow_add]
          exact Nat.pow_le_pow_right (by omega) hexp
      _ = 2 * leadingBit := by norm_num [leadingBit]
  · push_cast
    rw [mul_assoc, ← zpow_natCast, ← zpow_add₀ two_ne_zero, add_comm, hd]

theorem representable_zero : Representable 0 := ⟨0, 0, by decide, by decide, by simp⟩

theorem holds_zero : zero.Holds 0 := ⟨0, minExponent, rfl, by simp⟩

theorem reaches_zero : zero.Reaches 0 := .finite holds_zero (by positivity)

/-- **A representable number is not rounded.** -/
theorem ofRatio_reaches {num den : ℕ} (hden : 0 < den) (h : Representable (num / den)) :
    (ofRatio false num den).Reaches (num / den) := by
  by_cases hnum : num = 0
  · subst hnum
    rw [Nat.cast_zero, zero_div, ofRatio, if_pos rfl]
    exact reaches_zero
  have hden' : (0 : ℚ) < den := by exact_mod_cast hden
  have hnum' : (num : ℚ) ≠ 0 := by exact_mod_cast hnum
  obtain ⟨m, l, hlow, hhigh, hm, hq⟩ := h.exists_normal (div_ne_zero hnum' hden'.ne')
  have hround : roundHalfEven (num * Nat.pow 2 (-(max minExponent (l - 52))).toNat)
      (den * Nat.pow 2 (max minExponent (l - 52)).toNat) = m := by
    rw [shifted_eq hden hq]
    exact roundHalfEven_mul (Nat.mul_pos hden (Nat.pow_pos (by omega)))
  simp only [ofRatio, if_neg hnum, exponentFor_eq hnum hden hlow hhigh, hround, if_neg hm.ne]
  by_cases hmax : maxExponent < max minExponent (l - 52)
  · rw [if_pos hmax]
    refine .overflow rfl (le_trans (zpow_le_zpow_right₀ one_le_two ?_) hlow)
    rw [maxExponent, minExponent] at hmax
    omega
  · rw [if_neg hmax]
    refine .finite ⟨m, _, rfl, hq⟩ (hhigh.trans_le (zpow_le_zpow_right₀ one_le_two ?_))
    rw [maxExponent, minExponent] at hmax
    omega

/-- A significand over an exponent of either sign, as it is handed to the rounding. -/
theorem ofRatio_scaled_reaches {n : ℕ} {e : ℤ} (h : Representable (n * 2 ^ e)) :
    (ofRatio false (n * Nat.pow 2 e.toNat) (Nat.pow 2 (-e).toNat)).Reaches (n * 2 ^ e) := by
  have hden : 0 < Nat.pow 2 (-e).toNat := Nat.pow_pos (by omega)
  have hden' : ((Nat.pow 2 (-e).toNat : ℕ) : ℚ) ≠ 0 := by exact_mod_cast hden.ne'
  have hq : (n : ℚ) * 2 ^ e
      = (n * Nat.pow 2 e.toNat : ℕ) / (Nat.pow 2 (-e).toNat : ℕ) := by
    rw [eq_div_iff hden', Nat.cast_mul, pow_toNat e, mul_assoc]
  rw [hq] at h ⊢
  exact ofRatio_reaches hden h

/-! ## Operations -/

theorem Reaches.holds {x : Binary64} {q : ℚ} (h : x.Reaches q) (hq : q < 2 ^ (1024 : ℤ)) :
    x.Holds q := by
  cases h with
  | finite h _ => exact h
  | overflow _ hsize => exact absurd hq (not_lt.2 hsize)

theorem Holds.mul {x y : Binary64} {a b : ℚ} (hx : x.Holds a) (hy : y.Holds b)
    (h : Representable (a * b)) : (x.mul y).Reaches (a * b) := by
  obtain ⟨m, e, rfl, rfl⟩ := hx
  obtain ⟨n, f, rfl, rfl⟩ := hy
  have hq : (m : ℚ) * 2 ^ e * (n * 2 ^ f) = (m * n : ℕ) * 2 ^ (e + f) := by
    rw [zpow_add₀ two_ne_zero, Nat.cast_mul]
    ring
  rw [hq] at h ⊢
  exact ofRatio_scaled_reaches h

theorem Holds.mul_eq_zero {x y : Binary64} {a b : ℚ} (hx : x.Holds a) (hy : y.Holds b)
    (h : a * b = 0) : (x.mul y).Holds 0 := by
  have hproduct : (x.mul y).Reaches (a * b) := by
    apply hx.mul hy
    rw [h]
    exact representable_zero
  rw [h] at hproduct
  exact hproduct.holds (by positivity)

theorem Holds.not_isZero {x : Binary64} {q : ℚ} (h : x.Holds q) (hq : q ≠ 0) :
    x.isZero = false := by
  obtain ⟨m, e, rfl, rfl⟩ := h
  have hm : m ≠ 0 := by
    rintro rfl
    simp at hq
  simpa [isZero] using hm

theorem Reaches.mul_infinite {x : Binary64} {q : ℚ} (h : x.Reaches q) (hq : q ≠ 0) :
    x.mul (infinite false) = infinite false ∧ (infinite false).mul x = infinite false := by
  cases h with
  | finite h _ =>
    have hzero := h.not_isZero hq
    obtain ⟨m, e, rfl, -⟩ := h
    simp [mul, hzero, isNegative]
  | overflow h _ =>
    subst h
    simp [mul, isZero, isNegative]

theorem Reaches.mul {x y : Binary64} {a b : ℚ} (hx : x.Reaches a) (hy : y.Reaches b)
    (ha : 1 ≤ a) (hb : 1 ≤ b) (h : Representable (a * b)) : (x.mul y).Reaches (a * b) := by
  have ha0 : 0 < a := zero_lt_one.trans_le ha
  have hb0 : 0 < b := zero_lt_one.trans_le hb
  cases hx with
  | finite hx hsize =>
    cases hy with
    | finite hy _ => exact hx.mul hy h
    | overflow hy hlarge =>
      subst hy
      refine .overflow (Reaches.mul_infinite (.finite hx hsize) ha0.ne').1 ?_
      exact hlarge.trans (le_mul_of_one_le_left hb0.le ha)
  | overflow hx hlarge =>
    subst hx
    refine .overflow (hy.mul_infinite hb0.ne').2 ?_
    exact hlarge.trans (le_mul_of_one_le_right ha0.le hb)

theorem cast_scaled {base e : ℤ} (h : base ≤ e) (m : ℕ) :
    ((scaled base false m e : ℤ) : ℚ) * 2 ^ base = m * 2 ^ e := by
  have hpow : ((Nat.pow 2 (e - base).toNat : ℕ) : ℚ) = 2 ^ (e - base) := by
    rw [pow_toNat, show (-(e - base)).toNat = 0 by omega]
    simp
  have hscaled : scaled base false m e = ((m * Nat.pow 2 (e - base).toNat : ℕ) : ℤ) := rfl
  rw [hscaled, Int.cast_natCast, Nat.cast_mul, hpow, mul_assoc, ← zpow_add₀ two_ne_zero,
    sub_add_cancel]

theorem Holds.lt_iff {x y : Binary64} {a b : ℚ} (hx : x.Holds a) (hy : y.Holds b) :
    x.lt y = true ↔ a < b := by
  obtain ⟨m, e, rfl, rfl⟩ := hx
  obtain ⟨n, f, rfl, rfl⟩ := hy
  have hpos : (0 : ℚ) < 2 ^ (Min.min e f) := by positivity
  rw [← cast_scaled (Int.min_le_left e f), ← cast_scaled (Int.min_le_right e f),
    mul_lt_mul_iff_left₀ hpos, Int.cast_lt]
  simp [lt]

theorem Reaches.ne_nan {x : Binary64} {q : ℚ} (h : x.Reaches q) : x ≠ nan := by
  rintro rfl
  rcases h with ⟨⟨m, e, he, -⟩, -⟩ | ⟨h, -⟩
  · cases he
  · cases h

/-- The order of doubles is that of the numbers, except that what is infinite is all the same. -/
theorem Reaches.lt_cases {x y : Binary64} {a b : ℚ} (hx : x.Reaches a) (hy : y.Reaches b) :
    y.lt x = true ∧ b ≤ a ∨ y.lt x = false ∧ (a ≤ b ∨ x = y) := by
  cases hx with
  | finite hx hsa =>
    cases hy with
    | finite hy _ =>
      by_cases h : b < a
      · exact .inl ⟨(hy.lt_iff hx).2 h, h.le⟩
      · exact .inr ⟨Bool.eq_false_iff.2 ((hy.lt_iff hx).not.2 h), .inl (not_lt.1 h)⟩
    | overflow hy hsb =>
      obtain ⟨m, e, rfl, -⟩ := hx
      subst hy
      exact .inr ⟨rfl, .inl (hsa.le.trans hsb)⟩
  | overflow hx hsa =>
    subst hx
    cases hy with
    | finite hy hsb =>
      obtain ⟨m, e, rfl, -⟩ := hy
      exact .inl ⟨rfl, hsb.le.trans hsa⟩
    | overflow hy _ =>
      subst hy
      exact .inr ⟨rfl, .inr rfl⟩

theorem Reaches.min {x y : Binary64} {a b : ℚ} (hx : x.Reaches a) (hy : y.Reaches b) :
    (x.min y).Reaches (Min.min a b) := by
  rw [Binary64.min, if_neg hx.ne_nan, if_neg hy.ne_nan]
  rcases hx.lt_cases hy with ⟨hlt, hle⟩ | ⟨hlt, hle⟩
  · rwa [hlt, if_pos rfl, min_eq_right hle]
  · rw [hlt, if_neg Bool.false_ne_true]
    rcases hle with hle | rfl
    · rwa [min_eq_left hle]
    · rcases min_choice a b with hmin | hmin
      · rwa [hmin]
      · rwa [hmin]

theorem Holds.add {x y : Binary64} {a b : ℚ} (hx : x.Holds a) (hy : y.Holds b)
    (h : Representable (a + b)) : (x.add y).Reaches (a + b) := by
  obtain ⟨m, e, rfl, rfl⟩ := hx
  obtain ⟨n, f, rfl, rfl⟩ := hy
  have hsum := congrArg₂ (· + ·) (cast_scaled (Int.min_le_left e f) m)
    (cast_scaled (Int.min_le_right e f) n)
  simp only [← add_mul, ← Int.cast_add] at hsum
  rw [← hsum] at h ⊢
  have hnonneg : 0 ≤ scaled (Min.min e f) false m e + scaled (Min.min e f) false n f := by
    simp only [scaled, Bool.false_eq_true, if_false]
    positivity
  simp only [Binary64.add]
  generalize scaled (Min.min e f) false m e + scaled (Min.min e f) false n f = sum at *
  generalize Min.min e f = base at *
  by_cases hzero : sum = 0
  · subst hzero
    rw [Int.cast_zero, zero_mul, if_pos rfl]
    exact reaches_zero
  · have habs : (sum : ℚ) = (sum.natAbs : ℕ) := by
      rw [Nat.cast_natAbs, abs_of_nonneg hnonneg]
    rw [if_neg hzero, decide_eq_false (by omega)]
    rw [habs] at h ⊢
    exact ofRatio_scaled_reaches h

theorem Holds.toUInt64 {x : Binary64} {n : ℕ} (h : x.Holds n) (hn : n < UInt64.size) :
    x.toUInt64.toNat = n := by
  obtain ⟨m, e, rfl, hq⟩ := h
  have hwhole : m * Nat.pow 2 e.toNat = n * Nat.pow 2 (-e).toNat := by
    have hcast : ((m * Nat.pow 2 e.toNat : ℕ) : ℚ) = (n * Nat.pow 2 (-e).toNat : ℕ) := by
      rw [Nat.cast_mul, Nat.cast_mul, pow_toNat e, hq, mul_assoc]
    exact_mod_cast hcast
  have hpos : 0 < Nat.pow 2 (-e).toNat := Nat.pow_pos (by omega)
  simp only [Binary64.toUInt64, Bool.false_eq_true, if_false, hwhole, Nat.mul_div_cancel _ hpos]
  rw [if_pos hn, UInt64.toNat_ofNat_of_lt' hn]

/-! ## Whole numbers -/

theorem representable_mul_pow {n : ℕ} (hn : n < 2 * leadingBit) (k : ℕ) :
    Representable (n * 2 ^ k) :=
  ⟨n, k, hn, by rw [minExponent]; omega, by rw [zpow_natCast]⟩

theorem representable_natCast {n : ℕ} (hn : n < 2 * leadingBit) : Representable n := by
  simpa using representable_mul_pow hn 0

theorem lt_size_of_lt {n : ℕ} (hn : n < 2 * leadingBit) : (n : ℚ) < 2 ^ (1024 : ℤ) :=
  calc (n : ℚ) < (2 * leadingBit : ℕ) := by exact_mod_cast hn
    _ = 2 ^ (53 : ℤ) := two_mul_leadingBit
    _ ≤ _ := zpow_le_zpow_right₀ one_le_two (by omega)

theorem ofNat_reaches {n : ℕ} (hn : n < 2 * leadingBit) : (ofNat n).Reaches n := by
  have hone : (n : ℚ) / (1 : ℕ) = n := by rw [Nat.cast_one, div_one]
  rw [← hone]
  exact ofRatio_reaches one_pos (hone.symm ▸ representable_natCast hn)

theorem Reaches.mul_pow {x y : Binary64} {i j : ℕ} (hx : x.Reaches (2 ^ i)) (hy : y.Reaches (2 ^ j)) :
    (x.mul y).Reaches (2 ^ (i + j)) := by
  rw [pow_add]
  refine hx.mul hy (one_le_pow₀ one_le_two) (one_le_pow₀ one_le_two) ?_
  rw [← pow_add]
  simpa using representable_mul_pow (n := 1) (by decide) (i + j)

theorem powFrom_reaches {result base : Binary64} {r b n fuel : ℕ} (hr : result.Reaches (2 ^ r))
    (hb : base.Reaches (2 ^ b)) (hn : n < fuel) :
    (powFrom result base n fuel).Reaches (2 ^ (r + b * n)) := by
  induction fuel generalizing result base r b n with
  | zero => omega
  | succ fuel ih =>
    have hdigit : (if n % 2 = 1 then result.mul base else result).Reaches (2 ^ (r + b * (n % 2))) := by
      rcases Nat.mod_two_eq_zero_or_one n with h | h
      · simpa [h] using hr
      · simpa [h] using hr.mul_pow hb
    have hsplit : r + b * n = r + b * (n % 2) + (b + b) * (n / 2) := by
      conv_lhs => rw [← Nat.mod_add_div n 2]
      ring
    rw [powFrom]
    by_cases hlast : n / 2 = 0
    · rw [hsplit, hlast, Nat.mul_zero, Nat.add_zero, if_pos rfl]
      exact hdigit
    · rw [hsplit, if_neg hlast]
      exact ih hdigit (hb.mul_pow hb) (by omega)

/-- **Doubling is exact.** A power of two is infinite only where it is too large. -/
theorem pow_two_reaches (n : ℕ) : ((ofNat 2).pow n).Reaches (2 ^ n) := by
  have hone : (ofNat 1).Reaches (2 ^ 0) := by
    rw [pow_zero, ← Nat.cast_one]
    exact ofNat_reaches (by rw [leadingBit]; omega)
  have htwo : (ofNat 2).Reaches (2 ^ 1) := by
    rw [pow_one, ← Nat.cast_two]
    exact ofNat_reaches (by rw [leadingBit]; omega)
  have hpow := powFrom_reaches hone htwo (Nat.lt_succ_self n)
  rwa [Nat.zero_add, Nat.one_mul] at hpow

end ChainIndexer.Binary64
