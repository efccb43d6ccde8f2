import ChainIndexer.Proofs.Doubles
import ChainIndexer.Proofs.Tasks

/-!
# Pauses that double

The pause after failures in a row is computed in doubles, and read off as a whole number of
milliseconds. Both bounds have at most 53 digits, so that neither the product with a power of two
nor the lesser of product and cap is rounded (`capped_reaches`). `Prescribes` is the rule in both
forms, and `prescribes_retryDelay` says that the manager goes by it.

What breaks the rule is an infinite power. A first pause that is not zero has long been above the
cap by then. A first pause of zero gives no number, which counts as the cap (`capped_zero`): after
1025 failures the pause leaps from nothing to the cap. `toNat_retryDelay` has both cases, and
`backoff_doubles` what follows for settings that are accepted; `zero_pause_leaps` is the leap.
-/

namespace ChainIndexer

open Binary64 (leadingBit zero ofRatio Reaches ofNat_reaches holds_zero
  pow_two_reaches representable_natCast representable_mul_pow lt_size_of_lt)

namespace RetryConfig

variable {initial max : ℕ}

/-! ## The capped delay -/

theorem capped_reaches (hi : initial < 2 * leadingBit) (hm : max < 2 * leadingBit)
    (hpos : 0 < initial) (k : ℕ) :
    (((Binary64.ofNat initial).mul ((Binary64.ofNat 2).pow k)).min (.ofNat max)).Reaches
      (min (initial * 2 ^ k) max : ℕ) := by
  have hgrown : ((Binary64.ofNat initial).mul ((Binary64.ofNat 2).pow k)).Reaches
      (initial * 2 ^ k) := by
    apply (ofNat_reaches hi).mul (pow_two_reaches k)
    · exact_mod_cast hpos
    · exact one_le_pow₀ one_le_two
    · exact representable_mul_pow hi k
  push_cast
  exact hgrown.min (ofNat_reaches hm)

theorem pow_lt_size_iff {k : ℕ} : (2 : ℚ) ^ k < 2 ^ (1024 : ℤ) ↔ k < 1024 := by
  rw [← zpow_natCast, zpow_lt_zpow_iff_right₀ one_lt_two]
  omega

theorem capped_zero (hm : max < 2 * leadingBit) (k : ℕ) :
    (((Binary64.ofNat 0).mul ((Binary64.ofNat 2).pow k)).min (.ofNat max)).Reaches
      (if 1024 ≤ k then max else 0 : ℕ) := by
  cases pow_two_reaches k with
  | finite hpow hsize =>
    rw [pow_lt_size_iff] at hsize
    have hgrown := Reaches.finite (holds_zero.mul_eq_zero hpow (zero_mul _)) (by positivity)
    have hcapped := hgrown.min (ofNat_reaches hm)
    rw [min_eq_left (Nat.cast_nonneg max)] at hcapped
    rwa [if_neg (by omega), Nat.cast_zero]
  | overflow hpow hsize =>
    rw [← not_lt, pow_lt_size_iff] at hsize
    -- the product is no number, so that the lesser of the two is the cap
    rw [hpow, if_pos (by omega)]
    exact ofNat_reaches hm

theorem toUInt64_unshared {capped : Binary64} {n : ℕ} (h : capped.Reaches n)
    (hn : n < 2 * leadingBit) :
    (capped.add ((capped.mul zero).mul (ofRatio false 1 2))).toUInt64.toNat = n := by
  have hcapped := h.holds (lt_size_of_lt hn)
  have hhalf : (ofRatio false 1 2).Holds (1 / 2) :=
    ⟨leadingBit, -53, by decide, by norm_num [leadingBit]⟩
  have hshare := hcapped.mul_eq_zero holds_zero (mul_zero _)
  have hadded := hshare.mul_eq_zero hhalf (zero_mul _)
  have htotal := hcapped.add hadded (by rw [add_zero]; exact representable_natCast hn)
  rw [add_zero] at htotal
  apply (htotal.holds (lt_size_of_lt hn)).toUInt64
  rw [leadingBit] at hn
  rw [UInt64.size]
  omega

/-! ## The delay -/

theorem min_mul_pow_cut {k cut : ℕ} (hm : max < 2 * leadingBit) (hcut : 53 ≤ cut) :
    min (initial * 2 ^ min k cut) max = min (initial * 2 ^ k) max := by
  rcases Nat.eq_zero_or_pos initial with rfl | hpos
  · rw [zero_mul, zero_mul]
  have hlarge : ∀ j, 53 ≤ j → max ≤ initial * 2 ^ j := by
    intro j hj
    have hpow : 2 ^ 53 ≤ 2 ^ j := Nat.pow_le_pow_right (by omega) hj
    have hmul : 2 ^ j ≤ initial * 2 ^ j := Nat.le_mul_of_pos_left _ hpos
    rw [leadingBit] at hm
    omega
  rcases le_total k cut with h | h
  · rw [min_eq_left h]
  · rw [min_eq_right h, min_eq_right (hlarge cut hcut), min_eq_right (hlarge k (by omega))]

theorem toNat_delay {initial max : UInt64} (hi : initial.toNat < 2 * leadingBit)
    (hm : max.toNat < 2 * leadingBit) (failures : UInt32) :
    ((unbounded initial max).delay failures).toNat =
      if initial = 0 ∧ 1024 < failures.toNat then max.toNat
      else min (initial.toNat * 2 ^ (failures.toNat - 1)) max.toNat := by
  have hexponent : exponent failures = min (failures.toNat - 1) 0x7FFFFFFF := rfl
  simp only [delay, unbounded]
  by_cases hzero : initial = 0
  · have hinitial : initial.toNat = 0 := by rw [hzero, UInt64.toNat_zero]
    rw [hinitial, toUInt64_unshared (capped_zero hm (exponent failures)) (by split <;> omega),
      zero_mul, Nat.zero_min]
    apply if_congr _ rfl rfl
    rw [and_iff_right hzero]
    omega
  · have hpos : 0 < initial.toNat := by
      rw [Nat.pos_iff_ne_zero]
      exact fun h => hzero (UInt64.toNat_inj.1 h)
    rw [toUInt64_unshared (capped_reaches hi hm hpos (exponent failures)) (by omega),
      if_neg (fun h => hzero h.1), hexponent, min_mul_pow_cut hm (by omega)]

/-- What settings prescribe for the pause in milliseconds after so many failures in a row. Where no
attempt is left it is the cap. Else the first delay is multiplied with every failure but the first,
capped, and a share is added; where the delay is doubled, no share is added and both bounds have at
most 53 digits, this is exact. -/
structure Prescribes (c : RetryConfig) (failures : ℕ) (ms : UInt64) : Prop where
  exhausted : (∃ most, c.maxRetries = some most ∧ most.toNat < failures) → ms = c.maxBackoff
  grown : (∀ most, c.maxRetries = some most → failures ≤ most.toNat) →
    let grown := (Binary64.ofNat c.initialBackoff.toNat).mul
      (c.multiplier.pow (min (failures - 1) 0x7FFFFFFF))
    let capped := grown.min (.ofNat c.maxBackoff.toNat)
    ms = (capped.add ((capped.mul c.jitterFraction).mul (.ofRatio false 1 2))).toUInt64
  doubled : c.maxRetries = none → c.multiplier = .ofNat 2 → c.jitterFraction = .zero →
    c.initialBackoff ≤ c.maxBackoff → c.maxBackoff.toNat < 2 ^ 53 →
    ms.toNat = if c.initialBackoff = 0 ∧ 1024 < failures then c.maxBackoff.toNat
      else min (c.initialBackoff.toNat * 2 ^ (failures - 1)) c.maxBackoff.toNat

end RetryConfig

/-! ## The pauses of the manager -/

namespace Manager

variable {initial max : UInt64}

theorem toNat_retryDelay (hle : initial ≤ max) (hm : max.toNat < 2 ^ 53) (failures : UInt32) :
    (retryDelay (.unbounded initial max) failures).toNat =
      if initial = 0 ∧ 1024 < failures.toNat then max.toNat
      else min (initial.toNat * 2 ^ (failures.toNat - 1)) max.toNat := by
  have hsize : 2 * leadingBit = 2 ^ 53 := by norm_num [leadingBit]
  have hi := (UInt64.le_iff_toNat_le.1 hle).trans_lt hm
  rw [← hsize] at hi hm
  exact RetryConfig.toNat_delay hi hm failures

theorem prescribes_retryDelay (c : RetryConfig) (failures : UInt32) :
    c.Prescribes failures.toNat (retryDelay c failures) where
  exhausted := by
    rintro ⟨most, hmost, hlt⟩
    have hnext : c.nextDelay? failures = none := by
      rw [RetryConfig.nextDelay?, RetryConfig.shouldRetry, hmost]
      exact if_neg fun h => absurd (UInt32.le_iff_toNat_le.1 (of_decide_eq_true h)) (by omega)
    rw [retryDelay, hnext, Option.getD_none]
  grown := by
    intro hmost
    have hnext : c.nextDelay? failures = some (c.delay failures) := by
      refine if_pos ?_
      rw [RetryConfig.shouldRetry]
      cases hm : c.maxRetries with
      | none => rfl
      | some most => exact decide_eq_true (UInt32.le_iff_toNat_le.2 (hmost most hm))
    rw [retryDelay, hnext, Option.getD_some]
    rfl
  doubled := by
    intro hretries hmultiplier hjitter hle hm
    have hc : c = .unbounded c.initialBackoff c.maxBackoff := by
      obtain ⟨maxRetries, initialBackoff, maxBackoff, multiplier, jitterFraction⟩ := c
      cases hretries
      cases hmultiplier
      cases hjitter
      rfl
    rw [hc]
    exact toNat_retryDelay hle hm failures

theorem retryDelay_le (hle : initial ≤ max) (hm : max.toNat < 2 ^ 53) (failures : UInt32) :
    retryDelay (.unbounded initial max) failures ≤ max := by
  rw [UInt64.le_iff_toNat_le, toNat_retryDelay hle hm]
  split
  · exact le_rfl
  · exact min_le_right _ _

theorem retryDelay_mono (hle : initial ≤ max) (hm : max.toNat < 2 ^ 53) {failures later : UInt32}
    (h : failures ≤ later) :
    retryDelay (.unbounded initial max) failures ≤ retryDelay (.unbounded initial max) later := by
  rw [UInt32.le_iff_toNat_le] at h
  rw [UInt64.le_iff_toNat_le, toNat_retryDelay hle hm, toNat_retryDelay hle hm]
  by_cases hlate : initial = 0 ∧ 1024 < later.toNat
  · rw [if_pos hlate]
    split
    · exact le_rfl
    · exact min_le_right _ _
  · rw [if_neg hlate, if_neg (fun hearly => hlate ⟨hearly.1, by omega⟩)]
    apply min_le_min_right
    apply Nat.mul_le_mul_left
    exact Nat.pow_le_pow_right (by omega) (by omega)

end Manager

namespace SyncConfig

/-- **The pauses double up to the cap.** Two bounds of at most 53 digits, the first not above the
second, are accepted in any settings that were. The pause after so many failures in a row is then
the first bound, doubled with every failure but the first, or the second bound where that is less;
but where the first bound is zero and there are more than 1024 failures, it is the second bound. It
is never above the second bound and never decreases. Powers of two are exact or infinite, nothing
times infinity is no number, and what is no number is passed over for the other of two. -/
theorem backoff_doubles (c : SyncConfig) (initial max : UInt64) (hle : initial ≤ max)
    (hm : max.toNat < 2 ^ 53) :
    let backoff := (c.withRetryInterval initial max).managerConfig.backoff
    (c.validate = .ok () → (c.withRetryInterval initial max).validate = .ok ()) ∧
    (∀ failures, (Manager.retryDelay backoff failures).toNat =
      if initial = 0 ∧ 1024 < failures.toNat then max.toNat
      else min (initial.toNat * 2 ^ (failures.toNat - 1)) max.toNat) ∧
    (∀ failures, Manager.retryDelay backoff failures ≤ max) ∧
    (∀ failures later, failures ≤ later →
      Manager.retryDelay backoff failures ≤ Manager.retryDelay backoff later) ∧
    (∀ k, ((Binary64.ofNat 2).pow k).Reaches (2 ^ k)) ∧
    Binary64.zero.mul (.infinite false) = .nan ∧
    ∀ x, Binary64.nan.min x = x ∧ x.min .nan = x := by
  refine ⟨?_, Manager.toNat_retryDelay hle hm, Manager.retryDelay_le hle hm,
    fun _ _ => Manager.retryDelay_mono hle hm, pow_two_reaches, rfl, fun x => ⟨rfl, ?_⟩⟩
  · intro hv
    obtain ⟨hchain, happ, hwindow, hlookups, haccount, -, target, htarget⟩ :=
      validate_eq_ok_iff.1 hv
    exact validate_eq_ok_iff.2 ⟨hchain, happ, hwindow, hlookups, haccount, hle, target, htarget⟩
  · rw [Binary64.min, if_pos rfl, ite_eq_right_iff]
    exact Eq.symm

/-- The largest bounds for which all this holds: the cap is no power of two, and is met by the last
failure that is counted. -/
theorem longest_backoff_doubles :
    let backoff := (withRetryInterval {} 1 0x1FFFFFFFFFFFFF).managerConfig.backoff
    (withRetryInterval {} 1 0x1FFFFFFFFFFFFF).validate = .ok () ∧
      Manager.retryDelay backoff 53 = 0x10000000000000 ∧
      Manager.retryDelay backoff 54 = 0x1FFFFFFFFFFFFF ∧
      Manager.retryDelay backoff 0xFFFFFFFF = 0x1FFFFFFFFFFFFF := by
  intro backoff
  have hv : ({} : SyncConfig).validate = .ok () := by decide +kernel
  obtain ⟨hvalid, hdelay, hmost, hmono, -⟩ :=
    backoff_doubles {} 1 0x1FFFFFFFFFFFFF (by decide) (by decide)
  have h53 : Manager.retryDelay backoff 53 = 0x10000000000000 :=
    UInt64.toNat_inj.1 ((hdelay 53).trans (by decide))
  have h54 : Manager.retryDelay backoff 54 = 0x1FFFFFFFFFFFFF :=
    UInt64.toNat_inj.1 ((hdelay 54).trans (by decide))
  refine ⟨hvalid hv, h53, h54, UInt64.le_antisymm (hmost 0xFFFFFFFF) ?_⟩
  rw [← h54]
  exact hmono 54 0xFFFFFFFF (by decide)

/-- Without a first pause there is none after 1024 failures, and the longest one after 1025. -/
theorem zero_pause_leaps :
    (withRetryInterval {} 0 60000).validate = .ok () ∧
      Manager.retryDelay (withRetryInterval {} 0 60000).managerConfig.backoff 1024 = 0 ∧
      Manager.retryDelay (withRetryInterval {} 0 60000).managerConfig.backoff 1025 = 60000 ∧
      min (0 * 2 ^ (1025 - 1)) 60000 = 0 := by
  refine ⟨by decide +kernel, by decide +kernel, by decide +kernel, ?_⟩
  rw [Nat.zero_mul, Nat.zero_min]

end SyncConfig

end ChainIndexer
