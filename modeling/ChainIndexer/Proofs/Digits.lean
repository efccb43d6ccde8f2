import ChainIndexer.Numeral
import ChainIndexer.Proofs.Except

/-!
# Reading what was written in digits

`Nat.ofDigitChars` is the number that digits stand for. A reader that takes digits one by one
arrives at it (`continueFrom_eq`) or, where it is above the limit, refuses (`continueFrom_overflow`).
So the decimal form of a number reads back as the number (`readUInt64_natural`), and that of any
integer exactly where the integer is within the limits (`toOption_readNatural`,
`toOption_readInteger`).
-/

namespace ChainIndexer.Numeral

theorem le_ofDigitChars (cs : List Char) (n : Nat) : n ≤ Nat.ofDigitChars 10 cs n := by
  rw [Nat.ofDigitChars_eq_ofDigitChars_zero]
  have h := Nat.le_mul_of_pos_left n (Nat.pow_pos (n := cs.length) (show 0 < 10 by omega))
  omega

theorem isDigit_iff {c : Char} : c.isDigit ↔ '0' ≤ c ∧ c ≤ '9' := by
  simp only [Char.isDigit, ge_iff_le, Bool.and_eq_true, decide_eq_true_eq]
  rfl

theorem digitValue?_of_isDigit {c : Char} (h : c.isDigit) :
    digitValue? c = some (c.toNat - '0'.toNat) := by
  rw [digitValue?, if_pos (isDigit_iff.1 h)]

theorem isDigit_of_mem_toDigits {n : Nat} {c : Char} (h : c ∈ Nat.toDigits 10 n) : c.isDigit :=
  Nat.isDigit_of_mem_toDigits (by omega) (by omega) h

/-- Digits are read as the number that they stand for, where that is within the limit. -/
theorem continueFrom_eq {limit : Nat} {overflow : NumeralError} {cs : List Char}
    (hd : ∀ c ∈ cs, c.isDigit) {n : Nat} (h : Nat.ofDigitChars 10 cs n ≤ limit) :
    continueFrom limit overflow n cs = .ok (Nat.ofDigitChars 10 cs n) := by
  induction cs generalizing n with
  | nil => rfl
  | cons c cs ih =>
    rw [Nat.ofDigitChars_cons] at h ⊢
    have hle := le_ofDigitChars cs (10 * n + (c.toNat - '0'.toNat))
    simp only [continueFrom, digitValue?_of_isDigit (hd c (by simp))]
    rw [if_pos (by omega)]
    exact ih (fun d hm => hd d (by simp [hm])) h

theorem readDigits_toDigits {limit n : Nat} {overflow : NumeralError} (h : n ≤ limit) :
    readDigits limit overflow (Nat.toDigits 10 n) = .ok n := by
  have hdigits : ∀ c ∈ Nat.toDigits 10 n, c.isDigit := fun c => isDigit_of_mem_toDigits
  have hvalue : Nat.ofDigitChars 10 (Nat.toDigits 10 n) 0 = n := Nat.ofDigitChars_ten_toDigits
  rcases hcs : Nat.toDigits 10 n with _ | ⟨c, cs⟩
  · exact absurd hcs Nat.toDigits_ne_nil
  · rw [hcs] at hdigits hvalue
    rw [readDigits, continueFrom_eq hdigits (by omega), hvalue]

theorem continueFrom_overflow {limit : Nat} {overflow : NumeralError} {cs : List Char}
    (hd : ∀ c ∈ cs, c.isDigit) {n : Nat} (hn : n ≤ limit)
    (h : limit < Nat.ofDigitChars 10 cs n) :
    continueFrom limit overflow n cs = .error overflow := by
  induction cs generalizing n with
  | nil =>
    rw [Nat.ofDigitChars_nil] at h
    omega
  | cons c cs ih =>
    rw [Nat.ofDigitChars_cons] at h
    simp only [continueFrom, digitValue?_of_isDigit (hd c (by simp))]
    -- either this digit is too many, or what it leaves is within the limit and a later one is
    split
    · rename_i hle
      exact ih (fun d hm => hd d (by simp [hm])) hle h
    · rfl

theorem toOption_readDigits (limit n : Nat) (overflow : NumeralError) :
    (readDigits limit overflow (Nat.toDigits 10 n)).toOption = if n ≤ limit then some n else none := by
  split
  · rename_i hle
    rw [readDigits_toDigits hle]
    rfl
  · rename_i hgt
    have hdigits : ∀ c ∈ Nat.toDigits 10 n, c.isDigit := fun c => isDigit_of_mem_toDigits
    have hvalue : Nat.ofDigitChars 10 (Nat.toDigits 10 n) 0 = n := Nat.ofDigitChars_ten_toDigits
    rcases hcs : Nat.toDigits 10 n with _ | ⟨c, cs⟩
    · rfl
    · rw [hcs] at hdigits hvalue
      rw [readDigits, continueFrom_overflow hdigits (Nat.zero_le limit) (by omega)]
      rfl

theorem toDigits_eq_cons (n : Nat) :
    ∃ c cs, Nat.toDigits 10 n = c :: cs ∧ c.isDigit ∧ c ≠ '+' ∧ c ≠ '-' := by
  rcases hcs : Nat.toDigits 10 n with _ | ⟨c, cs⟩
  · exact absurd hcs Nat.toDigits_ne_nil
  · have hc : c.isDigit := isDigit_of_mem_toDigits (hcs ▸ List.mem_cons_self)
    refine ⟨c, cs, rfl, hc, ?_, ?_⟩ <;> rintro rfl <;> exact absurd hc (by decide)

theorem ne_zero_of_toDigits {n : Nat} (hn : 0 < n) {c : Char} {cs : List Char}
    (h : Nat.toDigits 10 n = c :: cs) : c ≠ '0' := by
  induction n using Nat.strongRecOn generalizing c cs with
  | ind n ih =>
    rw [Nat.toDigits_eq_if (by omega)] at h
    split at h
    · rename_i hlt
      obtain ⟨rfl, -⟩ := List.cons.inj h
      have hone : ∀ m < 10, 0 < m → Nat.digitChar m ≠ '0' := by decide
      exact hone n hlt hn
    · obtain ⟨d, ds, hds, -⟩ := toDigits_eq_cons (n / 10)
      rw [hds] at h
      obtain ⟨rfl, -⟩ := List.cons.inj h
      exact ih (n / 10) (by omega) (by omega) hds

theorem readUInt64_natural (n : UInt64) : readUInt64 (natural n.toNat) = .ok n := by
  obtain ⟨c, cs, hcs, -, hplus, -⟩ := toDigits_eq_cons n.toNat
  have hdigits : readDigits 0xFFFFFFFFFFFFFFFF .tooLarge (c :: cs) = .ok n.toNat :=
    hcs ▸ readDigits_toDigits (Nat.le_of_lt_succ n.toNat_lt)
  have hread : readNatural 0xFFFFFFFFFFFFFFFF (c :: cs) = .ok n.toNat := by
    rw [readNatural]
    · exact hdigits
    · simp
    · rintro ds ⟨⟩
      exact hplus rfl
  rw [readUInt64, natural, String.toList_ofList, hcs, hread]
  simp [Except.map]

/-! ## Integers -/

theorem natural_injective : Function.Injective natural := by
  intro m n h
  have hdigits : Nat.toDigits 10 m = Nat.toDigits 10 n := by
    have hlists := congrArg String.toList h
    simpa [natural] using hlists
  have hm : Nat.ofDigitChars 10 (Nat.toDigits 10 m) 0 = m := Nat.ofDigitChars_ten_toDigits
  have hn : Nat.ofDigitChars 10 (Nat.toDigits 10 n) 0 = n := Nat.ofDigitChars_ten_toDigits
  rw [← hm, hdigits, hn]

theorem natural_ne_empty (n : Nat) : (natural n).isEmpty = false := by
  rw [String.isEmpty_eq_false_iff, Ne, ← String.toList_eq_nil_iff]
  simp [natural]

theorem integer_ne_empty (n : Int) : (integer n).isEmpty = false := by
  rw [String.isEmpty_eq_false_iff, Ne, ← String.toList_eq_nil_iff]
  cases n <;> simp [integer, natural]

/-- The decimal form of an integer is read as a natural number where it is one within the limit. -/
theorem toOption_readNatural (limit : Nat) (n : Int) :
    (readNatural limit (integer n).toList).toOption
      = if 0 ≤ n ∧ n ≤ limit then some n.toNat else none := by
  cases n with
  | ofNat m =>
    obtain ⟨c, cs, hcs, -, hplus, -⟩ := toDigits_eq_cons m
    have hread : readNatural limit (c :: cs) = readDigits limit .tooLarge (c :: cs) := by
      rw [readNatural]
      · simp
      · rintro ds ⟨⟩
        exact hplus rfl
    rw [integer, natural, String.toList_ofList, hcs, hread, ← hcs, toOption_readDigits]
    simp
  | negSucc m =>
    have hneg : ¬ (0 ≤ Int.negSucc m ∧ Int.negSucc m ≤ (limit : Int)) := by omega
    rw [if_neg hneg, integer, natural, String.toList_append, String.toList_ofList]
    rfl

/-- The decimal form of an integer is read as the integer where that is within the limits. -/
theorem toOption_readInteger (low high : Nat) (n : Int) :
    (readInteger low high (integer n).toList).toOption
      = if -low ≤ n ∧ n ≤ high then some n else none := by
  cases n with
  | ofNat m =>
    obtain ⟨c, cs, hcs, -, hplus, hminus⟩ := toDigits_eq_cons m
    have hread : readInteger low high (c :: cs)
        = (readDigits high .tooLarge (c :: cs)).map Int.ofNat := by
      rw [readInteger]
      · simp
      · rintro ds ⟨⟩
        exact hplus rfl
      · rintro ds ⟨⟩
        exact hminus rfl
    rw [integer, natural, String.toList_ofList, hcs, hread, ← hcs, toOption_map,
      toOption_readDigits]
    by_cases hm : m ≤ high
    · have hlow : -(low : Int) ≤ Int.ofNat m := by
        have := Int.natCast_nonneg m
        change -(low : Int) ≤ (m : Int)
        omega
      rw [if_pos hm, if_pos ⟨hlow, Int.ofNat_le.2 hm⟩]
      rfl
    · rw [if_neg hm, if_neg fun h => hm (Int.ofNat_le.1 h.2)]
      rfl
  | negSucc m =>
    have hchars : (integer (Int.negSucc m)).toList = '-' :: Nat.toDigits 10 (m + 1) := by
      simp [integer, natural]
    have hread : readInteger low high ('-' :: Nat.toDigits 10 (m + 1))
        = (readDigits low .tooSmall (Nat.toDigits 10 (m + 1))).map
          fun d : Nat => -(d : Int) := by
      rw [readInteger]
      cases readDigits low .tooSmall (Nat.toDigits 10 (m + 1)) <;> rfl
    rw [hchars, hread, toOption_map, toOption_readDigits]
    by_cases hm : m + 1 ≤ low
    · rw [if_pos hm, if_pos ⟨by omega, by omega⟩]
      rfl
    · rw [if_neg hm, if_neg fun h => hm (by omega)]
      rfl

end ChainIndexer.Numeral
