import Mathlib.Data.List.TakeWhile
import ChainIndexer.Time.Reader
import ChainIndexer.Proofs.Digits
import ChainIndexer.Proofs.Except

/-!
# Instants read back

The written form of an instant reads back as the instant (`readLoose_text`). Months, days and the
fields of the clock are two digits each; a year is four digits or bears a sign, and its digits end
at the mark after it; a fraction of 3, 6 or 9 digits is scaled to nanoseconds.

Whatever is read is an instant of the calendar and the clock (`valid_of_readLoose`): each field is
confined to its range, a fraction has at most nine digits, and an offset is less than a day.
-/

namespace ChainIndexer.Time

/-! ## Numbers of fixed width -/

theorem isDigit_of_mem_padded {width n : Nat} {c : Char} (h : c ∈ padded width n) : c.isDigit := by
  rcases List.mem_append.1 h with h | h
  · rw [List.eq_of_mem_replicate h]
    rfl
  · exact Numeral.isDigit_of_mem_toDigits h

theorem padded_ne_nil (width n : Nat) : padded width n ≠ [] := by simp [padded]

theorem ofDigitChars_padded (width n : Nat) : Nat.ofDigitChars 10 (padded width n) 0 = n := by
  simp [padded, Nat.ofDigitChars_append, Nat.ofDigitChars_replicate_zero]

theorem length_padded {width n : Nat} (hw : 0 < width) (h : n < Nat.pow 10 width) :
    (padded width n).length = width := by
  have hlen : (Nat.toDigits 10 n).length ≤ width :=
    (Nat.length_toDigits_le_iff (by omega) hw).2 h
  simp [padded, hlen]

/-! ## Taking numbers -/

def EndsDigits (rest : List Char) : Prop := ∀ c ∈ rest.head?, Numeral.digitValue? c = none

theorem moreDigits_eq (width : Nat) {n : Nat} {cs rest : List Char} (hd : ∀ c ∈ cs, c.isDigit)
    (hlen : cs.length ≤ width) (hend : cs.length = width ∨ EndsDigits rest)
    (hfits : Nat.ofDigitChars 10 cs n < 0x8000000000000000) :
    moreDigits width n (cs ++ rest) = .ok (Nat.ofDigitChars 10 cs n, rest) := by
  induction cs generalizing width n with
  | nil =>
    rcases rest with _ | ⟨c, rest⟩
    · simp [moreDigits]
    · rcases hend with rfl | hend
      · simp [moreDigits]
      · cases width with
        | zero => simp [moreDigits]
        | succ width => simp [moreDigits, hend c rfl]
  | cons c cs ih =>
    obtain ⟨hc, hcs⟩ := List.forall_mem_cons.1 hd
    obtain ⟨width, rfl⟩ : ∃ w, width = w + 1 := ⟨width - 1, by simp at hlen; omega⟩
    rw [Nat.ofDigitChars_cons] at hfits ⊢
    have hle := Numeral.le_ofDigitChars cs (10 * n + (c.toNat - '0'.toNat))
    simp only [List.cons_append, moreDigits, Numeral.digitValue?_of_isDigit hc]
    rw [if_pos (by omega)]
    exact ih width hcs (by simpa using hlen) (by simpa using hend) hfits

theorem takeNumber_eq (width : Nat) {cs rest : List Char} (hne : cs ≠ [])
    (hd : ∀ c ∈ cs, c.isDigit) (hlen : cs.length ≤ width)
    (hend : cs.length = width ∨ EndsDigits rest)
    (hfits : Nat.ofDigitChars 10 cs 0 < 0x8000000000000000) :
    takeNumber width (cs ++ rest) = .ok (Nat.ofDigitChars 10 cs 0, rest) := by
  obtain ⟨c, cs, rfl⟩ := List.exists_cons_of_ne_nil hne
  obtain ⟨hc, hcs⟩ := List.forall_mem_cons.1 hd
  rw [List.length_cons] at hlen hend
  rw [Nat.ofDigitChars_cons, Nat.mul_zero, Nat.zero_add] at hfits ⊢
  have hmore := moreDigits_eq (width - 1) hcs (by omega)
    (hend.imp_left fun h => by omega) hfits
  simp only [List.cons_append, takeNumber, digit, Numeral.digitValue?_of_isDigit hc]
  exact hmore

theorem takeNumber_padded (width : Nat) {n : Nat} (hw : 0 < width) (h : n < Nat.pow 10 width)
    (hfits : n < 0x8000000000000000) (rest : List Char) :
    takeNumber width (padded width n ++ rest) = .ok (n, rest) := by
  have hlen := length_padded hw h
  rw [takeNumber_eq width (padded_ne_nil width n) (fun _ => isDigit_of_mem_padded) hlen.le
    (.inl hlen) (by rwa [ofDigitChars_padded]), ofDigitChars_padded]

/-! ## Fields -/

theorem isBlank_of_isDigit {c : Char} (h : c.isDigit) : Text.isBlank c = false := by
  obtain ⟨hlow, hhigh⟩ := Numeral.isDigit_iff.1 h
  have hlow : 48 ≤ c.toNat := hlow
  have hhigh : c.toNat ≤ 57 := hhigh
  simp [Text.isBlank, Text.blankRanges, Text.Ranges.contains]
  omega

theorem trimStart_padded (width n : Nat) (rest : List Char) :
    Text.trimStart (padded width n ++ rest) = padded width n ++ rest := by
  obtain ⟨c, cs, hcs⟩ := List.exists_cons_of_ne_nil (padded_ne_nil width n)
  have hc : Text.isBlank c = false :=
    isBlank_of_isDigit (isDigit_of_mem_padded (hcs ▸ List.mem_cons_self))
  simp [hcs, Text.trimStart, hc]

theorem takeField_padded {low high n : Nat} (hlow : low ≤ n) (hhigh : n ≤ high) (h : high < 100)
    (rest : List Char) : takeField low high (padded 2 n ++ rest) = .ok (n, rest) := by
  have hwidth : n < 100 := by omega
  have htake := takeNumber_padded 2 (by omega) hwidth (by omega) rest
  simp only [takeField, trimStart_padded, htake]
  exact if_pos ⟨hlow, hhigh⟩

theorem takeMark_cons {mark : Char} (h : Text.isBlank mark = false) (rest : List Char) :
    takeMark mark (mark :: rest) = .ok rest := by
  simp [takeMark, Text.trimStart, h, takeOneOf]

theorem takeYear_padded {n : Nat} (h : n < 10000) (rest : List Char) :
    takeYear (padded 4 n ++ rest) = .ok ((n : Int), rest) := by
  have htake := takeNumber_padded 4 (by omega) h (by omega) rest
  obtain ⟨c, cs, hcs⟩ := List.exists_cons_of_ne_nil (padded_ne_nil 4 n)
  have hc : c.isDigit := isDigit_of_mem_padded (hcs ▸ List.mem_cons_self)
  have hminus : c ≠ '-' := by rintro rfl; exact absurd hc (by decide)
  have hplus : c ≠ '+' := by rintro rfl; exact absurd hc (by decide)
  have hrange : -0x80000000 ≤ (n : Int) ∧ (n : Int) < 0x80000000 := ⟨by omega, by omega⟩
  rw [takeYear, trimStart_padded]
  split
  · rename_i heq
    rw [hcs] at heq
    exact absurd (List.cons.inj heq).1 hminus
  · rename_i heq
    rw [hcs] at heq
    exact absurd (List.cons.inj heq).1 hplus
  · simp only [htake, Except.map, bind, Except.bind, if_pos hrange]
    rfl

theorem takeYear_signed {n : Nat} (hfits : n < 0x80000000) (rest : List Char) :
    takeYear ('-' :: padded 4 n ++ '-' :: rest) = .ok (-(n : Int), '-' :: rest)
      ∧ takeYear ('+' :: padded 4 n ++ '-' :: rest) = .ok ((n : Int), '-' :: rest) := by
  have hend : EndsDigits ('-' :: rest) := by rintro c ⟨⟩; rfl
  have htake := takeNumber_eq (padded 4 n ++ '-' :: rest).length (padded_ne_nil 4 n)
    (fun _ => isDigit_of_mem_padded) (by simp) (.inr hend) (by rw [ofDigitChars_padded]; omega)
  rw [ofDigitChars_padded] at htake
  constructor
  · have hrange : -0x80000000 ≤ -(n : Int) ∧ -(n : Int) < 0x80000000 := ⟨by omega, by omega⟩
    have hstart : Text.trimStart ('-' :: padded 4 n ++ '-' :: rest)
        = '-' :: (padded 4 n ++ '-' :: rest) := rfl
    simp only [takeYear, hstart, htake, Except.map, bind, Except.bind, if_pos hrange]
    rfl
  · have hrange : -0x80000000 ≤ (n : Int) ∧ (n : Int) < 0x80000000 := ⟨by omega, by omega⟩
    have hstart : Text.trimStart ('+' :: padded 4 n ++ '-' :: rest)
        = '+' :: (padded 4 n ++ '-' :: rest) := rfl
    simp only [takeYear, hstart, htake, Except.map, bind, Except.bind, if_pos hrange]
    rfl

theorem takeYear_yearChars {year : Int} (hlow : Date.minYear ≤ year) (hhigh : year ≤ Date.maxYear)
    (rest : List Char) : takeYear (yearChars year ++ '-' :: rest) = .ok (year, '-' :: rest) := by
  rw [Date.minYear] at hlow
  rw [Date.maxYear] at hhigh
  obtain ⟨hminus, hplus⟩ := takeYear_signed (n := year.natAbs) (by omega) rest
  unfold yearChars
  split_ifs with hplain hneg
  · have hyear : (year.toNat : Int) = year := by omega
    rw [takeYear_padded (by omega), hyear]
  · have hyear : -(year.natAbs : Int) = year := by omega
    rw [hminus, hyear]
  · have hyear : (year.natAbs : Int) = year := by omega
    rw [hplus, hyear]

theorem takeFraction_padded (width : Nat) {n : Nat} (hw : 0 < width) (hnine : width ≤ 9)
    (h : n < Nat.pow 10 width) :
    takeFraction (padded width n ++ ['Z']) = .ok (n * Nat.pow 10 (9 - width), ['Z']) := by
  have hend : EndsDigits ['Z'] := by rintro c ⟨⟩; rfl
  have hlen := length_padded hw h
  have hsmall : n < 1000000000 := Nat.lt_of_lt_of_le h (Nat.pow_le_pow_right (by omega) hnine)
  have htake := takeNumber_eq 9 (padded_ne_nil width n)
    (fun _ => isDigit_of_mem_padded) (by omega) (.inr hend) (by rw [ofDigitChars_padded]; omega)
  rw [ofDigitChars_padded] at htake
  have hcount : (padded width n ++ ['Z']).length - ['Z'].length = width := by simp [hlen]
  rw [takeFraction, htake]
  change Except.ok (n * Nat.pow 10 (9 - ((padded width n ++ ['Z']).length - ['Z'].length)), _) = _
  rw [hcount]
  rfl

theorem takeOptionalFraction_fractionChars {nano : Nat} (h : nano < 1000000000) :
    takeOptionalFraction (fractionChars nano ++ ['Z']) = .ok (nano, ['Z']) := by
  unfold fractionChars
  split_ifs with hzero hmilli hmicro
  · simp [takeOptionalFraction, hzero]
  · have hwidth : nano / 1000000 < 1000 := by omega
    have hnano : nano / 1000000 * Nat.pow 10 (9 - 3) = nano := by
      change nano / 1000000 * 1000000 = nano
      omega
    have htake := takeFraction_padded 3 (by omega) (by omega) hwidth
    rwa [hnano] at htake
  · have hwidth : nano / 1000 < 1000000 := by omega
    have hnano : nano / 1000 * Nat.pow 10 (9 - 6) = nano := by
      change nano / 1000 * 1000 = nano
      omega
    have htake := takeFraction_padded 6 (by omega) (by omega) hwidth
    rwa [hnano] at htake
  · have hnano : nano * Nat.pow 10 (9 - 9) = nano := Nat.mul_one nano
    have htake := takeFraction_padded 9 (by omega) (by omega) h
    rwa [hnano] at htake

/-! ## Instants -/

theorem atOffset_zero {t : Time} (h : t.Valid) : atOffset t 0 = .ok t := by
  obtain ⟨hdate, hhour, hminute, -⟩ := h
  have hminutes : (t.hour * 60 + t.minute - 0 : Int).toNat = t.hour * 60 + t.minute := by omega
  have hsame : t.beforeOffset 0 = t := by
    simp only [beforeOffset]
    rw [if_neg (by omega), if_neg (by omega), hminutes, atMinute]
    have hhours : (t.hour * 60 + t.minute) / 60 = t.hour := by omega
    have hrest : (t.hour * 60 + t.minute) % 60 = t.minute := by omega
    rw [hhours, hrest]
  simp [atOffset, hsame, hdate]

/-- **The written form of an instant reads back as the instant.** -/
theorem readLoose_text {t : Time} (h : t.Valid) : readLoose t.text = .ok t := by
  have hoffset := atOffset_zero h
  obtain ⟨hdate, hhour, hminute, hsecond, hnano⟩ := h
  have hvalid := hdate
  obtain ⟨hlow, hhigh, hmonth, hmonth', hday, hday'⟩ := hdate
  have hdays : Date.daysIn t.date.year t.date.month ≤ 31 := by
    unfold Date.daysIn
    split_ifs <;> omega
  have hdash : Text.isBlank '-' = false := by decide
  have hcolon : Text.isBlank ':' = false := by decide
  have hletter (rest : List Char) : takeOneOf ['T', 't', ' '] ('T' :: rest) = .ok rest := rfl
  have hzone : takeZone (Text.trimStart ['Z']) = .ok (0, []) := by rfl
  simp only [readLoose, text, String.toList_ofList, chars, dateChars, clockChars,
    List.append_assoc, List.cons_append, readLooseChars, takeYear_yearChars hlow hhigh,
    takeMark_cons hdash, takeMark_cons hcolon, bind, Except.bind,
    takeField_padded hmonth hmonth' (by omega), takeField_padded hday (hday'.trans hdays) (by omega),
    takeField_padded (Nat.zero_le t.hour) (Nat.le_of_lt_succ hhour) (by omega),
    takeField_padded (Nat.zero_le t.minute) (Nat.le_of_lt_succ hminute) (by omega),
    takeField_padded (Nat.zero_le t.second) hsecond (by omega),
    takeOptionalFraction_fractionChars hnano, hzone, hvalid, hoffset, hletter]
  rfl

/-! ## What is read is an instant -/

theorem digitValue?_lt {c : Char} {d : Nat} (h : Numeral.digitValue? c = some d) : d < 10 := by
  unfold Numeral.digitValue? at h
  split at h
  · rename_i hc
    obtain ⟨-, hhigh⟩ := hc
    have hhigh : c.toNat ≤ 57 := hhigh
    have hd : c.toNat - '0'.toNat = d := Option.some.inj h
    have hzero : '0'.toNat = 48 := rfl
    omega
  · cases h

theorem moreDigits_lt {width n m : Nat} {cs rest : List Char}
    (h : moreDigits width n cs = .ok (m, rest)) {k : Nat} (hn : n < Nat.pow 10 k) :
    ∃ count, count ≤ width ∧ count + rest.length = cs.length ∧ m < Nat.pow 10 (k + count) := by
  induction cs generalizing width n k with
  | nil =>
    rw [moreDigits] at h
    cases h
    exact ⟨0, Nat.zero_le _, by simp, hn⟩
  | cons c cs ih =>
    cases width with
    | zero =>
      cases h
      exact ⟨0, Nat.zero_le _, by simp, hn⟩
    | succ width =>
      simp only [moreDigits] at h
      split at h
      · cases h
        exact ⟨0, Nat.zero_le _, by simp, hn⟩
      · rename_i d hd
        split at h
        · have hten := digitValue?_lt hd
          have hpow : Nat.pow 10 (k + 1) = Nat.pow 10 k * 10 := rfl
          obtain ⟨count, hcount, hlen, hm⟩ := ih h (k := k + 1) (by omega)
          refine ⟨count + 1, by omega, by simp only [List.length_cons]; omega, ?_⟩
          rw [show k + (count + 1) = k + 1 + count by omega]
          exact hm
        · cases h

theorem takeNumber_lt {width n : Nat} (hw : 0 < width) {cs rest : List Char}
    (h : takeNumber width cs = .ok (n, rest)) :
    ∃ count, count ≤ width ∧ count + rest.length = cs.length ∧ n < Nat.pow 10 count := by
  cases cs with
  | nil => cases h
  | cons c cs =>
    obtain ⟨d, hd, hmore⟩ := bind_eq_ok_iff.1 h
    have hten : d < 10 := by
      unfold digit at hd
      split at hd
      · rename_i e he
        cases hd
        exact digitValue?_lt he
      · cases hd
    obtain ⟨count, hcount, hlen, hn⟩ := moreDigits_lt hmore (k := 1) (by exact hten)
    refine ⟨1 + count, by omega, by simp only [List.length_cons]; omega, hn⟩

theorem takeFraction_lt {n : Nat} {cs rest : List Char} (h : takeFraction cs = .ok (n, rest)) :
    n < 1000000000 := by
  obtain ⟨⟨m, tail⟩, hm, he⟩ := bind_eq_ok_iff.1 h
  cases he
  obtain ⟨count, hcount, hlen, hlt⟩ := takeNumber_lt (by omega) hm
  have hdiff : cs.length - tail.length = count := by omega
  have hnine : Nat.pow 10 count * Nat.pow 10 (9 - count) = 1000000000 := by
    calc Nat.pow 10 count * Nat.pow 10 (9 - count)
        = Nat.pow 10 (count + (9 - count)) := (Nat.pow_add 10 count (9 - count)).symm
      _ = Nat.pow 10 9 := by rw [show count + (9 - count) = 9 by omega]
      _ = 1000000000 := rfl
  rw [hdiff, ← hnine]
  exact Nat.mul_lt_mul_of_pos_right hlt (Nat.pow_pos (by omega))

theorem takeOptionalFraction_lt {n : Nat} {cs rest : List Char}
    (h : takeOptionalFraction cs = .ok (n, rest)) : n < 1000000000 := by
  unfold takeOptionalFraction at h
  split at h
  · exact takeFraction_lt h
  · cases h
    omega

theorem takeField_le {low high n : Nat} {cs rest : List Char}
    (h : takeField low high cs = .ok (n, rest)) : n ≤ high := by
  obtain ⟨⟨m, tail⟩, -, he⟩ := bind_eq_ok_iff.1 h
  dsimp only at he
  split at he
  · rename_i hrange
    cases he
    exact hrange.2
  · cases he

theorem valid_of_atOffset {t u : Time} {offset : Int} (hhour : t.hour < 24) (hminute : t.minute < 60)
    (hsecond : t.second ≤ 60) (hnano : t.nano < 1000000000) (h : atOffset t offset = .ok u) :
    u.Valid := by
  unfold atOffset at h
  split at h
  · rename_i hday
    dsimp only at h
    split at h
    · rename_i hdate
      cases h
      refine ⟨hdate, ?_⟩
      -- an offset is less than a day, so that at most one midnight is crossed
      unfold beforeOffset
      dsimp only
      split
      · simp only [atMinute]
        omega
      · split
        · simp only [atMinute]
          omega
        · simp only [atMinute]
          omega
    · cases h
  · cases h

/-- **Whatever is read is an instant.** -/
theorem valid_of_readLoose {s : String} {t : Time} (h : readLoose s = .ok t) : t.Valid := by
  unfold readLoose readLooseChars at h
  obtain ⟨⟨year, cs⟩, -, h⟩ := bind_eq_ok_iff.1 h
  obtain ⟨cs, -, h⟩ := bind_eq_ok_iff.1 h
  obtain ⟨⟨month, cs⟩, -, h⟩ := bind_eq_ok_iff.1 h
  obtain ⟨cs, -, h⟩ := bind_eq_ok_iff.1 h
  obtain ⟨⟨day, cs⟩, -, h⟩ := bind_eq_ok_iff.1 h
  obtain ⟨cs, -, h⟩ := bind_eq_ok_iff.1 h
  obtain ⟨⟨hour, cs⟩, hhour, h⟩ := bind_eq_ok_iff.1 h
  obtain ⟨cs, -, h⟩ := bind_eq_ok_iff.1 h
  obtain ⟨⟨minute, cs⟩, hminute, h⟩ := bind_eq_ok_iff.1 h
  obtain ⟨cs, -, h⟩ := bind_eq_ok_iff.1 h
  obtain ⟨⟨second, cs⟩, hsecond, h⟩ := bind_eq_ok_iff.1 h
  obtain ⟨⟨nano, cs⟩, hnano, h⟩ := bind_eq_ok_iff.1 h
  obtain ⟨⟨offset, cs⟩, -, h⟩ := bind_eq_ok_iff.1 h
  obtain ⟨-, h⟩ := refuse_eq_ok_iff.1 h
  dsimp only at h
  split at h
  · have hhour := takeField_le hhour
    have hminute := takeField_le hminute
    exact valid_of_atOffset (Nat.lt_succ_of_le hhour) (Nat.lt_succ_of_le hminute)
      (takeField_le hsecond) (takeOptionalFraction_lt hnano) h
  · cases h

end ChainIndexer.Time
