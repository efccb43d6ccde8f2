import ChainIndexer.Json.Codec
import ChainIndexer.Proofs.Json.Parsing

/-!
# The two forms of an integer

An integer stands in a document as a number or as a string of its digits, and the codecs of
integers written as strings read both.

* `parse?_integer`: a document that is an integer holds the number that its digits are read as, a
  whole number where 64 bits hold it.
* `integers_of_both_forms`: with a sign, both forms give the integer where 64 bits hold it, and
  nothing else. Without a sign that is so for the string; the number is confined to 64 bits with a
  sign and then taken modulo `2 ^ 64`. `forms_differ` has an integer on either side where the two do
  not agree.
-/

namespace ChainIndexer

/-! ## Integers as strings -/

namespace Numeral

/-- The integer, where 64 bits with a sign hold it. -/
def signed64? (n : Int) : Option Int :=
  if -0x8000000000000000 ≤ n ∧ n ≤ 0x7FFFFFFFFFFFFFFF then some n else none

/-- The integer, where 64 bits without a sign hold it. -/
def unsigned64? (n : Int) : Option Int := if 0 ≤ n ∧ n ≤ 0xFFFFFFFFFFFFFFFF then some n else none

theorem signed64?_eq_some_iff {n m : Int} :
    signed64? n = some m ↔ n = m ∧ -0x8000000000000000 ≤ n ∧ n ≤ 0x7FFFFFFFFFFFFFFF := by
  rw [signed64?, Option.ite_none_right_eq_some, and_comm, Option.some_inj]

theorem toOption_readUInt64 (n : Int) :
    (readUInt64 (integer n)).toOption.map (fun u => (u.toNat : Int)) = unsigned64? n := by
  have hread : (readNatural 0xFFFFFFFFFFFFFFFF (integer n).toList).toOption
      = if 0 ≤ n ∧ n ≤ 0xFFFFFFFFFFFFFFFF then some n.toNat else none :=
    toOption_readNatural 0xFFFFFFFFFFFFFFFF n
  rw [readUInt64, toOption_map, hread, unsigned64?]
  split
  · rename_i h
    have hsize : n.toNat < UInt64.size := by
      rw [UInt64.size]
      omega
    change some (((UInt64.ofNat n.toNat).toNat : Nat) : Int) = some n
    rw [UInt64.toNat_ofNat_of_lt' hsize, Int.toNat_of_nonneg h.1]
  · rfl

theorem toOption_readInt64 (n : Int) :
    (readInt64 (integer n)).toOption = (signed64? n).map Int64.ofInt := by
  have hread : (readInteger 0x8000000000000000 0x7FFFFFFFFFFFFFFF (integer n).toList).toOption
      = signed64? n :=
    toOption_readInteger 0x8000000000000000 0x7FFFFFFFFFFFFFFF n
  rw [readInt64, toOption_map, hread]

theorem map_toInt_signed64? (n : Int) :
    ((signed64? n).map Int64.ofInt).map Int64.toInt = signed64? n := by
  cases hn : signed64? n with
  | none => rfl
  | some m =>
    obtain ⟨rfl, hlow, hhigh⟩ := signed64?_eq_some_iff.1 hn
    exact congrArg some (Int64.toInt_ofInt_of_le hlow (by omega))

theorem map_toNat_signed64? (n : Int) :
    ((signed64? n).map UInt64.ofInt).map (fun u => (u.toNat : Int))
      = (signed64? n).map (· % 0x10000000000000000) := by
  rw [Option.map_map]
  refine congrArg (Option.map · (signed64? n)) (funext fun m => ?_)
  have hsize : (m % 0x10000000000000000).toNat < UInt64.size := by
    rw [UInt64.size]
    omega
  change ((UInt64.ofNat (m % 0x10000000000000000).toNat).toNat : Int) = m % 0x10000000000000000
  rw [UInt64.toNat_ofNat_of_lt' hsize]
  omega

end Numeral

namespace Json

/-! ## Integers as numbers -/

theorem parse?_integer (n : Int) :
    parse? (Numeral.integer n) = (number? (Numeral.integer n).toList).map .number := by
  obtain ⟨c, cs, hcs, hstart, hmore⟩ := integer_chars n
  have hfirst : Lexing.blank.step c = some ([], .number [c]) := hstart
  have hlex : lex (Numeral.integer n).toList
      = (number? (Numeral.integer n).toList).map ([.number ·]) := by
    rw [lex, hcs, lexFrom_silent hfirst, ← List.append_nil cs, lexFrom_numberChars hmore]
    simp [lexFrom, Lexing.finish]
  rw [parse?, hlex]
  cases number? (Numeral.integer n).toList <;> rfl

namespace Codec

variable {α : Type}

theorem smallInteger?_integer (n : Int) :
    (parse? (Numeral.integer n)).bind smallInteger? = Numeral.signed64? n := by
  rw [parse?_integer, Numeral.signed64?]
  by_cases fits : -0x8000000000000000 ≤ n ∧ n < 0x10000000000000000
  · rw [number?_integer fits, Option.map_some, Option.bind_some, smallInteger?]
    refine if_congr ?_ rfl rfl
    omega
  · rw [if_neg fun hle => fits ⟨hle.1, by omega⟩]
    cases hx : number? (Numeral.integer n).toList with
    | none => rfl
    | some x =>
      obtain ⟨bits, rfl⟩ := number?_not_whole fits hx
      rfl

/-! ## The two forms -/

def readText? (c : Codec α) (text : String) : Option α :=
  (parse? text).bind fun v => (c.decode v).toOption

/-- Reads an integer that stands in the document as a number. -/
def ofNumber? (c : Codec α) (n : Int) : Option α := c.readText? (Numeral.integer n)

/-- Reads an integer that stands in the document as a string of its digits. -/
def ofDigits? (c : Codec α) (n : Int) : Option α :=
  c.readText? (Value.string (Numeral.integer n)).compact

/-- The codec reads strings by one reader, the empty one apart, and of numbers those that 64 bits
with a sign hold, as an integer that is then converted. -/
structure ReadsForms (c : Codec α) (read : String → Except NumeralError α) (convert : Int → α) :
    Prop where
  string : ∀ s, s.isEmpty = false → c.decode (.string s) = (read s).mapError .numeral
  number : ∀ x, (c.decode (.number x)).toOption = (smallInteger? (.number x)).map convert

theorem stringInt64_readsForms : stringInt64.ReadsForms Numeral.readInt64 Int64.ofInt where
  string s h := by
    simp only [decode, stringInt64, h]
    rfl
  number x := by
    simp only [decode, stringInt64]
    cases smallInteger? (.number x) <;> rfl

theorem stringUInt64_readsForms : stringUInt64.ReadsForms Numeral.readUInt64 UInt64.ofInt where
  string s h := by
    simp only [decode, stringUInt64, h]
    rfl
  number x := by
    simp only [decode, stringUInt64]
    cases smallInteger? (.number x) <;> rfl

namespace ReadsForms

variable {c : Codec α} {read : String → Except NumeralError α} {convert : Int → α}

theorem ofNumber?_eq (hc : c.ReadsForms read convert) (n : Int) :
    c.ofNumber? n = (Numeral.signed64? n).map convert := by
  rw [ofNumber?, readText?, ← smallInteger?_integer, parse?_integer]
  cases number? (Numeral.integer n).toList with
  | none => rfl
  | some x => exact hc.number x

theorem ofDigits?_eq (hc : c.ReadsForms read convert) (n : Int) :
    c.ofDigits? n = (read (Numeral.integer n)).toOption := by
  rw [ofDigits?, readText?, parse?_compact .string, Option.bind_some,
    hc.string _ (Numeral.integer_ne_empty n), toOption_mapError]

end ReadsForms

/-- **What either form of an integer is read as.** With a sign both give the integer where 64 bits
hold it. Without a sign the string does; the number is confined to 64 bits with a sign and taken
modulo `2 ^ 64`. -/
theorem integers_of_both_forms (n : Int) :
    (stringInt64.ofNumber? n).map Int64.toInt = Numeral.signed64? n ∧
      (stringInt64.ofDigits? n).map Int64.toInt = Numeral.signed64? n ∧
      (stringUInt64.ofNumber? n).map (fun u => (u.toNat : Int))
        = (Numeral.signed64? n).map (· % 0x10000000000000000) ∧
      (stringUInt64.ofDigits? n).map (fun u => (u.toNat : Int)) = Numeral.unsigned64? n := by
  refine ⟨?_, ?_, ?_, ?_⟩
  · rw [stringInt64_readsForms.ofNumber?_eq]
    exact Numeral.map_toInt_signed64? n
  · rw [stringInt64_readsForms.ofDigits?_eq, Numeral.toOption_readInt64]
    exact Numeral.map_toInt_signed64? n
  · rw [stringUInt64_readsForms.ofNumber?_eq]
    exact Numeral.map_toNat_signed64? n
  · rw [stringUInt64_readsForms.ofDigits?_eq]
    exact Numeral.toOption_readUInt64 n

/-- Minus one is read from the number only, as `2 ^ 64 - 1`, and `2 ^ 63` from the string only. -/
theorem forms_differ :
    stringUInt64.ofNumber? (-1) = some 0xFFFFFFFFFFFFFFFF ∧ stringUInt64.ofDigits? (-1) = none ∧
      stringUInt64.ofNumber? 0x8000000000000000 = none ∧
      stringUInt64.ofDigits? 0x8000000000000000 = some 0x8000000000000000 := by
  decide +kernel

end Codec

end Json

end ChainIndexer
