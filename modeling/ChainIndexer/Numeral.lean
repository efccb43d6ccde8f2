/-!
# Decimal integers of bounded size

Reading an integer from its digits: an optional sign, then ASCII digits only. The first fault from
the left is reported, and at one digit a wrong character goes before an overflow.

* `readNatural limit` reads `0 … limit`; a minus sign is a wrong character.
* `readInteger low high` reads `-low … high`.
-/

namespace ChainIndexer

/-- Why a text is no integer of the wanted size. -/
inductive NumeralError
  | empty
  | invalidDigit
  | tooLarge
  | tooSmall
  deriving DecidableEq, Repr

namespace NumeralError

def message : NumeralError → String
  | empty => "cannot parse integer from empty string"
  | invalidDigit => "invalid digit found in string"
  | tooLarge => "number too large to fit in target type"
  | tooSmall => "number too small to fit in target type"

end NumeralError

namespace Numeral

def digitValue? (c : Char) : Option Nat :=
  if '0' ≤ c ∧ c ≤ '9' then some (c.toNat - '0'.toNat) else none

/-- Reads digits after a number `n`, which may not pass `limit`. -/
def continueFrom (limit : Nat) (overflow : NumeralError) :
    Nat → List Char → Except NumeralError Nat
  | n, [] => .ok n
  | n, c :: cs =>
    match digitValue? c with
    | none => .error .invalidDigit
    | some d =>
      if 10 * n + d ≤ limit then continueFrom limit overflow (10 * n + d) cs
      else .error overflow

/-- Reads one or more digits; a sign that stands alone is a wrong character. -/
def readDigits (limit : Nat) (overflow : NumeralError) : List Char → Except NumeralError Nat
  | [] => .error .invalidDigit
  | c :: cs => continueFrom limit overflow 0 (c :: cs)

/-- A natural number up to `limit`. -/
def readNatural (limit : Nat) : List Char → Except NumeralError Nat
  | [] => .error .empty
  | '+' :: cs => readDigits limit .tooLarge cs
  | cs => readDigits limit .tooLarge cs

def readInteger (low high : Nat) : List Char → Except NumeralError Int
  | [] => .error .empty
  | '+' :: cs => (readDigits high .tooLarge cs).map Int.ofNat
  | '-' :: cs => (readDigits low .tooSmall cs).map fun n => -(n : Int)
  | cs => (readDigits high .tooLarge cs).map Int.ofNat

/-- A number of 64 bits without a sign. -/
def readUInt64 (s : String) : Except NumeralError UInt64 :=
  (readNatural 0xFFFFFFFFFFFFFFFF s.toList).map UInt64.ofNat

/-- A number of 64 bits with a sign. -/
def readInt64 (s : String) : Except NumeralError Int64 :=
  (readInteger 0x8000000000000000 0x7FFFFFFFFFFFFFFF s.toList).map Int64.ofInt

/-- The decimal digits of a number. -/
def natural (n : Nat) : String := String.ofList (Nat.toDigits 10 n)

/-- An integer in decimal, with a minus sign below zero. -/
def integer : Int → String
  | .ofNat n => natural n
  | .negSucc n => "-" ++ natural (n + 1)

def total (ns : List Nat) : Nat := ns.foldr (fun n sum => n + sum) 0

end Numeral

end ChainIndexer
