import ChainIndexer.Json.Basic
import ChainIndexer.Numeral

/-!
# Numbers in a document

An integer that 64 bits hold is kept exactly. Every other number is a double: the leading digits
that fit 64 bits, as a double, multiplied or divided once by a power of ten. That is not always the
nearest double. A number too large for a double is refused; `-0` is the negative zero.
-/

namespace ChainIndexer.Json

/-- The parts of a written number. -/
structure Numeral where
  negative : Bool
  whole : List Char
  fraction : Option (List Char)
  exponent : Option (Bool × List Char)

/-- The character is an ASCII digit. -/
def isDigit (c : Char) : Bool := '0' ≤ c && c ≤ '9'

/-- The value of a digit character. -/
def digit (c : Char) : Nat := c.toNat - '0'.toNat

namespace Numeral

/-- The exponent part: `e` or `E`, an optional sign, digits. -/
def exponent? : List Char → Option (Option (Bool × List Char))
  | [] => some none
  | e :: cs =>
    if e = 'e' ∨ e = 'E' then
      let (down, digits) := match cs with
        | '+' :: ds => (false, ds)
        | '-' :: ds => (true, ds)
        | ds => (false, ds)
      if digits.isEmpty || !digits.all isDigit then none else some (some (down, digits))
    else none

/-- The parts after the sign. -/
def unsigned? (negative : Bool) (cs : List Char) : Option Numeral :=
  let whole := cs.takeWhile isDigit
  let rest := cs.dropWhile isDigit
  if whole.isEmpty || (whole.head? == some '0' && whole.length != 1) then none
  else match rest with
    | '.' :: rest =>
      let fraction := rest.takeWhile isDigit
      if fraction.isEmpty then none
      else (exponent? (rest.dropWhile isDigit)).map fun e => ⟨negative, whole, some fraction, e⟩
    | rest => (exponent? rest).map fun e => ⟨negative, whole, none, e⟩

/-- The parts of a written number; none for a text that is no number. -/
def ofChars? : List Char → Option Numeral
  | '-' :: cs => unsigned? true cs
  | cs => unsigned? false cs

/-! ## The value -/

/-- Appends whole digits to a significand of 64 bits; from the first that does not fit on, they
are only counted. -/
def takeWhole : Nat → List Char → Nat × Nat
  | n, [] => (n, 0)
  | n, c :: cs =>
    if 10 * n + digit c < 0x10000000000000000 then takeWhole (10 * n + digit c) cs
    else (n, cs.length + 1)

/-- Appends fraction digits to a significand of 64 bits, and counts those that fit. -/
def takeFraction : Nat → List Char → Nat × Nat
  | n, [] => (n, 0)
  | n, c :: cs =>
    if 10 * n + digit c < 0x10000000000000000 then
      let (m, count) := takeFraction (10 * n + digit c) cs
      (m, count + 1)
    else (n, 0)

def powerOfTen (n : Nat) : Binary64 := .ofNat (Nat.pow 10 n)

/-- Scales by a power of ten; none where the result is too large. -/
def scale : Nat → Binary64 → Int → Option Binary64
  | 0, _, _ => some .zero
  | fuel + 1, x, e =>
    if e.natAbs ≤ 308 then
      if 0 ≤ e then
        match x.mul (powerOfTen e.toNat) with
        | .infinite _ => none
        | y => some y
      else some (x.div (powerOfTen e.natAbs))
    else if x.isZero then some x
    else if 0 ≤ e then none
    else scale fuel (x.div (powerOfTen 308)) (e + 308)

/-- An integer confined to 32 bits with a sign. -/
def clamp32 (n : Int) : Int := max (-0x80000000) (min n 0x7FFFFFFF)

/-- The double of a significand, a decimal exponent and a written exponent. -/
def toDouble? (significand : Nat) (base : Int) (written : Option (Bool × List Char)) :
    Option Binary64 :=
  let x := Binary64.ofNat significand
  match written with
  | none => scale 8 x base
  | some (down, digits) =>
    let e := digits.foldl (fun n c => 10 * n + digit c) 0
    if 0x80000000 ≤ e then if significand ≠ 0 ∧ !down then none else some .zero
    else scale 8 x (clamp32 (if down then base - e else base + e))

/-- The number that the parts stand for. -/
def toNumber? (x : Numeral) : Option Number :=
  let n := x.whole.foldl (fun n c => 10 * n + digit c) 0
  let exact := x.fraction.isNone && x.exponent.isNone
  if fits : exact ∧ x.negative = false ∧ n < 0x10000000000000000 then
    some (.whole n ⟨by omega, by omega⟩)
  else if fits : exact ∧ x.negative = true ∧ n ≠ 0 ∧ n ≤ 0x8000000000000000 then
    some (.whole (-n) ⟨by omega, by omega⟩)
  else
    let (significand, dropped) := takeWhole 0 x.whole
    let (significand, taken) := takeFraction significand (x.fraction.getD [])
    (toDouble? significand ((dropped : Int) - taken) x.exponent).map fun y =>
      .double (if x.negative then y.neg else y).toBits

end Numeral

/-- The number written by these characters. -/
def number? (cs : List Char) : Option Number := (Numeral.ofChars? cs).bind Numeral.toNumber?

end ChainIndexer.Json
