/-!
# Doubles

Binary floating point of 64 bits, computed exactly and rounded once: a result is the nearest
representable number, of two equally near the one with an even significand, and infinite where it
is too large. `Binary64.ofRatio` is that rounding; the operations are the rational ones followed by
it.
-/

namespace ChainIndexer

/-- A double: a finite one is `± significand · 2 ^ exponent`, with `significand < 2 ^ 53` and
`-1074 ≤ exponent ≤ 971`. -/
inductive Binary64
  | nan
  | infinite (negative : Bool)
  | finite (negative : Bool) (significand : Nat) (exponent : Int)
  deriving DecidableEq, Repr

namespace Binary64

/-- The leading digit of a significand of 53 digits, `2 ^ 52`. -/
def leadingBit : Nat := 0x10000000000000

/-! ## Rounding -/

/-- The quotient rounded to the nearest integer, a half to the even one. -/
def roundHalfEven (num den : Nat) : Nat :=
  let q := num / den
  let r := num % den
  if 2 * r < den then q
  else if den < 2 * r then q + 1
  else if q % 2 = 0 then q else q + 1

def minExponent : Int := -1074

def maxExponent : Int := 971

/-- The exponent at which the significand of `num / den` has 53 digits, or the least exponent. -/
def exponentFor (num den : Nat) : Int :=
  let guess : Int := (Nat.log2 num : Int) - Nat.log2 den - 53
  let high := num * Nat.pow 2 (-guess).toNat / (den * Nat.pow 2 guess.toNat)
  max minExponent (if 2 * leadingBit ≤ high then guess + 1 else guess)

/-- The double nearest to `± num / den`. -/
def ofRatio (negative : Bool) (num den : Nat) : Binary64 :=
  if num = 0 then finite negative 0 minExponent
  else
    let e := exponentFor num den
    let m := roundHalfEven (num * Nat.pow 2 (-e).toNat) (den * Nat.pow 2 e.toNat)
    let (m, e) := if m = 2 * leadingBit then (leadingBit, e + 1) else (m, e)
    if maxExponent < e then infinite negative else finite negative m e

/-- The double nearest to a natural number. -/
def ofNat (n : Nat) : Binary64 := ofRatio false n 1

/-- The double nearest to an integer. -/
def ofInt (n : Int) : Binary64 := ofRatio (n < 0) n.natAbs 1

def zero : Binary64 := finite false 0 minExponent

def one : Binary64 := ofNat 1

/-! ## Operations -/

/-- The double is negative, or the negative zero. -/
def isNegative : Binary64 → Bool
  | nan => false
  | infinite s => s
  | finite s _ _ => s

def isZero : Binary64 → Bool
  | finite _ m _ => m == 0
  | _ => false

/-- The double with the other sign. -/
def neg : Binary64 → Binary64
  | nan => nan
  | infinite s => infinite (!s)
  | finite s m e => finite (!s) m e

def mul : Binary64 → Binary64 → Binary64
  | nan, _ => nan
  | _, nan => nan
  | infinite s, y => if y.isZero then nan else infinite (s != y.isNegative)
  | x, infinite s => if x.isZero then nan else infinite (x.isNegative != s)
  | finite s m e, finite t n f =>
    let g := e + f
    ofRatio (s != t) (m * n * Nat.pow 2 g.toNat) (Nat.pow 2 (-g).toNat)

def div : Binary64 → Binary64 → Binary64
  | nan, _ => nan
  | _, nan => nan
  | infinite _, infinite _ => nan
  | infinite s, y => infinite (s != y.isNegative)
  | x, infinite s => finite (x.isNegative != s) 0 minExponent
  | finite s m e, finite t n f =>
    if n = 0 then if m = 0 then nan else infinite (s != t)
    else
      let g := e - f
      ofRatio (s != t) (m * Nat.pow 2 g.toNat) (n * Nat.pow 2 (-g).toNat)

/-- The significand as an integer, over the exponent `base`, which is not above its own. -/
def scaled (base : Int) (negative : Bool) (m : Nat) (e : Int) : Int :=
  let n : Int := (m * Nat.pow 2 (e - base).toNat : Nat)
  if negative then -n else n

def add : Binary64 → Binary64 → Binary64
  | nan, _ => nan
  | _, nan => nan
  | infinite s, infinite t => if s = t then infinite s else nan
  | infinite s, _ => infinite s
  | _, infinite s => infinite s
  | finite s m e, finite t n f =>
    let base : Int := Min.min e f
    let sum := scaled base s m e + scaled base t n f
    if sum = 0 then finite (s && t) 0 minExponent
    else ofRatio (sum < 0) (sum.natAbs * Nat.pow 2 base.toNat) (Nat.pow 2 (-base).toNat)

/-- The first is less than the second. -/
def lt : Binary64 → Binary64 → Bool
  | nan, _ => false
  | _, nan => false
  | infinite s, infinite t => s && !t
  | infinite s, _ => s
  | _, infinite s => !s
  | finite s m e, finite t n f =>
    let base : Int := Min.min e f
    scaled base s m e < scaled base t n f

/-- The lesser of two, or the one that is a number. -/
def min (x y : Binary64) : Binary64 :=
  if x = nan then y else if y = nan then x else if y.lt x then y else x

/-- A power by repeated squaring, from the lowest digit of the exponent on, in `fuel` steps. -/
def powFrom (result base : Binary64) (n : Nat) : Nat → Binary64
  | 0 => result
  | fuel + 1 =>
    let result := if n % 2 = 1 then result.mul base else result
    if n / 2 = 0 then result else powFrom result (base.mul base) (n / 2) fuel

/-- A power with a natural exponent. -/
def pow (base : Binary64) (n : Nat) : Binary64 := powFrom one base n (n + 1)

/-- The whole part, confined to 64 bits; zero for what is no number. -/
def toUInt64 : Binary64 → UInt64
  | nan => 0
  | infinite s => if s then 0 else 0xFFFFFFFFFFFFFFFF
  | finite s m e =>
    if s then 0
    else
      let n := m * Nat.pow 2 e.toNat / Nat.pow 2 (-e).toNat
      if n < 0x10000000000000000 then UInt64.ofNat n else 0xFFFFFFFFFFFFFFFF

/-! ## Bits -/

def toBits (x : Binary64) : UInt64 :=
  let sign := if x.isNegative then 0x8000000000000000 else 0
  UInt64.ofNat (match x with
    | nan => 0x7FF8000000000000
    | infinite _ => sign + 2047 * leadingBit
    | finite _ m e => sign +
      if m < leadingBit then m else (e + 1075).toNat * leadingBit + (m - leadingBit))

/-- The double with these bits. -/
def ofBits (bits : UInt64) : Binary64 :=
  let negative := bits.toNat / 0x8000000000000000 == 1
  let field : Nat := bits.toNat / leadingBit % 2048
  let fraction : Nat := bits.toNat % leadingBit
  if field = 2047 then if fraction = 0 then infinite negative else nan
  else if field = 0 then finite negative fraction minExponent
  else finite negative (leadingBit + fraction) ((field : Int) - 1075)

end Binary64

end ChainIndexer
