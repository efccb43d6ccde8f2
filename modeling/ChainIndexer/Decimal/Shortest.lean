import ChainIndexer.Numeral

/-!
# The shortest decimal of a double

A finite double is `m · 2 ^ q`. The decimals that read back as this double form an interval around
it, whose ends belong to it when `m` is even. Among the decimals of that interval, the one with the
fewest digits is chosen, of several with the same count the nearest, and of two equally near the
one with an even last digit.

* `Magnitude` is a positive rational with the bounds of its interval over one denominator.
* `Magnitude.shortest` tests the two neighbours on the grids of 1, 2, … 17 digits.
* `text` writes the digits positionally for decimal exponents from `-5` to `15`, and with an
  exponent outside of that.
-/

namespace ChainIndexer.Decimal

/-! ## Doubles as integers and powers of two -/

/-- A positive rational `value / scale`, and the bounds of the interval of rationals that round to
it, over the same denominator. -/
structure Magnitude where
  value : Nat
  low : Nat
  high : Nat
  scale : Nat
  closed : Bool

/-- The magnitude of `m · 2 ^ q`; `narrow` says that the next smaller double is half as far. -/
def Magnitude.ofBinary (m : Nat) (q : Int) (narrow : Bool) : Magnitude :=
  let up := Nat.pow 2 q.toNat
  let down := Nat.pow 2 (-q).toNat
  { value := 4 * m * up
    low := (4 * m - if narrow then 1 else 2) * up
    high := (4 * m + 2) * up
    scale := 4 * down
    closed := m % 2 == 0 }

/-- The magnitude of a double given by its exponent and fraction fields. -/
def Magnitude.ofFields (exponent fraction : Nat) : Magnitude :=
  if exponent = 0 then ofBinary fraction (-1074) false
  else ofBinary (0x10000000000000 + fraction) (exponent - 1075) (fraction == 0 && 1 < exponent)

/-! ## The decimal grids -/

/-- The least `s ≥ n` for which `value · 10 ^ s ≥ scale`, searched for `fuel` steps. -/
def leadingZeros (value scale : Nat) : Nat → Nat → Nat
  | 0, n => n
  | fuel + 1, n =>
    if scale ≤ value * Nat.pow 10 n then n else leadingZeros value scale fuel (n + 1)

def decimalExponent (value scale : Nat) : Int :=
  if scale ≤ value then ((Nat.toDigits 10 (value / scale)).length : Int) - 1
  else -(leadingZeros value scale 400 1 : Int)

/-- The point `k · 10 ^ unit` lies in the interval. -/
def Magnitude.contains (x : Magnitude) (k : Nat) (unit : Int) : Bool :=
  let point := k * Nat.pow 10 unit.toNat * x.scale
  let stretch := Nat.pow 10 (-unit).toNat
  if x.closed then x.low * stretch ≤ point && point ≤ x.high * stretch
  else x.low * stretch < point && point < x.high * stretch

/-- The nearest of the two neighbours on the grid `10 ^ unit` that lie in the interval. -/
def Magnitude.onGrid? (x : Magnitude) (unit : Int) : Option Nat :=
  let top := x.value * Nat.pow 10 (-unit).toNat
  let step := x.scale * Nat.pow 10 unit.toNat
  let k := top / step
  let below := top - k * step
  let above := (k + 1) * step - top
  match x.contains k unit, x.contains (k + 1) unit with
  | false, false => none
  | true, false => some k
  | false, true => some (k + 1)
  | true, true =>
    if below < above then some k
    else if above < below then some (k + 1)
    else if k % 2 = 0 then some k else some (k + 1)

/-- The first grid with a hit, from `count` digits on. -/
def Magnitude.search (x : Magnitude) (exponent : Int) : Nat → Nat → Nat × Int
  | 0, count => (x.value / x.scale, count)
  | fuel + 1, count =>
    let unit := exponent - count + 1
    match x.onGrid? unit with
    | some k => (k, unit)
    | none => x.search exponent fuel (count + 1)

/-- The shortest decimal `(k, u)` for `k · 10 ^ u`. -/
def Magnitude.shortest (x : Magnitude) : Nat × Int :=
  x.search (decimalExponent x.value x.scale) 17 1

/-! ## The text -/

/-- Digits without the zeros at their end, and how many were dropped. -/
def dropZeros (digits : List Char) : List Char × Nat :=
  let kept := (digits.reverse.dropWhile (· == '0')).reverse
  (kept, digits.length - kept.length)

/-- Positional from `10 ^ -5` up to below `10 ^ 16`, else with an exponent; `point` is the place
of the decimal point relative to the first digit. -/
def place (digits : List Char) (point : Int) : List Char :=
  if -5 < point ∧ point ≤ 0 then
    ['0', '.'] ++ List.replicate (-point).toNat '0' ++ digits
  else if 0 < point ∧ point ≤ 16 then
    let whole := point.toNat
    if digits.length ≤ whole then
      digits ++ List.replicate (whole - digits.length) '0' ++ ['.', '0']
    else digits.take whole ++ ['.'] ++ digits.drop whole
  else
    let exponent := point - 1
    let sign := if exponent < 0 then '-' else '+'
    let mantissa := match digits with
      | [] => []
      | [d] => [d]
      | d :: ds => d :: '.' :: ds
    mantissa ++ ['e', sign] ++ Nat.toDigits 10 exponent.natAbs

/-- The text of the double with these bits. Not-a-number and the infinities have no text in a
document; they are written as `null`. -/
def text (bits : UInt64) : String :=
  let exponent := (bits.toNat / 0x10000000000000) % 0x800
  let fraction := bits.toNat % 0x10000000000000
  let sign := if bits.toNat / 0x8000000000000000 = 1 then ['-'] else []
  if exponent = 2047 then "null"
  else if exponent = 0 ∧ fraction = 0 then String.ofList (sign ++ ['0', '.', '0'])
  else
    let (k, unit) := (Magnitude.ofFields exponent fraction).shortest
    let all := Nat.toDigits 10 k
    let (digits, _) := dropZeros all
    String.ofList (sign ++ place digits (unit + all.length))

end ChainIndexer.Decimal
