/-!
# Labels outside ASCII

The form in which a label of a name stands in ASCII: its ASCII characters, and after a hyphen the
others, by ascending code point, each as the distance from the one before in digits of base 36
whose weights adapt.
-/

namespace ChainIndexer.Punycode

def digit (d : Nat) : Char := if d < 26 then Char.ofNat (97 + d) else Char.ofNat (22 + d)

def threshold (k bias : Nat) : Nat := min 26 (max 1 (k - bias))

/-- The digits of a distance; every step divides it by at least nine. -/
def distance (bias : Nat) : Nat → Nat → Nat → List Char
  | 0, _, _ => []
  | fuel + 1, k, q =>
    let t := threshold k bias
    if q < t then [digit q]
    else digit (t + (q - t) % (36 - t)) :: distance bias fuel (k + 36) ((q - t) / (36 - t))

/-- Divides a distance by 35 while it is large, and counts. -/
def shrink : Nat → Nat → Nat → Nat × Nat
  | 0, delta, k => (delta, k)
  | fuel + 1, delta, k => if 455 < delta then shrink fuel (delta / 35) (k + 36) else (delta, k)

/-- The next bias after a distance. -/
def adapt (delta points : Nat) (first : Bool) : Nat :=
  let delta := if first then delta / 700 else delta / 2
  let delta := delta + delta / points
  let (delta, k) := shrink delta delta 0
  k + 36 * delta / (delta + 38)

/-- Where the encoder stands: what is written, the distance, the bias, how many characters are
done, and whether none outside ASCII was written yet. -/
structure State where
  written : List Char
  delta : Nat
  bias : Nat
  done : Nat
  first : Bool

/-- Takes one character of the label in the round for code point `n`. -/
def State.visit (n : Nat) (s : State) (c : Char) : State :=
  if c.toNat < n then { s with delta := s.delta + 1 }
  else if c.toNat = n then
    { written := s.written ++ distance s.bias (s.delta + 1) 36 s.delta
      delta := 0
      bias := adapt s.delta (s.done + 1) s.first
      done := s.done + 1
      first := false }
  else s

/-- One round for each code point, in ascending order. -/
def rounds (label : List Char) : Nat → State → List Nat → List Char
  | _, s, [] => s.written
  | n, s, m :: ms =>
    let s := { s with delta := s.delta + (m - n) * (s.done + 1) }
    let s := label.foldl (State.visit m) s
    rounds label (m + 1) { s with delta := s.delta + 1 } ms

/-- The code points outside ASCII, ascending, each once. -/
def points (label : List Char) : List Nat :=
  (((label.map Char.toNat).filter (128 ≤ ·)).mergeSort).eraseDups

def encode (label : List Char) : List Char :=
  let basic := label.filter fun c => c.toNat < 128
  let start := if basic.isEmpty then [] else basic ++ ['-']
  rounds label 128 ⟨start, 0, 72, basic.length, true⟩ (points label)

end ChainIndexer.Punycode
