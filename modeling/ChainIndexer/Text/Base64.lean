/-!
# Base64

The standard alphabet, padded. Reading accepts exactly what writing produces:

* a text must have a length divisible by four, padding only at its end, and at most two pads;
* the bits that padding leaves over must be zero.

Faults are reported from the left, except that a last byte outside the alphabet which stands one
past a group of four is reported before all else.
-/

namespace ChainIndexer.Base64

/-! ## Symbols -/

/-- The byte that stands for padding. -/
def pad : UInt8 := 61

def value? (b : UInt8) : Option Nat :=
  if 65 ≤ b && b ≤ 90 then some (b.toNat - 65)
  else if 97 ≤ b && b ≤ 122 then some (b.toNat - 97 + 26)
  else if 48 ≤ b && b ≤ 57 then some (b.toNat - 48 + 52)
  else if b == 43 then some 62
  else if b == 47 then some 63
  else none

def symbol (n : Nat) : UInt8 :=
  if n < 26 then UInt8.ofNat (65 + n)
  else if n < 52 then UInt8.ofNat (97 + (n - 26))
  else if n < 62 then UInt8.ofNat (48 + (n - 52))
  else if n = 62 then 43
  else 47

/-! ## Writing -/

/-- The symbols of a byte string. -/
def encode : List UInt8 → List UInt8
  | a :: b :: c :: rest =>
    let n := a.toNat * 65536 + b.toNat * 256 + c.toNat
    symbol (n / 262144) :: symbol (n / 4096 % 64) :: symbol (n / 64 % 64) :: symbol (n % 64)
      :: encode rest
  | [a, b] =>
    let n := a.toNat * 1024 + b.toNat * 4
    [symbol (n / 4096), symbol (n / 64 % 64), symbol (n % 64), pad]
  | [a] =>
    let n := a.toNat * 16
    [symbol (n / 64), symbol (n % 64), pad, pad]
  | [] => []

/-! ## Reading -/

/-- Why a text is no base64. -/
inductive Fault
  | symbol (byte : UInt8) (offset : Nat)
  | length (n : Nat)
  | lastSymbol (byte : UInt8) (offset : Nat)
  | padding
  deriving DecidableEq, Repr

def Fault.message : Fault → String
  | symbol byte offset =>
    "Invalid symbol " ++ toString byte.toNat ++ ", offset " ++ toString offset ++ "."
  | length n => "Invalid input length: " ++ toString n
  | lastSymbol byte offset =>
    "Invalid last symbol " ++ toString byte.toNat ++ ", offset " ++ toString offset ++ "."
  | padding => "Invalid padding"

def valueAt (offset : Nat) (b : UInt8) : Except Fault Nat :=
  match value? b with
  | some n => .ok n
  | none => .error (.symbol b offset)

/-- The last group read so far: its values, last first, the last symbol, and where padding
started. -/
structure Tail where
  values : List Nat := []
  last : UInt8 := 0
  pads : Nat := 0
  firstPad : Nat := 0

/-- One byte of the last group, `index` bytes into it. -/
def Tail.step (offset : Nat) (t : Tail) (index : Nat) (b : UInt8) : Except Fault Tail :=
  if b == pad then
    if index < 2 then .error (.symbol b (offset + index))
    else .ok { t with pads := t.pads + 1, firstPad := if t.pads = 0 then index else t.firstPad }
  else if 0 < t.pads then .error (.symbol pad (offset + t.firstPad))
  else do
    let n ← valueAt (offset + index) b
    return { t with values := n :: t.values, last := b }

/-- The bytes of the last group from `index` on. -/
def Tail.run (offset : Nat) (t : Tail) : Nat → List UInt8 → Except Fault Tail
  | _, [] => .ok t
  | index, b :: bs => do
    let t ← t.step offset index b
    t.run offset (index + 1) bs

/-- The bytes that the last group stands for. -/
def Tail.bytes (offset : Nat) (t : Tail) : Except Fault (List UInt8) :=
  match t.values with
  | [] => if t.pads = 0 ∧ offset = 0 then .ok [] else .error (.length offset)
  | [_] => .error (.length (offset + 1))
  | [b, a] =>
    if t.pads ≠ 2 then .error .padding
    else if b % 16 ≠ 0 then .error (.lastSymbol t.last (offset + 1))
    else .ok [UInt8.ofNat (a * 4 + b / 16)]
  | [c, b, a] =>
    if t.pads ≠ 1 then .error .padding
    else if c % 4 ≠ 0 then .error (.lastSymbol t.last (offset + 2))
    else
      let n := a * 1024 + b * 16 + c / 4
      .ok [UInt8.ofNat (n / 256), UInt8.ofNat (n % 256)]
  | d :: c :: b :: a :: _ =>
    let n := a * 262144 + b * 4096 + c * 64 + d
    .ok [UInt8.ofNat (n / 65536), UInt8.ofNat (n / 256 % 256), UInt8.ofNat (n % 256)]

/-- Groups of four from an offset on; the last group may have padding. -/
def decodeFrom (offset : Nat) : List UInt8 → Except Fault (List UInt8)
  | a :: b :: c :: d :: e :: rest => do
    let a ← valueAt offset a
    let b ← valueAt (offset + 1) b
    let c ← valueAt (offset + 2) c
    let d ← valueAt (offset + 3) d
    let n := a * 262144 + b * 4096 + c * 64 + d
    let bytes ← decodeFrom (offset + 4) (e :: rest)
    return UInt8.ofNat (n / 65536) :: UInt8.ofNat (n / 256 % 256) :: UInt8.ofNat (n % 256) :: bytes
  | tail => do
    let t ← ({} : Tail).run offset 0 tail
    t.bytes offset

/-- A last byte that stands alone and is neither a symbol nor padding. -/
def strayLast? (input : List UInt8) : Option UInt8 :=
  if input.length % 4 = 1 then
    input.getLast?.bind fun b => if b == pad || (value? b).isSome then none else some b
  else none

/-- The bytes that a text stands for. -/
def decode (input : List UInt8) : Except Fault (List UInt8) :=
  match strayLast? input with
  | some b => .error (.symbol b (input.length - 1))
  | none => decodeFrom 0 input

end ChainIndexer.Base64
