/-!
# UTF-8

Bytes to text. The first sequence that is not well formed is reported by its place: `invalid` when
a byte is wrong, with the count of bytes that belong to the broken sequence, and `incomplete` when
the input ends inside a sequence.
-/

namespace ChainIndexer.Utf8

/-- Why bytes are no text. -/
inductive Fault
  | invalid (length index : Nat)
  | incomplete (index : Nat)
  deriving DecidableEq, Repr

def Fault.message : Fault → String
  | invalid length index =>
    "invalid utf-8 sequence of " ++ toString length ++ " bytes from index " ++ toString index
  | incomplete index => "incomplete utf-8 byte sequence from index " ++ toString index

/-- The bounds of the second byte after the first byte of a longer sequence, and how many bytes
follow the second. -/
def second? (b : UInt8) : Option (UInt8 × UInt8 × Nat) :=
  if 0xC2 ≤ b && b ≤ 0xDF then some (0x80, 0xBF, 0)
  else if b == 0xE0 then some (0xA0, 0xBF, 1)
  else if b == 0xED then some (0x80, 0x9F, 1)
  else if 0xE1 ≤ b && b ≤ 0xEF then some (0x80, 0xBF, 1)
  else if b == 0xF0 then some (0x90, 0xBF, 2)
  else if 0xF1 ≤ b && b ≤ 0xF3 then some (0x80, 0xBF, 2)
  else if b == 0xF4 then some (0x80, 0x8F, 2)
  else none

/-- The six bits that a continuation byte carries. -/
def payload (b : UInt8) : Nat := b.toNat % 64

/-- Where the reader stands: between characters, or inside one that has read `taken` bytes, holds
`code` so far, wants its next byte between `low` and `high`, and `more` bytes after that. -/
inductive Place
  | between
  | inside (start taken code : Nat) (low high : UInt8) (more : Nat)

/-- Reads on from byte `index`; `done` holds the characters so far, last first. -/
def decodeFrom (done : List Char) : Place → Nat → List UInt8 → Except Fault (List Char)
  | .between, _, [] => .ok done.reverse
  | .inside start _ _ _ _ _, _, [] => .error (.incomplete start)
  | .between, index, b :: bs =>
    if b < 0x80 then decodeFrom (Char.ofNat b.toNat :: done) .between (index + 1) bs
    else match second? b with
      | none => .error (.invalid 1 index)
      | some (low, high, more) =>
        let bits := if more = 0 then b.toNat % 32 else if more = 1 then b.toNat % 16
          else b.toNat % 8
        decodeFrom done (.inside index 1 bits low high more) (index + 1) bs
  | .inside start taken code low high more, index, b :: bs =>
    if low ≤ b && b ≤ high then
      let code := code * 64 + payload b
      match more with
      | 0 => decodeFrom (Char.ofNat code :: done) .between (index + 1) bs
      | more + 1 =>
        decodeFrom done (.inside start (taken + 1) code 0x80 0xBF more) (index + 1) bs
    else .error (.invalid taken start)

/-- The text that the bytes spell. -/
def decode (bytes : List UInt8) : Except Fault String :=
  (decodeFrom [] .between 0 bytes).map String.ofList

/-- The bytes of a text. -/
def encode (s : String) : List UInt8 := s.toUTF8.toList

end ChainIndexer.Utf8
