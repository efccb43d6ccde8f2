import ChainIndexer.Text.Utf8

/-!
# Percent encoding

A character that a part of a URL may not hold stands there as its bytes, each a percent sign and
two hexadecimal digits. What a part may not hold is a set of characters; everything outside ASCII
is in each of them.
-/

namespace ChainIndexer.Percent

/-! ## Sets -/

/-- Controls and everything outside ASCII. -/
def controls (c : Char) : Bool := c < ' ' || '~' < c

/-- What a fragment may not hold. -/
def fragment (c : Char) : Bool := controls c || " \"<>".toList.contains c || c.toNat = 0x60

/-- What a path may not hold. -/
def path (c : Char) : Bool := fragment c || ['#', '?', '\x7b', '\x7d'].contains c

/-- What a user's name or password may not hold. -/
def userinfo (c : Char) : Bool := path c || "/:;=@[\\]^|".toList.contains c

/-- What a query may not hold. -/
def query (c : Char) : Bool := controls c || " \"#<>".toList.contains c

/-- What the query of a special scheme may not hold. -/
def specialQuery (c : Char) : Bool := query c || c = '\''

/-- What a name or a value of a form may hold as it is. -/
def formPlain (c : Char) : Bool :=
  ('a' ≤ c && c ≤ 'z') || ('A' ≤ c && c ≤ 'Z') || ('0' ≤ c && c ≤ '9')
    || "*-._".toList.contains c

/-! ## Writing -/

/-- A hexadecimal digit, in upper case. -/
def upperDigit (n : Nat) : Char := (Nat.digitChar n).toUpper

/-- A byte as a percent sign and two digits. -/
def byte (b : UInt8) : List Char := ['%', upperDigit (b.toNat / 16), upperDigit (b.toNat % 16)]

def codes (c : Char) : List Char := (Utf8.encode (String.singleton c)).flatMap byte

/-- A character of a part that may not hold the characters of a set. -/
def encodeChar (set : Char → Bool) (c : Char) : List Char := if set c then codes c else [c]

/-- The characters of a part that may not hold the characters of a set. -/
def encode (set : Char → Bool) (cs : List Char) : List Char := cs.flatMap (encodeChar set)

/-- A character of a name or a value of a form; a space is a plus sign. -/
def formChar (c : Char) : List Char :=
  if formPlain c then [c] else if c = ' ' then ['+'] else codes c

/-- A name and a value of a form. -/
def formPair (p : String × String) : List Char :=
  p.1.toList.flatMap formChar ++ '=' :: p.2.toList.flatMap formChar

/-! ## Reading -/

/-- The value of a hexadecimal digit. -/
def digit? (b : UInt8) : Option Nat :=
  if 48 ≤ b && b ≤ 57 then some (b.toNat - 48)
  else if 65 ≤ b && b ≤ 70 then some (b.toNat - 55)
  else if 97 ≤ b && b ≤ 102 then some (b.toNat - 87)
  else none

/-- The bytes behind codes; a percent sign without two digits stands for itself. -/
def decode : List UInt8 → List UInt8
  | [] => []
  | 37 :: a :: b :: rest =>
    match digit? a, digit? b with
    | some high, some low => UInt8.ofNat (16 * high + low) :: decode rest
    | _, _ => 37 :: decode (a :: b :: rest)
  | b :: rest => b :: decode rest

end ChainIndexer.Percent
