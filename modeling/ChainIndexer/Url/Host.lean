import ChainIndexer.Numeral
import ChainIndexer.Text.LowerCase
import ChainIndexer.Url.Percent
import ChainIndexer.Url.Punycode

/-!
# Hosts

The host of a URL: a name, or an address of 32 or 128 bits. A name of a special scheme is written
in lower-case ASCII, a label outside ASCII in its encoded form; a name whose last label is a number
has to be an address.
-/

namespace ChainIndexer

/-- Why a text is no URL. -/
inductive UrlError
  | emptyHost
  | domain
  | port
  | ipv4
  | ipv6
  | domainCharacter
  | relativeWithoutBase
  | relativeToPlain
  deriving DecidableEq, Repr

def UrlError.message : UrlError → String
  | emptyHost => "empty host"
  | domain => "invalid international domain name"
  | port => "invalid port number"
  | ipv4 => "invalid IPv4 address"
  | ipv6 => "invalid IPv6 address"
  | domainCharacter => "invalid domain character"
  | relativeWithoutBase => "relative URL without a base"
  | relativeToPlain => "relative URL with a cannot-be-a-base base"

/-- The host of a URL. -/
inductive Host
  | name (s : String)
  | ipv4 (address : Nat)
  | ipv6 (pieces : List Nat)
  deriving DecidableEq, Repr

namespace Host

/-! ## Addresses of 32 bits -/

/-- The value of a digit up to 15. -/
def digit? (c : Char) : Option Nat :=
  if '0' ≤ c ∧ c ≤ '9' then some (c.toNat - 48)
  else if 'a' ≤ c ∧ c ≤ 'f' then some (c.toNat - 87)
  else if 'A' ≤ c ∧ c ≤ 'F' then some (c.toNat - 55)
  else none

/-- The number written in digits of a base. -/
def digits? (base : Nat) (cs : List Char) : Option Nat :=
  cs.foldlM (fun n c => (digit? c).bind fun d => if d < base then some (base * n + d) else none) 0

/-- A part of an address: hexadecimal after `0x`, octal after `0`, else decimal. -/
def ipv4Part? : List Char → Option Nat
  | [] => none
  | ['0'] => some 0
  | '0' :: 'x' :: cs => digits? 16 cs
  | '0' :: 'X' :: cs => digits? 16 cs
  | '0' :: cs => digits? 8 cs
  | cs => digits? 10 cs

/-- The labels of a name; a last empty label does not count. -/
def labels (cs : List Char) : List (List Char) :=
  let parts := cs.splitOn '.'
  if parts.getLast? == some [] then parts.dropLast else parts

/-- The last label is a number, so that the name has to be an address. -/
def endsInNumber (cs : List Char) : Bool :=
  match (labels cs).getLast? with
  | none => false
  | some last => (!last.isEmpty && last.all Char.isDigit) || (ipv4Part? last).isSome

/-- An address from its parts: all but the last are bytes, the last fills what is left. -/
def readIpv4 (cs : List Char) : Except UrlError Host :=
  match (labels cs).mapM ipv4Part? with
  | none => .error .ipv4
  | some parts =>
    let bytes := parts.dropLast
    let last := parts.getLast?.getD 0
    if 4 < parts.length || bytes.any (255 < ·) || Nat.pow 2 (8 * (4 - bytes.length)) ≤ last then
      .error .ipv4
    else
      let weighted := bytes.zipIdx.map fun (b, i) => b * Nat.pow 2 (8 * (3 - i))
      .ok (.ipv4 (Numeral.total weighted + last))

/-! ## Addresses of 128 bits -/

/-- A group of up to four hexadecimal digits. -/
def ipv6Piece? (cs : List Char) : Option Nat :=
  if cs.isEmpty || 4 < cs.length then none else digits? 16 cs

/-- A decimal byte without a leading zero. -/
def decimalByte? (cs : List Char) : Option Nat :=
  if cs.isEmpty || (1 < cs.length && cs.head? == some '0') then none
  else (digits? 10 cs).filter (· ≤ 255)

/-- Groups between colons; the last may be an address of 32 bits, which is two groups. -/
def ipv6Pieces? : List (List Char) → Option (List Nat)
  | [] => some []
  | [last] =>
    if last.contains '.' then
      match (last.splitOn '.').mapM decimalByte? with
      | some [a, b, c, d] => some [a * 256 + b, c * 256 + d]
      | _ => none
    else (ipv6Piece? last).map fun p => [p]
  | part :: parts => do
    let p ← ipv6Piece? part
    let ps ← ipv6Pieces? parts
    return p :: ps

/-- The groups of a text, none for an empty one. -/
def ipv6Groups? (cs : List Char) : Option (List Nat) :=
  if cs.isEmpty then some [] else ipv6Pieces? (cs.splitOn ':')

/-- Cuts a text at the first two colons in a row. -/
def cutDouble? (before : List Char) : List Char → Option (List Char × List Char)
  | ':' :: ':' :: rest => some (before.reverse, rest)
  | c :: rest => cutDouble? (c :: before) rest
  | [] => none

/-- An address of eight groups, of which two colons stand for one or more zeros. -/
def readIpv6 (cs : List Char) : Except UrlError Host :=
  let pieces? := match cutDouble? [] cs with
    | none => ((ipv6Groups? cs).filter fun ps => ps.length = 8)
    | some (left, right) => do
      if left.contains '.' then none
      let low ← ipv6Groups? left
      let high ← ipv6Groups? right
      if 8 ≤ low.length + high.length then none
      return low ++ List.replicate (8 - low.length - high.length) 0 ++ high
  match pieces? with
  | some ps => .ok (.ipv6 ps)
  | none => .error .ipv6

/-- The length of the run of zeros at the front. -/
def zeros (ps : List Nat) : Nat := (ps.takeWhile (· = 0)).length

/-- The longest run of at least two zeros, the first of equal ones: its place and its length. -/
def longestZeros (ps : List Nat) : Option (Nat × Nat) :=
  let runs := (List.range ps.length).map fun i => (i, zeros (ps.drop i))
  runs.foldl (fun best run =>
    if run.2 < 2 then best
    else match best with
      | none => some run
      | some (_, n) => if n < run.2 then some run else best) none

/-- Groups with colons between them. -/
def groupsText (ps : List Nat) : String :=
  ":".intercalate (ps.map fun p => String.ofList (Nat.toDigits 16 p))

/-! ## Names -/

/-- What a name may not hold. -/
def forbidden (c : Char) : Bool :=
  c ≤ ' ' || c = '\x7f' || "#%/:<>?@[\\]^|".toList.contains c

def asciiLabel (cs : List Char) : List Char :=
  if cs.all fun c => c.toNat < 128 then cs else "xn--".toList ++ Punycode.encode cs

/-- A name in lower-case ASCII. -/
def asciiName (s : String) : List Char :=
  List.intercalate ['.'] (((Text.lower s).toList.splitOn '.').map asciiLabel)

/-- The text inside brackets. -/
def bracketed? : List Char → Option (List Char)
  | '[' :: cs => if cs.getLast? == some ']' then some cs.dropLast else none
  | _ => none

/-- The host of a special scheme. -/
def read (cs : List Char) : Except UrlError Host :=
  if cs.head? == some '[' then
    match bracketed? cs with
    | some inside => readIpv6 inside
    | none => .error .ipv6
  else
    match Utf8.decode (Percent.decode (Utf8.encode (String.ofList cs))) with
    | .error _ => .error .domain
    | .ok s =>
      let name := asciiName s
      if name.any forbidden then .error .domain
      else if name.isEmpty then .error .emptyHost
      else if endsInNumber name then readIpv4 name
      else .ok (.name (String.ofList name))

/-- The host of another scheme, which is kept nearly as it is. -/
def readPlain (cs : List Char) : Except UrlError Host :=
  if cs.head? == some '[' then
    match bracketed? cs with
    | some inside => readIpv6 inside
    | none => .error .ipv6
  else if cs.any fun c => forbidden c && c ≠ '%' && !Percent.controls c || c = '\x00' then
    .error .domainCharacter
  else .ok (.name (String.ofList (Percent.encode Percent.controls cs)))

/-! ## Writing -/

/-- The written form of a host. -/
def text : Host → String
  | name s => s
  | ipv4 n =>
    let bytes := [n / 0x1000000, n / 0x10000 % 256, n / 0x100 % 256, n % 256]
    ".".intercalate (bytes.map Numeral.natural)
  | ipv6 ps => "[" ++ (match longestZeros ps with
    | none => groupsText ps
    | some (i, n) => groupsText (ps.take i) ++ "::" ++ groupsText (ps.drop (i + n))) ++ "]"

end Host

end ChainIndexer
