import ChainIndexer.Text.Basic
import ChainIndexer.Time.Basic

/-!
# Reading instants

Two readers.

* `Time.readExact` takes RFC 3339 to the letter: fields of fixed width in the first nineteen bytes,
  an optional fraction, then `Z` or an offset with a colon.
* `Time.readLoose` also takes shorter fields, signed and longer years, white space between the
  fields, an offset without a colon, and `UTC`.

Both report the first fault from the left. In the exact form a date that does not exist is reported
before anything after it is looked at; in the loose form only the range of each field is checked on
the way, and the date itself at the end.
-/

namespace ChainIndexer

namespace Time

/-- Why a text is no instant. -/
inductive Fault
  | invalid
  | short
  | outOfRange
  | trailing
  | impossible
  deriving DecidableEq, Repr

def Fault.message : Fault → String
  | invalid => "input contains invalid characters"
  | short => "premature end of input"
  | outOfRange => "input is out of range"
  | trailing => "trailing input"
  | impossible => "no possible date and time matching input"

/-! ## Parts -/

def byteCount (cs : List Char) : Nat := Numeral.total (cs.map fun c => c.utf8Size)

/-- The value of an ASCII digit. -/
def digit (c : Char) : Except Fault Nat :=
  match Numeral.digitValue? c with
  | some d => .ok d
  | none => .error .invalid

def takeDigit : List Char → Except Fault (Nat × List Char)
  | [] => .error .short
  | c :: cs => (digit c).map (·, cs)

def takeTwo (cs : List Char) : Except Fault (Nat × List Char) := do
  let (a, cs) ← takeDigit cs
  let (b, cs) ← takeDigit cs
  return (10 * a + b, cs)

/-- One character out of a few. -/
def takeOneOf (allowed : List Char) : List Char → Except Fault (List Char)
  | [] => .error .short
  | c :: cs => if allowed.contains c then .ok cs else .error .invalid

/-- Up to `width` further digits of a number of 64 bits with a sign. -/
def moreDigits : Nat → Nat → List Char → Except Fault (Nat × List Char)
  | _, n, [] => .ok (n, [])
  | 0, n, cs => .ok (n, cs)
  | width + 1, n, c :: cs =>
    match Numeral.digitValue? c with
    | none => .ok (n, c :: cs)
    | some d =>
      if 10 * n + d < 0x8000000000000000 then moreDigits width (10 * n + d) cs
      else .error .outOfRange

def takeNumber (width : Nat) : List Char → Except Fault (Nat × List Char)
  | [] => .error .short
  | c :: cs => do
    let d ← digit c
    moreDigits (width - 1) d cs

/-- The digits after a decimal point, as nanoseconds; those after the ninth are dropped. -/
def takeFraction (cs : List Char) : Except Fault (Nat × List Char) := do
  let (n, rest) ← takeNumber 9 cs
  let count := cs.length - rest.length
  return (n * Nat.pow 10 (9 - count), rest.dropWhile fun c => (Numeral.digitValue? c).isSome)

/-- A fraction, where a point stands. -/
def takeOptionalFraction : List Char → Except Fault (Nat × List Char)
  | '.' :: cs => takeFraction cs
  | cs => .ok (0, cs)

/-- Two characters that must be digits, the first at most `most`; a greater first digit is out of
range. -/
def takeBounded (most : Nat) : List Char → Except Fault (Nat × List Char)
  | [] => .error .short
  | [c] => if c.utf8Size < 2 then .error .short else .error .invalid
  | a :: b :: cs => do
    let x ← digit a
    let y ← digit b
    if x ≤ most then return (10 * x + y, cs) else throw .outOfRange

/-- The sign of an offset; the minus may be the mathematical one. -/
def takeSign : List Char → Except Fault (Int × List Char)
  | [] => .error .short
  | c :: cs =>
    if c = '+' then .ok (1, cs)
    else if c = '-' ∨ c = Char.ofNat 0x2212 then .ok (-1, cs)
    else .error .invalid

/-- `Z`, or an offset in minutes: sign, hours, what stands between, minutes. -/
def takeOffset (between : List Char → Except Fault (List Char)) :
    List Char → Except Fault (Int × List Char)
  | 'Z' :: cs => .ok (0, cs)
  | 'z' :: cs => .ok (0, cs)
  | cs => do
    let (sign, cs) ← takeSign cs
    let (hours, cs) ← takeBounded 9 cs
    let cs ← between cs
    let (minutes, cs) ← takeBounded 5 cs
    return (sign * (hours * 60 + minutes), cs)

/-- The instant of a local time and its offset, when both are in range. -/
def atOffset (t : Time) (offset : Int) : Except Fault Time :=
  if offset.natAbs < 1440 then
    let u := t.beforeOffset offset
    if u.date.Valid then .ok u else .error .impossible
  else .error .outOfRange

/-! ## The exact form -/

def readExactChars (cs : List Char) : Except Fault Time := do
  if byteCount cs < 19 then throw .short
  let (century, cs) ← takeTwo cs
  let (year, cs) ← takeTwo cs
  let cs ← takeOneOf ['-'] cs
  let (month, cs) ← takeTwo cs
  let cs ← takeOneOf ['-'] cs
  let (day, cs) ← takeTwo cs
  let date : Date := ⟨century * 100 + year, month, day⟩
  if ¬ date.Valid then throw .outOfRange
  let cs ← takeOneOf ['T', 't', ' '] cs
  let (hour, cs) ← takeTwo cs
  let cs ← takeOneOf [':'] cs
  let (minute, cs) ← takeTwo cs
  let cs ← takeOneOf [':'] cs
  let (second, cs) ← takeTwo cs
  let (nano, cs) ← takeOptionalFraction cs
  if 24 ≤ hour ∨ 60 ≤ minute ∨ 60 < second then throw .outOfRange
  let (offset, cs) ← takeOffset (takeOneOf [':']) cs
  if cs.isEmpty then atOffset ⟨date, hour, minute, second, nano⟩ offset else throw .trailing

def readExact (s : String) : Except Fault Time := readExactChars s.toList

/-! ## The loose form -/

/-- A number of one or two digits, white space before it, confined to a range. -/
def takeField (low high : Nat) (cs : List Char) : Except Fault (Nat × List Char) := do
  let (n, cs) ← takeNumber 2 (Text.trimStart cs)
  if low ≤ n ∧ n ≤ high then return (n, cs) else throw .outOfRange

/-- A year: up to four digits, or a sign and any number of digits. -/
def takeYear (cs : List Char) : Except Fault (Int × List Char) := do
  let cs := Text.trimStart cs
  let (year, cs) ← match cs with
    | '-' :: rest => (takeNumber rest.length rest).map fun r => (-(r.1 : Int), r.2)
    | '+' :: rest => (takeNumber rest.length rest).map fun r => ((r.1 : Int), r.2)
    | cs => (takeNumber 4 cs).map fun r => ((r.1 : Int), r.2)
  if -0x80000000 ≤ year ∧ year < 0x80000000 then return (year, cs) else throw .outOfRange

/-- A mark with white space before it. -/
def takeMark (mark : Char) (cs : List Char) : Except Fault (List Char) :=
  takeOneOf [mark] (Text.trimStart cs)

/-- Colons and white space between the hours and the minutes of an offset. -/
def skipColons (cs : List Char) : Except Fault (List Char) :=
  .ok (cs.dropWhile fun c => c = ':' || Text.isBlank c)

/-- The character is this ASCII letter in either case. -/
def isLetter (upper c : Char) : Bool := c = upper || c = upper.toLower

/-- `UTC` in any case, or an offset. -/
def takeZone : List Char → Except Fault (Int × List Char)
  | u :: t :: c :: rest =>
    if isLetter 'U' u && isLetter 'T' t && isLetter 'C' c then .ok (0, rest)
    else takeOffset skipColons (u :: t :: c :: rest)
  | cs => takeOffset skipColons cs

def readLooseChars (cs : List Char) : Except Fault Time := do
  let (year, cs) ← takeYear cs
  let cs ← takeMark '-' cs
  let (month, cs) ← takeField 1 12 cs
  let cs ← takeMark '-' cs
  let (day, cs) ← takeField 1 31 cs
  let cs ← takeOneOf ['T', 't', ' '] cs
  let (hour, cs) ← takeField 0 23 cs
  let cs ← takeMark ':' cs
  let (minute, cs) ← takeField 0 59 cs
  let cs ← takeMark ':' cs
  let (second, cs) ← takeField 0 60 cs
  let (nano, cs) ← takeOptionalFraction cs
  let (offset, cs) ← takeZone (Text.trimStart cs)
  if !(Text.trimStart cs).isEmpty then throw .trailing
  let date : Date := ⟨year, month, day⟩
  if date.Valid then atOffset ⟨date, hour, minute, second, nano⟩ offset else throw .outOfRange

def readLoose (s : String) : Except Fault Time := readLooseChars s.toList

end Time

end ChainIndexer
