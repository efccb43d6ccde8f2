/-!
# Places in a YAML text

The rest of a text together with the line and the column where it starts.
-/

namespace ChainIndexer.Yaml

/-! ## Characters -/

/-- The character breaks a line. -/
def isBreak (c : Char) : Bool := c = '\n' || c = '\r' || [0x85, 0x2028, 0x2029].contains c.toNat

/-- The character is a space or a tab. -/
def isBlank (c : Char) : Bool := c = ' ' || c = '\t'

/-- A document may hold the character. -/
def isPrintable (c : Char) : Bool :=
  let n := c.toNat
  n = 9 || n = 10 || n = 13 || (0x20 ≤ n && n ≤ 0x7E) || n = 0x85
    || (0xA0 ≤ n && n ≤ 0xD7FF) || (0xE000 ≤ n && n ≤ 0xFFFD) || 0x10000 ≤ n

/-- What a line break stands for: itself where it separates lines or paragraphs, else a line
feed. -/
def breakValue (c : Char) : Char := if 0x2028 ≤ c.toNat then c else '\n'

/-! ## Places -/

/-- The rest of a text and where it starts. -/
structure Cursor where
  rest : List Char
  index : Nat := 0
  line : Nat := 0
  column : Nat := 0

namespace Cursor

def ahead (c : Cursor) (n : Nat) : Option Char := c.rest[n]?

def next (c : Cursor) : Option Char := c.rest.head?

/-- This character comes next. -/
def sees (c : Cursor) (x : Char) : Bool := c.next == some x

/-- The text is over. -/
def atEnd (c : Cursor) : Bool := c.rest.isEmpty

/-- A space or a tab comes next. -/
def atBlank (c : Cursor) : Bool := c.next.any isBlank

/-- A line break comes next. -/
def atBreak (c : Cursor) : Bool := c.next.any isBreak

/-- A blank, a line break or the end stands that far ahead. -/
def blankAhead (c : Cursor) (n : Nat) : Bool :=
  match c.ahead n with
  | some x => isBlank x || isBreak x
  | none => true

/-- Three such characters and a blank come next. -/
def atTriple (c : Cursor) (x : Char) : Bool :=
  c.ahead 0 == some x && c.ahead 1 == some x && c.ahead 2 == some x && c.blankAhead 3

/-- A line that starts or ends a document comes next. -/
def atDocumentMark (c : Cursor) : Bool := c.column = 0 && (c.atTriple '-' || c.atTriple '.')

/-- Passes one character of a line. -/
def skip (c : Cursor) : Cursor :=
  { c with rest := c.rest.drop 1, index := c.index + 1, column := c.column + 1 }

/-- Passes some characters of a line. -/
def skipMany : Nat → Cursor → Cursor
  | 0, c => c
  | n + 1, c => skipMany n c.skip

/-- Passes a line break. -/
def skipLine (c : Cursor) : Cursor :=
  match c.rest with
  | '\r' :: '\n' :: rest => ⟨rest, c.index + 2, c.line + 1, 0⟩
  | _ :: rest => ⟨rest, c.index + 1, c.line + 1, 0⟩
  | [] => c

/-- Passes characters of a line. -/
def skipWhile (p : Char → Bool) (c : Cursor) : Cursor :=
  c.skipMany (c.rest.takeWhile p).length

/-- Passes blanks and a comment; the line must end there. -/
def skipToLineEnd? (c : Cursor) : Option Cursor :=
  let c := c.skipWhile isBlank
  let c := if c.sees '#' then c.skipWhile fun x => !isBreak x else c
  if c.atEnd || c.atBreak then some c else none

end Cursor

end ChainIndexer.Yaml
