import ChainIndexer.Yaml.Cursor

/-!
# The text of scalars

A plain or quoted scalar may run over several lines, which are folded: one line break between two
words becomes a space, of several the first is dropped. A literal block scalar keeps its line
breaks, a folded one folds those between lines that are not indented further. Texts are gathered
in reverse.
-/

namespace ChainIndexer.Yaml

/-! ## Between two words -/

/-- What stands between two words: blanks of one line, or line breaks, the first of them apart. -/
structure Gap where
  blanks : List Char := []
  broken : Bool := false
  first : Option Char := none
  more : List Char := []

namespace Gap

/-- What the gap adds to a text, in reverse. -/
def folded (g : Gap) : List Char :=
  if g.broken then
    match g.first with
    | some '\n' => if g.more.isEmpty then [' '] else g.more
    | some c => g.more ++ [c]
    | none => g.more
  else g.blanks

/-- Reads on through blanks and line breaks. No tab may stand before the given column of a
continued line. -/
def read? (indent : Nat) : Nat → Gap → Cursor → Option (Gap × Cursor)
  | 0, _, _ => none
  | fuel + 1, g, c =>
    match c.next with
    | none => some (g, c)
    | some x =>
      if isBlank x then
        if g.broken then
          if x = '\t' && c.column < indent then none else read? indent fuel g c.skip
        else read? indent fuel { g with blanks := x :: g.blanks } c.skip
      else if isBreak x then
        if g.broken then read? indent fuel { g with more := breakValue x :: g.more } c.skipLine
        else read? indent fuel { broken := true, first := some (breakValue x) } c.skipLine
      else some (g, c)

end Gap

/-! ## Plain scalars -/

/-- A plain word ends before the next character. -/
def endsPlain (flow : Bool) (c : Cursor) : Bool :=
  c.blankAhead 0 || (c.sees ':' && c.blankAhead 1)
    || (flow && c.next.any fun x => [',', '[', ']', '\x7b', '\x7d'].contains x)

/-- A colon stands before a mark of a flow collection, where it may not. -/
def strayColon (flow : Bool) (c : Cursor) : Bool :=
  flow && c.sees ':'
    && (c.ahead 1).any fun x => [',', '?', '[', ']', '\x7b', '\x7d'].contains x

def plainWord? (flow : Bool) : Nat → List Char → Cursor → Option (List Char × Cursor)
  | 0, _, _ => none
  | fuel + 1, word, c =>
    if strayColon flow c then none
    else if endsPlain flow c then some (word, c)
    else match c.next with
      | some x => plainWord? flow fuel (x :: word) c.skip
      | none => some (word, c)

/-- Reads a plain scalar: its text in reverse, whether it ended after a line break, and the
place after it. -/
def plain? (flow : Bool) (indent : Nat) :
    Nat → List Char → Gap → Cursor → Option (List Char × Bool × Cursor)
  | 0, _, _, _ => none
  | fuel + 1, text, gap, c =>
    if c.atDocumentMark || c.sees '#' then some (text, gap.broken, c)
    else do
      let (word, c) ← plainWord? flow (c.rest.length + 1) [] c
      let (text, gap) := if word.isEmpty then (text, gap) else (word ++ gap.folded ++ text, {})
      if c.atBlank || c.atBreak then
        let (gap, c) ← gap.read? indent (c.rest.length + 1) c
        if !flow && c.column < indent then return (text, gap.broken, c)
        else plain? flow indent fuel text gap c
      else return (text, gap.broken, c)

/-! ## Quoted scalars -/

/-- The character behind a backslash and a letter. -/
def escape? (c : Char) : Option Char :=
  match c with
  | '0' => some (Char.ofNat 0)
  | 'a' => some (Char.ofNat 7)
  | 'b' => some (Char.ofNat 8)
  | 't' => some '\t'
  | '\t' => some '\t'
  | 'n' => some '\n'
  | 'v' => some (Char.ofNat 11)
  | 'f' => some (Char.ofNat 12)
  | 'r' => some '\r'
  | 'e' => some (Char.ofNat 27)
  | ' ' => some ' '
  | '"' => some '"'
  | '/' => some '/'
  | '\\' => some '\\'
  | 'N' => some (Char.ofNat 0x85)
  | '_' => some (Char.ofNat 0xA0)
  | 'L' => some (Char.ofNat 0x2028)
  | 'P' => some (Char.ofNat 0x2029)
  | _ => none

/-- How many hexadecimal digits follow the letter of an escape. -/
def escapeDigits? (c : Char) : Option Nat :=
  match c with
  | 'x' => some 2
  | 'u' => some 4
  | 'U' => some 8
  | _ => none

/-- The value of a hexadecimal digit. -/
def hexDigit? (c : Char) : Option Nat :=
  if '0' ≤ c && c ≤ '9' then some (c.toNat - 48)
  else if 'a' ≤ c && c ≤ 'f' then some (c.toNat - 87)
  else if 'A' ≤ c && c ≤ 'F' then some (c.toNat - 55)
  else none

/-- The value of hexadecimal digits. -/
def hexValue? (cs : List Char) : Option Nat :=
  cs.foldlM (fun n c => (hexDigit? c).map fun d => 16 * n + d) 0

/-- The character of a code. -/
def charOf? (n : Nat) : Option Char := if n.isValidChar then some (Char.ofNat n) else none

def readEscape? (c : Cursor) : Option (Char × Cursor) := do
  let letter ← c.ahead 1
  match escape? letter with
  | some x => return (x, c.skipMany 2)
  | none =>
    let count ← escapeDigits? letter
    let digits := (c.rest.drop 2).take count
    if digits.length = count then
      return (← charOf? (← hexValue? digits), c.skipMany (2 + count))
    else none

/-- Reads a quoted word: its text in reverse, and whether an escaped line break ended it. -/
def quotedWord? (single : Bool) : Nat → List Char → Cursor → Option (List Char × Bool × Cursor)
  | 0, _, _ => none
  | fuel + 1, text, c =>
    match c.next with
    | none => some (text, false, c)
    | some x =>
      if isBlank x || isBreak x then some (text, false, c)
      else if single then
        if x = '\'' then
          if c.ahead 1 == some '\'' then quotedWord? single fuel ('\'' :: text) (c.skipMany 2)
          else some (text, false, c)
        else quotedWord? single fuel (x :: text) c.skip
      else if x = '"' then some (text, false, c)
      else if x = '\\' then
        if (c.ahead 1).any isBreak then some (text, true, c.skip.skipLine)
        else do
          let (y, c) ← readEscape? c
          quotedWord? single fuel (y :: text) c
      else quotedWord? single fuel (x :: text) c.skip

/-- Reads a quoted scalar after its opening quote: its text in reverse. -/
def quoted? (single : Bool) : Nat → List Char → Cursor → Option (List Char × Cursor)
  | 0, _, _ => none
  | fuel + 1, text, c =>
    if c.atDocumentMark || c.atEnd then none
    else do
      let (text, escaped, c) ← quotedWord? single (c.rest.length + 1) text c
      if !escaped && c.sees (if single then '\'' else '"') then return (text, c.skip)
      else
        let (gap, c) ← Gap.read? 0 (c.rest.length + 1) { broken := escaped } c
        quoted? single fuel (gap.folded ++ text) c

/-! ## Block scalars -/

/-- What becomes of the line breaks at the end of a block scalar. -/
inductive Chomping
  | strip
  | clip
  | keep
  deriving DecidableEq

/-- Reads the header of a block scalar after its indicator: the chomping and the indentation. -/
def blockHeader? (c : Cursor) : Option (Chomping × Option Nat × Cursor) :=
  let sign? (x : Option Char) : Option Chomping :=
    if x == some '+' then some .keep else if x == some '-' then some .strip else none
  let digit? (x : Option Char) : Option Nat :=
    x.bind fun x => if '0' ≤ x && x ≤ '9' then some (x.toNat - 48) else none
  let step : Chomping × Option Nat × Cursor :=
    match sign? c.next with
    | some chomping => match digit? (c.ahead 1) with
      | some n => (chomping, some n, c.skipMany 2)
      | none => (chomping, none, c.skip)
    | none => match digit? c.next with
      | some n => match sign? (c.ahead 1) with
        | some chomping => (chomping, some n, c.skipMany 2)
        | none => (.clip, some n, c.skip)
      | none => (.clip, none, c)
  let (chomping, increment, c) := step
  if increment == some 0 then none
  else (c.skipToLineEnd?).map fun c => (chomping, increment, if c.atBreak then c.skipLine else c)

/-- Reads empty lines: the line breaks in reverse, and the deepest column met. No tab may stand
in the indentation. -/
def emptyLines? (indent : Option Nat) :
    Nat → List Char → Nat → Cursor → Option (List Char × Nat × Cursor)
  | 0, _, _, _ => none
  | fuel + 1, breaks, deepest, c =>
    let within (n : Nat) : Bool := match indent with
      | some i => n < i
      | none => true
    if c.sees ' ' && within c.column then emptyLines? indent fuel breaks deepest c.skip
    else
      let deepest := max deepest c.column
      if c.sees '\t' && within c.column then none
      else match c.next with
        | some x =>
          if isBreak x then emptyLines? indent fuel (breakValue x :: breaks) deepest c.skipLine
          else some (breaks, deepest, c)
        | none => some (breaks, deepest, c)

/-- The breaks gathered before a line of a block scalar: that of the line before, and those of
empty lines. -/
structure Breaks where
  leading : List Char := []
  trailing : List Char := []

/-- What stands before a line of a block scalar, in reverse. -/
def Breaks.joined (b : Breaks) (folds : Bool) : List Char :=
  if folds && b.leading == ['\n'] then if b.trailing.isEmpty then [' '] else b.trailing
  else b.trailing ++ b.leading

/-- Reads the lines of a block scalar: its text in reverse, and the breaks after it. -/
def blockLines? (literal : Bool) (indent : Nat) :
    Nat → List Char → Breaks → Bool → Cursor → Option (List Char × Breaks × Cursor)
  | 0, _, _, _, _ => none
  | fuel + 1, text, breaks, afterBlank, c =>
    if c.column = indent && !c.atEnd then do
      let blank := c.atBlank
      let before := breaks.joined (!literal && !afterBlank && !blank)
      let line := c.rest.takeWhile fun x => !isBreak x
      let c := c.skipMany line.length
      let leading := match c.next with
        | some x => [breakValue x]
        | none => []
      let (trailing, _, c) ← emptyLines? (some indent) (c.rest.length + 1) [] 0 c.skipLine
      blockLines? literal indent fuel (line.reverse ++ before ++ text) ⟨leading, trailing⟩ blank c
    else some (text, breaks, c)

/-- Reads a block scalar after its indicator, inside a block of the given indentation: its text in
reverse. -/
def block? (literal : Bool) (parent : Int) (c : Cursor) : Option (List Char × Cursor) := do
  let (chomping, increment, c) ← blockHeader? c
  let fuel := c.rest.length + 1
  let fixed := increment.map fun n => (max parent 0).toNat + n
  let (trailing, deepest, c) ← emptyLines? fixed fuel [] 0 c
  let indent := fixed.getD (max (max deepest (parent + 1).toNat) 1)
  let (text, breaks, c) ← blockLines? literal indent fuel [] { trailing } false c
  match chomping with
  | .strip => return (text, c)
  | .clip => return (breaks.leading ++ text, c)
  | .keep => return (breaks.trailing ++ breaks.leading ++ text, c)

end ChainIndexer.Yaml
