import ChainIndexer.Yaml.Scalar

/-!
# The tokens of a YAML text

Indentation opens and closes blocks. Whether a scalar is a key is known only at the colon after it,
so a mark is left wherever a key may start; a colon on the same line turns the mark into the start
of a key, and where the key is indented further than its surroundings, of a mapping.
-/

namespace ChainIndexer.Yaml

/-! ## Tokens -/

/-- A token. A mark stands where a key may start. -/
inductive Token
  | mark (id : Nat)
  | versionDirective (major minor : Nat)
  | tagDirective (handle uri : String)
  | documentStart
  | documentEnd
  | blockSequenceStart
  | blockMappingStart
  | blockEnd
  | flowSequenceStart
  | flowSequenceEnd
  | flowMappingStart
  | flowMappingEnd
  | blockEntry
  | flowEntry
  | key
  | value
  | reference (name : String)
  | anchor (name : String)
  | tag (handle : String)
  | scalar (text : String) (plain : Bool)
  deriving DecidableEq, Repr

/-- A place where a key may start: its mark and where it stands. A required key must turn out to
be one. -/
structure PossibleKey where
  id : Nat
  required : Bool
  line : Nat
  index : Nat
  column : Nat

/-- The tokens read so far, the newest first, and what decides about the next one. `keys` holds the
possible key of every open flow collection, the innermost first. `chosen` holds the marks that
became keys, and whether a mapping starts there. -/
structure Scanner where
  cursor : Cursor
  tokens : List Token := []
  indent : Int := -1
  outer : List Int := []
  keyAllowed : Bool := true
  keys : List (Option PossibleKey) := [none]
  marks : Nat := 0
  chosen : List (Nat × Bool) := []

namespace Scanner

/-- The scanner is inside a flow collection. -/
def inFlow (s : Scanner) : Bool := 1 < s.keys.length

def push (s : Scanner) (t : Token) : Scanner := { s with tokens := t :: s.tokens }

/-- Goes to a place. -/
def goto (s : Scanner) (c : Cursor) : Scanner := { s with cursor := c }

/-- Adds a token of some characters. -/
def take (s : Scanner) (n : Nat) (t : Token) : Scanner :=
  (s.push t).goto (s.cursor.skipMany n)

/-- A key may start at the next token, or not. -/
def allow (s : Scanner) (b : Bool) : Scanner := { s with keyAllowed := b }

/-! ## Indentation -/

/-- Closes the blocks that are indented further than a column. -/
def unroll (s : Scanner) (column : Int) : Scanner :=
  if s.inFlow then s
  else
    let closed := (s.indent :: s.outer).takeWhile fun i => column < i
    match (s.indent :: s.outer).drop closed.length with
    | indent :: outer =>
      { s with tokens := closed.map (fun _ => Token.blockEnd) ++ s.tokens, indent, outer }
    | [] => s

/-- A block at this column is indented further. -/
def deeper (s : Scanner) (column : Nat) : Bool := !s.inFlow && s.indent < (column : Int)

def enter (s : Scanner) (column : Nat) : Scanner :=
  { s with indent := column, outer := s.indent :: s.outer }

/-- Opens a block at a column that is indented further. -/
def roll (s : Scanner) (column : Nat) (t : Token) : Scanner :=
  if s.deeper column then (s.enter column).push t else s

/-! ## Possible keys -/

/-- The possible key is given up; a required one may not be. -/
def dropKey? (s : Scanner) : Option Scanner :=
  match s.keys with
  | some k :: keys => if k.required then none else some { s with keys := none :: keys }
  | _ => some s

/-- A key may start here. -/
def markKey? (s : Scanner) : Option Scanner :=
  if s.keyAllowed then do
    let s ← s.dropKey?
    let c := s.cursor
    let required := !s.inFlow && s.indent = (c.column : Int)
    let k : PossibleKey := ⟨s.marks, required, c.line, c.index, c.column⟩
    return { (s.push (.mark s.marks)) with marks := s.marks + 1, keys := some k :: s.keys.drop 1 }
  else some s

/-- Gives up the possible keys that lie on an earlier line or too far back. -/
def expire? (s : Scanner) : Option Scanner :=
  let stale (k : PossibleKey) : Bool :=
    k.line < s.cursor.line || k.index + 1024 < s.cursor.index
  if s.keys.any fun k => k.any fun k => stale k && k.required then none
  else some { s with keys := s.keys.map fun k => k.filter fun k => !stale k }

/-! ## To the next token -/

/-- Passes blanks, comments and line breaks. -/
def toNext : Nat → Scanner → Scanner
  | 0, s => s
  | fuel + 1, s =>
    let c := s.cursor
    let c := if c.column = 0 && c.next.any fun x => x.toNat = 0xFEFF then c.skip else c
    let c := c.skipWhile fun x => x = ' ' || (x = '\t' && (s.inFlow || !s.keyAllowed))
    let c := if c.sees '#' then c.skipWhile fun x => !isBreak x else c
    if c.atBreak then
      toNext fuel { s with cursor := c.skipLine, keyAllowed := s.keyAllowed || !s.inFlow }
    else s.goto c

/-! ## Tokens of names -/

/-- The character may stand in a name. -/
def isNameChar (c : Char) : Bool :=
  ('0' ≤ c && c ≤ '9') || ('A' ≤ c && c ≤ 'Z') || ('a' ≤ c && c ≤ 'z') || c = '-' || c = '_'

/-- The character may stand in the URI of a tag. -/
def isUriChar (c : Char) : Bool := isNameChar c || ";/?:@&=+$.!~*'()%,[]".toList.contains c

/-- The rest of a tag may hold the character. -/
def isTagChar (inFlow : Bool) (c : Char) : Bool :=
  isUriChar c && !(inFlow && [',', '[', ']'].contains c)

/-- Reads the name of an anchor or an alias after its indicator. -/
def name? (c : Cursor) : Option (String × Cursor) :=
  let name := c.rest.takeWhile isNameChar
  let c := c.skipMany name.length
  let ends := c.blankAhead 0
    || c.next.any fun x => ['?', ':', ',', ']', '\x7d', '%', '@'].contains x || x.toNat = 0x60
  if name.isEmpty || !ends then none else some (String.ofList name, c)

/-- Reads a tag from its exclamation mark on; gives its handle, which is empty for a verbatim
tag. -/
def tag? (inFlow : Bool) (c : Cursor) : Option (String × Cursor) := do
  let (handle, c) ←
    if c.ahead 1 == some '<' then
      let uri := (c.rest.drop 2).takeWhile isUriChar
      let c := c.skipMany (2 + uri.length)
      if uri.isEmpty || !c.sees '>' then none else some ("", c.skip)
    else
      let word := (c.rest.drop 1).takeWhile isNameChar
      if c.ahead (1 + word.length) == some '!' then
        let c := c.skipMany (2 + word.length)
        let rest := c.rest.takeWhile (isTagChar inFlow)
        if rest.isEmpty then none
        else some ("!" ++ String.ofList word ++ "!", c.skipMany rest.length)
      else
        let rest := (c.rest.drop 1).takeWhile (isTagChar inFlow)
        some ("!", c.skipMany (1 + rest.length))
  if c.blankAhead 0 || (inFlow && c.sees ',') then return (handle, c) else none

/-- Reads a directive from its percent sign on. -/
def directive? (c : Cursor) : Option (Token × Cursor) := do
  let name := (c.rest.drop 1).takeWhile isNameChar
  let c := c.skipMany (1 + name.length)
  if !c.blankAhead 0 then none
  let c := c.skipWhile isBlank
  let isDigit (x : Char) : Bool := '0' ≤ x && x ≤ '9'
  let value (cs : List Char) : Nat := cs.foldl (fun n x => 10 * n + (x.toNat - 48)) 0
  if String.ofList name = "YAML" then
    let major := c.rest.takeWhile isDigit
    let c := c.skipMany major.length
    let minor := (c.rest.drop 1).takeWhile isDigit
    if major.isEmpty || minor.isEmpty || !c.sees '.' || 9 < major.length || 9 < minor.length then
      none
    else
      let c ← (c.skipMany (1 + minor.length)).skipToLineEnd?
      return (.versionDirective (value major) (value minor), c)
  else if String.ofList name = "TAG" then
    let handle := c.rest.takeWhile fun x => isNameChar x || x = '!'
    let c := c.skipMany handle.length
    let isHandle := match handle with
      | ['!'] => true
      | '!' :: rest => rest.getLast? == some '!' && (rest.dropLast.all isNameChar)
      | _ => false
    if !isHandle || !c.atBlank then none
    else
      let c := c.skipWhile isBlank
      let uri := c.rest.takeWhile isUriChar
      let c := c.skipMany uri.length
      if uri.isEmpty || !c.blankAhead 0 then none
      else return (.tagDirective (String.ofList handle) (String.ofList uri), ← c.skipToLineEnd?)
  else none

/-! ## Fetching -/

/-- A directive or a line that starts or ends a document. -/
def atMargin? (s : Scanner) : Option Scanner := do
  let s ← (s.unroll (-1)).dropKey?
  let s := s.allow false
  if s.cursor.sees '%' then
    let (t, c) ← directive? s.cursor
    return (s.push t).goto c
  else return s.take 3 (if s.cursor.sees '-' then .documentStart else .documentEnd)

def openFlow? (s : Scanner) (t : Token) : Option Scanner := do
  let s ← s.markKey?
  return { ((s.take 1 t).allow true) with keys := none :: s.keys }

def closeFlow? (s : Scanner) (t : Token) : Option Scanner := do
  let s ← s.dropKey?
  return { ((s.take 1 t).allow false) with keys := if s.inFlow then s.keys.drop 1 else s.keys }

/-- An entry of a block sequence. -/
def entry? (s : Scanner) : Option Scanner := do
  if !s.inFlow && !s.keyAllowed then none
  let s ← (s.roll s.cursor.column .blockSequenceStart).dropKey?
  return (s.take 1 .blockEntry).allow true

def explicitKey? (s : Scanner) : Option Scanner := do
  if !s.inFlow && !s.keyAllowed then none
  let s ← (s.roll s.cursor.column .blockMappingStart).dropKey?
  return (s.take 1 .key).allow !s.inFlow

/-- The colon before a value: it turns the possible key into a key. -/
def value? (s : Scanner) : Option Scanner :=
  match s.keys with
  | some k :: keys =>
    let opens := s.deeper k.column
    let s := if opens then s.enter k.column else s
    some ((({ s with chosen := (k.id, opens) :: s.chosen, keys := none :: keys }).take 1
      .value).allow false)
  | _ => do
    if !s.inFlow && !s.keyAllowed then none
    let s := s.roll s.cursor.column .blockMappingStart
    return (s.take 1 .value).allow !s.inFlow

def keyLike? (s : Scanner) (read : Cursor → Option (Token × Cursor)) : Option Scanner := do
  let s ← s.markKey?
  let (t, c) ← read s.cursor
  return ((s.push t).goto c).allow false

def blockScalar? (s : Scanner) (literal : Bool) : Option Scanner := do
  let s ← s.dropKey?
  let (text, c) ← block? literal s.indent s.cursor.skip
  return ((s.push (.scalar (String.ofList text.reverse) false)).goto c).allow true

def plainScalar? (s : Scanner) : Option Scanner := do
  let s ← s.markKey?
  let c := s.cursor
  let (text, broken, c) ← plain? s.inFlow (s.indent + 1).toNat (c.rest.length + 1) [] {} c
  return ((s.push (.scalar (String.ofList text.reverse) true)).goto c).allow broken

/-- A plain scalar may start here. -/
def startsPlain (s : Scanner) : Bool :=
  let c := s.cursor
  match c.next with
  | none => false
  | some x =>
    !(isBlank x || "-?:,[]#&*!|>'\"%@".toList.contains x || [0x60, 0x7B, 0x7D].contains x.toNat)
      || (x = '-' && !(c.ahead 1).any isBlank)
      || (!s.inFlow && (x = '?' || x = ':') && !c.blankAhead 1)

/-- Reads the next token; the cursor stands at its first character. -/
def fetch? (s : Scanner) : Option Scanner :=
  let c := s.cursor
  if (c.column = 0 && c.sees '%') || c.atDocumentMark then s.atMargin?
  else match c.next with
    | none => none
    | some x =>
      if x = '[' then s.openFlow? .flowSequenceStart
      else if x = '\x7b' then s.openFlow? .flowMappingStart
      else if x = ']' then s.closeFlow? .flowSequenceEnd
      else if x = '\x7d' then s.closeFlow? .flowMappingEnd
      else if x = ',' then (s.dropKey?).map fun s => (s.take 1 .flowEntry).allow true
      else if x = '-' && c.blankAhead 1 then s.entry?
      else if x = '?' && (s.inFlow || c.blankAhead 1) then s.explicitKey?
      else if x = ':' && (s.inFlow || c.blankAhead 1) then s.value?
      else if x = '*' then s.keyLike? fun c => (name? c.skip).map fun (n, c) => (.reference n, c)
      else if x = '&' then s.keyLike? fun c => (name? c.skip).map fun (n, c) => (.anchor n, c)
      else if x = '!' then s.keyLike? fun c => (tag? s.inFlow c).map fun (h, c) => (.tag h, c)
      else if (x = '|' || x = '>') && !s.inFlow then s.blockScalar? (x = '|')
      else if x = '\'' || x = '"' then s.keyLike? fun c =>
        (quoted? (x = '\'') (c.rest.length + 1) [] c.skip).map fun (text, c) =>
          (.scalar (String.ofList text.reverse) false, c)
      else if s.startsPlain then s.plainScalar?
      else none

/-- The tokens in order, each mark replaced by what became of it. -/
def result (s : Scanner) : List Token :=
  s.tokens.reverse.flatMap fun t => match t with
    | .mark id => match s.chosen.lookup id with
      | some true => [.blockMappingStart, .key]
      | some false => [.key]
      | none => []
    | t => [t]

def run? : Nat → Scanner → Option (List Token)
  | 0, _ => none
  | fuel + 1, s => do
    let s := toNext (s.cursor.rest.length + 1) s
    let s ← s.expire?
    if s.cursor.atEnd then
      return (← (s.unroll (-1)).dropKey?).result
    else
      let s := s.unroll s.cursor.column
      run? fuel (← s.fetch?)

end Scanner

def tokens? (text : String) : Option (List Token) :=
  let cs := text.toList
  let cs := match cs with
    | c :: rest => if c.toNat = 0xFEFF then rest else cs
    | [] => []
  if cs.all isPrintable then Scanner.run? (cs.length + 2) { cursor := { rest := cs } } else none

end ChainIndexer.Yaml
