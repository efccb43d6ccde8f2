import ChainIndexer.Json.Numeral

/-!
# Reading JSON

A document is read in two passes, each a machine that takes one item at a time.

* `lex` cuts the characters into tokens. Escapes are resolved, a surrogate must be followed by its
  partner, and a control character inside a string is refused.
* `Reading.step` puts tokens together; the values that are still open stand on a stack, which may
  not be higher than 127.

`parse?` accepts a document that is one value with blanks around it.
-/

namespace ChainIndexer.Json

/-! ## Tokens -/

/-- A token of a document. -/
inductive Token
  | openArray
  | closeArray
  | openObject
  | closeObject
  | comma
  | colon
  | null
  | bool (b : Bool)
  | number (n : Number)
  | string (s : List Char)
  deriving DecidableEq, Repr

/-- The character is blank between tokens. -/
def isSpace (c : Char) : Bool := c = ' ' || c = '\n' || c = '\r' || c = '\t'

/-- The character may stand in a number. -/
def isNumberChar (c : Char) : Bool :=
  isDigit c || c = '-' || c = '+' || c = '.' || c = 'e' || c = 'E'

/-- The character may stand in a word. -/
def isWordChar (c : Char) : Bool := 'a' ≤ c && c ≤ 'z'

def word? (cs : List Char) : Option Token :=
  if cs = ['n', 'u', 'l', 'l'] then some .null
  else if cs = ['t', 'r', 'u', 'e'] then some (.bool true)
  else if cs = ['f', 'a', 'l', 's', 'e'] then some (.bool false)
  else none

def punctuation? (c : Char) : Option Token :=
  if c = '[' then some .openArray
  else if c = ']' then some .closeArray
  else if c = '\x7b' then some .openObject
  else if c = '\x7d' then some .closeObject
  else if c = ',' then some .comma
  else if c = ':' then some .colon
  else none

/-- The character that a letter after a backslash stands for. -/
def escape? (c : Char) : Option Char :=
  if c = '"' then some '"'
  else if c = '\\' then some '\\'
  else if c = '/' then some '/'
  else if c = 'b' then some '\x08'
  else if c = 'f' then some '\x0c'
  else if c = 'n' then some '\n'
  else if c = 'r' then some '\r'
  else if c = 't' then some '\t'
  else none

/-- The value of a hexadecimal digit. -/
def hexValue? (c : Char) : Option Nat :=
  if '0' ≤ c ∧ c ≤ '9' then some (c.toNat - '0'.toNat)
  else if 'a' ≤ c ∧ c ≤ 'f' then some (c.toNat - 'a'.toNat + 10)
  else if 'A' ≤ c ∧ c ≤ 'F' then some (c.toNat - 'A'.toNat + 10)
  else none

/-- Where the reader stands inside a document; texts are held last character first. -/
inductive Lexing
  | blank
  | word (read : List Char)
  | number (read : List Char)
  | text (read : List Char)
  | escape (read : List Char) (high : Option Nat)
  | unicode (read : List Char) (high : Option Nat) (left code : Nat)
  | partner (read : List Char) (high : Nat)

/-- A unit of a surrogate pair, or a character, after its four digits. -/
def afterUnit (read : List Char) (high : Option Nat) (unit : Nat) : Option Lexing :=
  match high with
  | some h =>
    if 0xDC00 ≤ unit ∧ unit < 0xE000 then
      some (.text (Char.ofNat (0x10000 + (h - 0xD800) * 0x400 + (unit - 0xDC00)) :: read))
    else none
  | none =>
    if 0xD800 ≤ unit ∧ unit < 0xDC00 then some (.partner read unit)
    else if 0xDC00 ≤ unit ∧ unit < 0xE000 then none
    else some (.text (Char.ofNat unit :: read))

/-- The first character of a token, or a blank: the token if it is complete, and where the reader
stands after it. -/
def startToken (c : Char) : Option (List Token × Lexing) :=
  if isSpace c then some ([], .blank)
  else if c = '"' then some ([], .text [])
  else if isWordChar c then some ([], .word [c])
  else if isDigit c || c = '-' then some ([], .number [c])
  else (punctuation? c).map fun t => ([t], .blank)

/-- One character: the tokens that it completes, and where the reader stands after it. -/
def Lexing.step : Lexing → Char → Option (List Token × Lexing)
  | .blank, c => startToken c
  | .word read, c =>
    if isWordChar c then some ([], .word (c :: read))
    else do
      let t ← word? read.reverse
      let (ts, next) ← startToken c
      return (t :: ts, next)
  | .number read, c =>
    if isNumberChar c then some ([], .number (c :: read))
    else do
      let n ← number? read.reverse
      let (ts, next) ← startToken c
      return (.number n :: ts, next)
  | .text read, c =>
    if c = '"' then some ([.string read.reverse], .blank)
    else if c = '\\' then some ([], .escape read none)
    else if c.toNat < 0x20 then none
    else some ([], .text (c :: read))
  | .escape read high, c =>
    if c = 'u' then some ([], .unicode read high 4 0)
    else if high.isSome then none
    else (escape? c).map fun e => ([], .text (e :: read))
  | .unicode read high left code, c => do
    let d ← hexValue? c
    let code := code * 16 + d
    if left ≤ 1 then
      let next ← afterUnit read high code
      return ([], next)
    else return ([], .unicode read high (left - 1) code)
  | .partner read high, c => if c = '\\' then some ([], .escape read (some high)) else none

/-- The tokens that the end of the document completes. -/
def Lexing.finish : Lexing → Option (List Token)
  | .blank => some []
  | .word read => (word? read.reverse).map ([·])
  | .number read => (number? read.reverse).map ([.number ·])
  | _ => none

/-- The tokens of a document, from where the reader stands. -/
def lexFrom : Lexing → List Char → Option (List Token)
  | at_, [] => at_.finish
  | at_, c :: cs => do
    let (ts, next) ← at_.step c
    let rest ← lexFrom next cs
    return ts ++ rest

def lex (cs : List Char) : Option (List Token) := lexFrom .blank cs

/-! ## Values -/

/-- An open array or object: its items so far, last first, or its members so far and the key
whose value comes next. -/
inductive Frame
  | array (items : List Value)
  | object (members : Members) (key : String)

/-- What may come next. -/
inductive Reading
  | value (stack : List Frame)
  | firstItem (stack : List Frame)
  | firstKey (stack : List Frame)
  | nextKey (stack : List Frame) (members : Members)
  | colon (stack : List Frame) (members : Members) (key : String)
  | separator (stack : List Frame) (frame : Frame) (last : Value)
  | done (v : Value)

/-- How many values may be open at once. -/
def maxDepth : Nat := 127

/-- A value is complete; it belongs to what is open around it. -/
def complete (v : Value) : List Frame → Reading
  | [] => .done v
  | frame :: stack => .separator stack frame v

def readValue (stack : List Frame) : Token → Option Reading
  | .null => some (complete .null stack)
  | .bool b => some (complete (.bool b) stack)
  | .number n => some (complete (.number n) stack)
  | .string s => some (complete (.string (String.ofList s)) stack)
  | .openArray => if stack.length < maxDepth then some (.firstItem stack) else none
  | .openObject => if stack.length < maxDepth then some (.firstKey stack) else none
  | _ => none

def Reading.step : Reading → Token → Option Reading
  | .value stack, t => readValue stack t
  | .firstItem stack, .closeArray => some (complete (.array []) stack)
  | .firstItem stack, t => readValue (.array [] :: stack) t
  | .firstKey stack, .closeObject => some (complete (.object []) stack)
  | .firstKey stack, .string key => some (.colon stack [] (String.ofList key))
  | .nextKey stack members, .string key => some (.colon stack members (String.ofList key))
  | .colon stack members key, .colon => some (.value (.object members key :: stack))
  | .separator stack (.array items) v, .comma => some (.value (.array (v :: items) :: stack))
  | .separator stack (.array items) v, .closeArray =>
    some (complete (.array (v :: items).reverse) stack)
  | .separator stack (.object members key) v, .comma =>
    some (.nextKey stack (members.insert key v))
  | .separator stack (.object members key) v, .closeObject =>
    some (complete (.object (members.insert key v)) stack)
  | _, _ => none

def Reading.run : Reading → List Token → Option Reading
  | r, [] => some r
  | r, t :: ts => (r.step t).bind (·.run ts)

/-- The value of a finished document. -/
def Reading.result? : Reading → Option Value
  | .done v => some v
  | _ => none

/-- The value that a document holds. -/
def parse? (s : String) : Option Value := do
  let tokens ← lex s.toList
  let last ← (Reading.value []).run tokens
  last.result?

end ChainIndexer.Json
