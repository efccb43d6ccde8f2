import ChainIndexer.Json.Reader
import ChainIndexer.Text.Utf8

/-!
# The outline of a document

A record is read from the bytes of a document without a look at what it does not need. The keys of
the outermost object are read, and the values of the members that the record knows. All else is
passed over: brackets, commas and colons must stand where they belong, strings must be closed and
free of control characters, their escapes well formed, numbers written as numbers; but the bytes of
a string need be no text, no surrogate needs its partner, no number is too large, and any number of
values may be open at once.

* `skim` cuts the bytes into pieces, a byte at a time.
* `Outline.step` says which piece may come next, and `membersFrom` gathers the members of the
  outermost object.
* `parseKnown?` reads the members that are wanted.
-/

namespace ChainIndexer.Json

/-! ## Pieces -/

/-- A piece of a document: a mark, or the bytes of a word, a number or a string. -/
inductive Piece
  | mark (t : Token)
  | scalar (bytes : List UInt8)
  | text (bytes : List UInt8)
  deriving DecidableEq, Repr

/-- The character with the number of a byte. -/
def latin (b : UInt8) : Char := Char.ofNat b.toNat

/-- Where the reader stands between or inside pieces; bytes are held last first. -/
inductive Skimming
  | blank
  | word (read : List UInt8)
  | number (read : List UInt8)
  | text (read : List UInt8)
  | escape (read : List UInt8)
  | unicode (read : List UInt8) (left : Nat)

/-- The bytes are a word that stands for a value. -/
def isWord (bytes : List UInt8) : Bool := (word? (bytes.map latin)).isSome

/-- The bytes are a written number. -/
def isNumeral (bytes : List UInt8) : Bool := (Numeral.ofChars? (bytes.map latin)).isSome

/-- The first byte of a piece, or a blank: the piece if it is complete, and where the reader stands
after it. -/
def startPiece (b : UInt8) : Option (List Piece × Skimming) :=
  let c := latin b
  if isSpace c then some ([], .blank)
  else if c = '"' then some ([], .text [b])
  else if isWordChar c then some ([], .word [b])
  else if isDigit c || c = '-' then some ([], .number [b])
  else (punctuation? c).map fun t => ([.mark t], .blank)

/-- A word or a number ends before this byte. -/
def endScalar (read : List UInt8) (wellFormed : List UInt8 → Bool) (b : UInt8) :
    Option (List Piece × Skimming) :=
  if wellFormed read.reverse then
    (startPiece b).map fun (pieces, next) => (.scalar read.reverse :: pieces, next)
  else none

/-- One byte: the pieces that it completes, and where the reader stands after it. -/
def Skimming.step : Skimming → UInt8 → Option (List Piece × Skimming)
  | .blank, b => startPiece b
  | .word read, b =>
    if isWordChar (latin b) then some ([], .word (b :: read)) else endScalar read isWord b
  | .number read, b =>
    if isNumberChar (latin b) then some ([], .number (b :: read)) else endScalar read isNumeral b
  | .text read, b =>
    if latin b = '"' then some ([.text (b :: read).reverse], .blank)
    else if latin b = '\\' then some ([], .escape (b :: read))
    else if b < 0x20 then none
    else some ([], .text (b :: read))
  | .escape read, b =>
    if latin b = 'u' then some ([], .unicode (b :: read) 4)
    else (escape? (latin b)).map fun _ => ([], .text (b :: read))
  | .unicode read left, b =>
    (hexValue? (latin b)).map fun _ =>
      if left ≤ 1 then ([], .text (b :: read)) else ([], .unicode (b :: read) (left - 1))

/-- The pieces that the end of the document completes. -/
def Skimming.finish : Skimming → Option (List Piece)
  | .blank => some []
  | .word read => if isWord read.reverse then some [.scalar read.reverse] else none
  | .number read => if isNumeral read.reverse then some [.scalar read.reverse] else none
  | _ => none

/-- The pieces of a document, from where the reader stands. -/
def skimFrom : Skimming → List UInt8 → Option (List Piece)
  | at_, [] => at_.finish
  | at_, b :: bs => do
    let (pieces, next) ← at_.step b
    let rest ← skimFrom next bs
    return pieces ++ rest

def skim (bytes : List UInt8) : Option (List Piece) := skimFrom .blank bytes

/-- The token that a piece is; none where it is not a text, has a surrogate without its partner, or
is a number too large. -/
def Piece.token? : Piece → Option Token
  | mark t => some t
  | scalar bytes | text bytes => do
    let s ← (Utf8.decode bytes).toOption
    match ← lex s.toList with
    | [t] => some t
    | _ => none

/-! ## The order of pieces -/

/-- What is open. -/
inductive Bracket
  | array
  | object
  deriving DecidableEq, Repr

/-- What may come next. -/
inductive Place
  | value
  | firstItem
  | firstKey
  | nextKey
  | colon
  | separator
  | done
  deriving DecidableEq, Repr

/-- Where the reader stands: what may come next, and what is open around it, the innermost
first. -/
structure Outline where
  place : Place
  around : List Bracket
  deriving DecidableEq, Repr

namespace Outline

def complete : List Bracket → Outline
  | [] => ⟨.done, []⟩
  | around => ⟨.separator, around⟩

def startValue (around : List Bracket) : Piece → Option Outline
  | .mark .openArray => some ⟨.firstItem, .array :: around⟩
  | .mark .openObject => some ⟨.firstKey, .object :: around⟩
  | .mark _ => none
  | _ => some (complete around)

def step : Outline → Piece → Option Outline
  | ⟨.value, around⟩, p => startValue around p
  | ⟨.firstItem, .array :: around⟩, .mark .closeArray => some (complete around)
  | ⟨.firstItem, around⟩, p => startValue around p
  | ⟨.firstKey, .object :: around⟩, .mark .closeObject => some (complete around)
  | ⟨.firstKey, around⟩, .text _ => some ⟨.colon, around⟩
  | ⟨.nextKey, around⟩, .text _ => some ⟨.colon, around⟩
  | ⟨.colon, around⟩, .mark .colon => some ⟨.value, around⟩
  | ⟨.separator, .array :: around⟩, .mark .comma => some ⟨.value, .array :: around⟩
  | ⟨.separator, .array :: around⟩, .mark .closeArray => some (complete around)
  | ⟨.separator, .object :: around⟩, .mark .comma => some ⟨.nextKey, .object :: around⟩
  | ⟨.separator, .object :: around⟩, .mark .closeObject => some (complete around)
  | _, _ => none

/-- What a piece is to the members of the outermost object: a key, a part of a value, or neither. -/
inductive Role
  | key
  | part
  | neither
  deriving DecidableEq, Repr

def role : Outline → Piece → Role
  | ⟨_, []⟩, _ => .neither
  | ⟨.firstKey, [_]⟩, .text _ => .key
  | ⟨.nextKey, [_]⟩, .text _ => .key
  | ⟨.value, [_]⟩, _ => .part
  | ⟨_, [_]⟩, _ => .neither
  | ⟨_, _ :: _ :: _⟩, _ => .part

end Outline

/-- Reads on to the end of the document: the parts of the value that is open, and the members after
it, each a key with the parts of its value. -/
def membersFrom : Outline → List Piece → Option (List Piece × List (Piece × List Piece))
  | at_, [] => if at_.place = .done then some ([], []) else none
  | at_, p :: ps => do
    let next ← at_.step p
    let (parts, members) ← membersFrom next ps
    return match at_.role p with
      | .key => ([], (p, parts) :: members)
      | .part => (p :: parts, members)
      | .neither => (parts, members)

/-! ## Members that are wanted -/

def Piece.key? (p : Piece) : Option String := do
  match ← p.token? with
  | .string s => some (String.ofList s)
  | _ => none

/-- The value of a member of the outermost object. -/
def readParts? (parts : List Piece) : Option Value := do
  let tokens ← parts.mapM Piece.token?
  match ← (Reading.value [.object [] ""]).run tokens with
  | .separator [] _ v => some v
  | _ => none

/-- The members of an object that go by one of these keys, in the order of the document. -/
def readMembers? (known : List String) (bytes : List UInt8) : Option Members := do
  let pieces ← skim bytes
  let (_, members) ← membersFrom ⟨.value, []⟩ pieces
  let named ← members.mapM fun (key, parts) => (key.key?).map (·, parts)
  (named.filter fun m => known.contains m.1).mapM fun (key, parts) => (readParts? parts).map (key, ·)

def beginsObject (bytes : List UInt8) : Bool :=
  (bytes.map latin).find? (fun c => !isSpace c) == some '\x7b'

/-- What a reader that knows these keys sees in a document: of an object its members that go by
them, each as often as it is given, and any other value as a whole. -/
def parseKnown? (known : List String) (bytes : List UInt8) : Option Value :=
  if beginsObject bytes then (readMembers? known bytes).map .object
  else (Utf8.decode bytes).toOption.bind parse?

end ChainIndexer.Json
