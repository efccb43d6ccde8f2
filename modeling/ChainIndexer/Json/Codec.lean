import ChainIndexer.Json.Writer
import ChainIndexer.Text.Quoted
import ChainIndexer.Time.Reader

/-!
# Reading and writing typed data

A `Codec α` reads a value as an `α` and writes an `α` as a value. A record is described once, by
its fields in order, and both directions are derived from that description.

* Keys are visited in ascending order and the first wrong one is reported; after all keys, the
  first required field without a value. Other keys are passed over.
* A record may also be a list of its fields in order.
* A union names its case under one key and holds the case's data under another. When the data's key
  comes first, the data is set aside until the case is known; a list that is too long is worded
  differently then, which is what `Stage` is for.
-/

namespace ChainIndexer.Json

/-! ## Errors -/

/-- Why a value is not of the wanted type. -/
inductive DecodeError
  | invalidType (found : Value) (wanted : String)
  | invalidValue (found : String) (wanted : String)
  | invalidLength (count : Nat) (wanted : String)
  | missingField (name : String)
  | duplicateField (name : String)
  | unknownVariant (name : String) (known : List String)
  | noVariant (type : String)
  | numeral (fault : NumeralError)
  | time (fault : Time.Fault)

/-- A name between backticks. -/
def ticked (s : String) : String :=
  let tick := String.singleton (Char.ofNat 0x60)
  tick ++ s ++ tick

/-- What was found, in words. -/
def Value.describe : Value → String
  | .null => "null"
  | .bool b => "boolean " ++ ticked (if b then "true" else "false")
  | .number (.whole n _) => "integer " ++ ticked (Numeral.integer n)
  | .number (.double bits) => "floating point " ++ ticked (Decimal.text bits)
  | .string s => "string " ++ Text.quoted s
  | .array _ => "sequence"
  | .object _ => "map"

/-- The names of the known cases, in words. -/
def describeKnown : List String → String
  | [] => "there are no variants"
  | [a] => "expected " ++ ticked a
  | [a, b] => "expected " ++ ticked a ++ " or " ++ ticked b
  | names => "expected one of " ++ ", ".intercalate (names.map ticked)

def DecodeError.message : DecodeError → String
  | invalidType found wanted => "invalid type: " ++ found.describe ++ ", expected " ++ wanted
  | invalidValue found wanted => "invalid value: " ++ found ++ ", expected " ++ wanted
  | invalidLength count wanted =>
    "invalid length " ++ Numeral.natural count ++ ", expected " ++ wanted
  | missingField name => "missing field " ++ ticked name
  | duplicateField name => "duplicate field " ++ ticked name
  | unknownVariant name known =>
    "unknown variant " ++ ticked name ++ ", " ++ describeKnown known
  | noVariant type => "data did not match any variant of untagged enum " ++ type
  | numeral fault => fault.message
  | time fault => fault.message

/-! ## Codecs -/

/-- How a value comes to its reader: straight from the document, or set aside while the case it
belongs to was looked for. -/
inductive Stage
  | direct
  | setAside
  deriving DecidableEq

/-- The two directions between a type and its JSON form. -/
structure Codec (α : Type) where
  read : Stage → Value → Except DecodeError α
  write : α → Value

/-- Reads a value straight from the document. -/
def Codec.decode {α : Type} (c : Codec α) (v : Value) : Except DecodeError α := c.read .direct v

namespace Codec

variable {α β : Type}

/-! ## Scalars -/

def value : Codec Value := ⟨fun _ v => .ok v, id⟩

def string : Codec String where
  read _ v := match v with
    | .string s => .ok s
    | v => .error (.invalidType v "a string")
  write := .string

/-- A truth value. -/
def bool : Codec Bool where
  read _ v := match v with
    | .bool b => .ok b
    | v => .error (.invalidType v "a boolean")
  write := .bool

/-- Reads an integer between two bounds. -/
def readInteger (low high : Int) (wanted : String) (v : Value) : Except DecodeError Int :=
  match v with
  | .number (.whole n _) =>
    if low ≤ n ∧ n ≤ high then .ok n else .error (.invalidValue v.describe wanted)
  | v => .error (.invalidType v wanted)

/-- A natural number of 64 bits under a name. -/
def natural64 (wanted : String) : Codec UInt64 where
  read _ v := (readInteger 0 0xFFFFFFFFFFFFFFFF wanted v).map fun n => UInt64.ofNat n.toNat
  write := Value.ofUInt64

/-- A natural number of 64 bits. -/
def uint64 : Codec UInt64 := natural64 "u64"

def index : Codec UInt64 := natural64 "usize"

/-- A natural number of 32 bits. -/
def uint32 : Codec UInt32 where
  read _ v := (readInteger 0 0xFFFFFFFF "u32" v).map fun n => UInt32.ofNat n.toNat
  write n := Value.ofNat n.toNat

def uint8 : Codec UInt8 where
  read _ v := (readInteger 0 0xFF "u8" v).map fun n => UInt8.ofNat n.toNat
  write n := Value.ofNat n.toNat

/-- An integer of 64 bits with a sign. -/
def int64 : Codec Int64 where
  read _ v := (readInteger (-0x8000000000000000) 0x7FFFFFFFFFFFFFFF "i64" v).map Int64.ofInt
  write := Value.ofInt64

/-- An instant, read in the loose form. -/
def time : Codec Time where
  read _ v := match v with
    | .string s => (Time.readLoose s).mapError .time
    | v => .error (.invalidType v "an RFC 3339 formatted date and time string")
  write t := .string t.text

/-! ## Integers written as strings -/

/-- The integer of a number that is no larger than 64 bits with a sign. -/
def smallInteger? : Value → Option Int
  | .number (.whole n _) => if n < 0x8000000000000000 then some n else none
  | _ => none

/-- A natural number of 64 bits, written as a string. It is read from a string, the empty one being
zero, or from a number that 64 bits with a sign hold, taken modulo `2 ^ 64`. -/
def stringUInt64 : Codec UInt64 where
  read _ v := match v with
    | .string s => if s.isEmpty then .ok 0 else (Numeral.readUInt64 s).mapError .numeral
    | v => match smallInteger? v with
      | some n => .ok (UInt64.ofInt n)
      | none => .error (.noVariant "StringOrNumber")
  write n := .string (Numeral.natural n.toNat)

/-- An integer of 64 bits with a sign, written as a string, and read from a string, the empty one
being zero, or from a number. -/
def stringInt64 : Codec Int64 where
  read _ v := match v with
    | .string s => if s.isEmpty then .ok 0 else (Numeral.readInt64 s).mapError .numeral
    | v => match smallInteger? v with
      | some n => .ok (Int64.ofInt n)
      | none => .error (.noVariant "StringOrNumber")
  write n := .string (Numeral.integer n.toInt)

/-! ## Containers -/

/-- A value or `null`. -/
def option (c : Codec α) : Codec (Option α) where
  read stage v := match v with
    | .null => .ok none
    | v => (c.read stage v).map some
  write := Value.ofOption c.write

def list (c : Codec α) : Codec (List α) where
  read stage v := match v with
    | .array items => items.mapM (c.read stage)
    | v => .error (.invalidType v "a sequence")
  write xs := .array (xs.map c.write)

/-- A map from texts, in ascending order of its keys. -/
def map (c : Codec α) : Codec (List (String × α)) where
  read stage v := match v with
    | .object members => members.mapM fun (k, v) => (c.read stage v).map (k, ·)
    | v => .error (.invalidType v "a map")
  write xs := .object (xs.map fun (k, a) => (k, c.write a))

/-- The same form for another type. -/
def transport (c : Codec α) (there : α → β) (back : β → α) : Codec β :=
  ⟨fun stage v => (c.read stage v).map there, fun b => c.write (back b)⟩

/-! ## Enumerations -/

/-- Reads the name of a case: a text, or an object with that one key and nothing under it. -/
def readName (known : List String) (v : Value) : Except DecodeError String :=
  let check (name : String) (content : Value) : Except DecodeError String :=
    if known.contains name then
      if content.isNull then .ok name else .error (.invalidType content "unit")
    else .error (.unknownVariant name known)
  match v with
  | .string name => check name .null
  | .object [(name, content)] => check name content
  | .object _ => .error (.invalidValue v.describe "map with a single key")
  | v => .error (.invalidType v "string or map")

def enumeration (cases : List (String × α)) (name : α → String) : Codec α where
  read _ v := do
    let key ← readName (cases.map Prod.fst) v
    match cases.lookup key with
    | some a => .ok a
    | none => .error (.unknownVariant key (cases.map Prod.fst))
  write a := .string (name a)

/-- A case of a union: its name and the form of its data. -/
structure Case (α : Type) where
  name : String
  read : Stage → Value → Except DecodeError α

def Case.of {β : Type} (name : String) (c : Codec β) (inject : β → α) : Case α :=
  ⟨name, fun stage v => (c.read stage v).map inject⟩

/-- Reads the data of the named case. -/
def readCase (cases : List (Case α)) (stage : Stage) (tag content : Value) :
    Except DecodeError α := do
  let key ← readName (cases.map Case.name) tag
  match cases.find? fun c => c.name == key with
  | some c => c.read stage content
  | none => .error (.unknownVariant key (cases.map Case.name))

/-- A union: the case's name under one key, its data under another, or a list of the two. -/
def union (type tagKey contentKey : String) (cases : List (Case α)) (write : α → String × Value) :
    Codec α where
  read stage v := match v with
    | .object members => do
      let tag ← match members.lookup tagKey with
        | some tag => pure tag
        | none => throw (.missingField tagKey)
      match members.lookup contentKey with
      | some content =>
        let stage := if contentKey < tagKey then .setAside else stage
        readCase cases stage tag content
      | none =>
        let _ ← readName (cases.map Case.name) tag
        throw (.missingField contentKey)
    | .array items => match items with
      | [] => .error (.invalidLength 0 ("adjacently tagged enum " ++ type))
      | [tag] => do
        let _ ← readName (cases.map Case.name) tag
        throw (.invalidLength 1 ("adjacently tagged enum " ++ type))
      | tag :: content :: rest => do
        let a ← readCase cases stage tag content
        if rest.isEmpty then return a
        else throw (match stage with
          | .direct => .invalidLength items.length "fewer elements in array"
          | .setAside => .invalidLength items.length "2 elements in sequence")
    | v => .error (.invalidType v ("adjacently tagged enum " ++ type))
  write a :=
    let (tag, content) := write a
    Value.ofList [(tagKey, .string tag), (contentKey, content)]

end Codec

end ChainIndexer.Json
