import ChainIndexer.Json.Codec

/-!
# Records

A record is described by its fields in order: the key, how the field is taken from the record, its
form, and what stands for it when it is absent. `record` derives the reader and the writer.
-/

namespace ChainIndexer.Json

/-! ## Fields -/

/-- What stands for a field without a value: nothing, a value where its key is absent, or a value
also where a list is too short. -/
inductive Absence (α : Type)
  | required
  | optional (value : α)
  | default (value : α)

/-- The value for an absent key. -/
def Absence.value? {α : Type} : Absence α → Option α
  | required => none
  | optional a => some a
  | default a => some a

/-- The value for an absent item of a list. -/
def Absence.item? {α : Type} : Absence α → Option α
  | default a => some a
  | _ => none

/-- A field of the record `ρ`. -/
structure Field (ρ α : Type) where
  key : String
  get : ρ → α
  codec : Codec α
  absent : Absence α := .required
  aliases : List String := []
  written : ρ → Bool := fun _ => true

namespace Field

variable {ρ α : Type}

def named (f : Field ρ α) (key : String) : Bool := key == f.key || f.aliases.contains key

def required (key : String) (get : ρ → α) (codec : Codec α) : Field ρ α :=
  { key, get, codec }

/-- A field with a value to fall back on. -/
def default (key : String) (get : ρ → α) (codec : Codec α) (value : α) : Field ρ α :=
  { key, get, codec, absent := .default value }

/-- A field that may be `null` or left out. -/
def optional (key : String) (get : ρ → Option α) (codec : Codec α) : Field ρ (Option α) :=
  { key, get, codec := codec.option, absent := .optional none }

end Field

/-! ## The fields of a record -/

/-- The values of fields of these types. -/
def Tuple : List Type → Type
  | [] => Unit
  | α :: αs => α × Tuple αs

/-- The values read so far. -/
def Slots : List Type → Type
  | [] => Unit
  | α :: αs => Option α × Slots αs

/-- The fields of a record, in order. -/
inductive Fields (ρ : Type) : List Type → Type 1
  | nil : Fields ρ []
  | cons {α : Type} {αs : List Type} (field : Field ρ α) (rest : Fields ρ αs) : Fields ρ (α :: αs)

namespace Fields

variable {ρ : Type}

def count : {αs : List Type} → Fields ρ αs → Nat
  | _, nil => 0
  | _, cons _ rest => rest.count + 1

/-- The keys that a member may go by. -/
def names : {αs : List Type} → Fields ρ αs → List String
  | _, nil => []
  | _, cons f rest => f.key :: f.aliases ++ rest.names

/-- No field has a value yet. -/
def empty : {αs : List Type} → Fields ρ αs → Slots αs
  | _, nil => ()
  | _, cons _ rest => (none, rest.empty)

/-- Takes one member of an object. -/
def visit (stage : Stage) (key : String) (v : Value) :
    {αs : List Type} → Fields ρ αs → Slots αs → Except DecodeError (Slots αs)
  | _, nil, _ => .ok ()
  | _, cons f rest, (slot, slots) =>
    if f.named key then
      if slot.isSome then .error (.duplicateField f.key)
      else (f.codec.read stage v).map fun a => (some a, slots)
    else (rest.visit stage key v slots).map fun slots => (slot, slots)

/-- Takes the members of an object in their order. -/
def visitAll (stage : Stage) {αs : List Type} (fields : Fields ρ αs) :
    Members → Slots αs → Except DecodeError (Slots αs)
  | [], slots => .ok slots
  | (key, v) :: members, slots => do
    let slots ← fields.visit stage key v slots
    visitAll stage fields members slots

/-- The values of all fields, once no member is left. -/
def finish : {αs : List Type} → Fields ρ αs → Slots αs → Except DecodeError (Tuple αs)
  | _, nil, _ => .ok ()
  | _, cons f rest, (slot, slots) => do
    let a ← match slot <|> f.absent.value? with
      | some a => pure a
      | none => throw (.missingField f.key)
    let as ← rest.finish slots
    return (a, as)

/-- The values of all fields from a list, and the items left over; `place` counts the fields
before these, `wanted` names the record. -/
def readItems (stage : Stage) (wanted : String) :
    {αs : List Type} → Fields ρ αs → Nat → List Value → Except DecodeError (Tuple αs × List Value)
  | _, nil, _, items => .ok ((), items)
  | _, cons f rest, place, [] => do
    let a ← match f.absent.item? with
      | some a => pure a
      | none => throw (.invalidLength place wanted)
    let (as, items) ← rest.readItems stage wanted (place + 1) []
    return ((a, as), items)
  | _, cons f rest, place, v :: items => do
    let a ← f.codec.read stage v
    let (as, items) ← rest.readItems stage wanted (place + 1) items
    return ((a, as), items)

/-- The members that the record is written as, in field order. -/
def pairs (r : ρ) : {αs : List Type} → Fields ρ αs → List (String × Value)
  | _, nil => []
  | _, cons f rest =>
    if f.written r then (f.key, f.codec.write (f.get r)) :: rest.pairs r else rest.pairs r

end Fields

/-- The number of things, with its noun. -/
def counted (n : Nat) (noun : String) : String :=
  Numeral.natural n ++ " " ++ noun ++ if n = 1 then "" else "s"

/-- The form of a record: an object with its fields as members, or a list of its fields. -/
def record {ρ : Type} {αs : List Type} (name : String) (fields : Fields ρ αs)
    (build : Tuple αs → ρ) : Codec ρ where
  read stage v := match v with
    | .object members => do
      let slots ← fields.visitAll stage members fields.empty
      let values ← fields.finish slots
      return build values
    | .array items => do
      let wanted := "struct " ++ name ++ " with " ++ counted fields.count "element"
      let (values, rest) ← fields.readItems stage wanted 0 items
      if rest.isEmpty then return build values
      else throw (match stage with
        | .direct => .invalidLength items.length "fewer elements in array"
        | .setAside =>
          .invalidLength items.length (counted fields.count "element" ++ " in sequence"))
    | v => .error (.invalidType v ("struct " ++ name))
  write r := Value.ofList (fields.pairs r)

end ChainIndexer.Json
