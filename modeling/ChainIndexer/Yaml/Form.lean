import ChainIndexer.Json.Basic
import ChainIndexer.Yaml.Node

/-!
# Forms

What a node means depends on what is wanted there: the same plain scalar is a number where a number
is wanted and a text where a text is wanted. A form reads a node as a value. Only plain scalars are
numbers and truth values; every scalar is a text. An empty plain scalar is an empty table or record.
-/

namespace ChainIndexer.Yaml

open Json (Value)

abbrev Form := Node → Option Value

/-! ## Numbers -/

def digits? (base : Nat) (cs : List Char) : Option Nat :=
  if cs.isEmpty then none
  else cs.foldlM (fun n c => (hexDigit? c).bind fun d =>
    if d < base then some (base * n + d) else none) 0

/-- The digits would be a number, but start with a needless zero. -/
def isPadded (cs : List Char) : Bool :=
  match cs with
  | '0' :: c :: rest => (c :: rest).all fun c => '0' ≤ c && c ≤ '9'
  | _ => false

/-- The number of a plain scalar: decimal, or after `0x`, `0o` or `0b` in another base; a plus sign
may stand before it. A number with needless zeros is a text. -/
def natural? (text : String) : Option Nat :=
  let cs := match text.toList with
    | '+' :: rest => rest
    | cs => cs
  let based := match cs with
    | '0' :: 'x' :: rest => digits? 16 rest
    | '0' :: 'o' :: rest => digits? 8 rest
    | '0' :: 'b' :: rest => digits? 2 rest
    | _ => none
  match based with
  | some n => some n
  | none => if isPadded cs then none else digits? 10 cs

/-! ## Forms -/

namespace Form

def text : Form
  | .scalar s _ => some (.string s)
  | _ => none

/-- A natural number of 64 bits. -/
def natural : Form
  | .scalar s true =>
    (natural? s).bind fun n => if n < 0x10000000000000000 then some (Value.ofNat n) else none
  | _ => none

/-- A truth value. -/
def flag : Form
  | .scalar s true =>
    if ["true", "True", "TRUE"].contains s then some (.bool true)
    else if ["false", "False", "FALSE"].contains s then some (.bool false)
    else none
  | _ => none

def pair? (form : Form) : Node × Node → Option (String × Value)
  | (.scalar key _, v) => (form v).map fun v => (key, v)
  | _ => none

/-- A table with texts as keys; the last value of a key counts. -/
def table (form : Form) : Form
  | .scalar "" true => some (.object [])
  | .mapping pairs => (pairs.mapM (pair? form)).map Value.ofList
  | _ => none

/-- The fields of a record, each at most once; other keys are passed over. -/
def fields? (fields : List (String × Form)) :
    List (Node × Node) → Option (List (String × Value))
  | [] => some []
  | (.scalar key _, v) :: pairs =>
    match fields.lookup key with
    | some form => do
      let v ← form v
      let rest ← fields? fields pairs
      if rest.any fun p => p.1 == key then none else return (key, v) :: rest
    | none => fields? fields pairs
  | _ :: _ => none

/-- The fields of a record in their order. -/
def items? : List (String × Form) → List Node → Option (List (String × Value))
  | _, [] => some []
  | [], _ :: _ => none
  | (key, form) :: fields, v :: rest => do
    let v ← form v
    return (key, v) :: (← items? fields rest)

/-- A record: a mapping of its fields, or a sequence of them in order. -/
def record (fields : List (String × Form)) : Form
  | .scalar "" true => some (.object [])
  | .scalar _ _ => none
  | .mapping pairs => (fields? fields pairs).map Value.ofList
  | .sequence items => (items? fields items).map Value.ofList

end Form

end ChainIndexer.Yaml
